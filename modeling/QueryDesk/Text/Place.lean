import QueryDesk.Text.Classes
import QueryDesk.Text.Casing

/-!
# Places in a text, and what is recognised there

A `Place` is a position of a text, given by the glyph just before it and by all that follows.
A recogniser is a function from a place to the place behind what it recognised, if it did.  The
recognisers here are the parts of clauses: a word, blanks, the edge of a word, a sign; larger ones
are written with `do`.  `firstMatch` tries a recogniser at every place from left to right and
`allMatches` goes on behind each success.
-/

set_option autoImplicit false

namespace QueryDesk

/-- A position of a text. -/
structure Place where
  /-- The glyph just before the position. -/
  before : Option Glyph
  /-- All that follows. -/
  rest : Text
  deriving DecidableEq, Repr

namespace Place

/-- The first place of a text. -/
def start (t : Text) : Place := ⟨none, t⟩

/-- The place one glyph on. -/
def next? (p : Place) : Option Place :=
  match p.rest with
  | [] => none
  | g :: rest => some ⟨some g, rest⟩

/-- Tests that exactly one of the two neighbours of a place belongs to a word. -/
def atEdge (p : Place) : Bool :=
  p.before.any Glyph.isWord != p.rest.head?.any Glyph.isWord

/-- Steps over the longest run of glyphs that satisfy a test; also gives the run. -/
def span (test : Glyph → Bool) (p : Place) : Text × Place :=
  go p.before p.rest
where
  /-- The run from here on. -/
  go (before : Option Glyph) : Text → Text × Place
    | [] => ([], ⟨before, []⟩)
    | g :: rest =>
      if test g then
        let (run, place) := go (some g) rest
        (g :: run, place)
      else ([], ⟨before, g :: rest⟩)

/-- Steps over blanks, if any. -/
def blanks (p : Place) : Place := (p.span Glyph.isBlank).2

/-- Steps over a run of glyphs that satisfy a test, at least one; also gives the run. -/
def span1? (test : Glyph → Bool) (p : Place) : Option (Text × Place) :=
  match p.span test with
  | ([], _) => none
  | found => some found

/-- Steps over blanks, at least one. -/
def blanks1? (p : Place) : Option Place := (p.span1? Glyph.isBlank).map (·.2)

/-- Steps over a word given in lower case, in any mixture of cases. -/
def word? (word : List Char) (p : Place) : Option Place :=
  go word p.before p.rest
where
  /-- The letters of the word still to come. -/
  go : List Char → Option Glyph → Text → Option Place
    | [], before, rest => some ⟨before, rest⟩
    | _ :: _, _, [] => none
    | c :: cs, _, g :: rest => if g.agrees c then go cs (some g) rest else none

/-- Steps over the first of several words that stands here; also gives the text of it. -/
def oneOf? (words : List (List Char)) (p : Place) : Option (Text × Place) :=
  words.firstM fun w => (p.word? w).map fun q => (p.rest.take w.length, q)

/-- Steps over one of the given characters. -/
def sign? (signs : List Char) (p : Place) : Option Place :=
  match p.rest with
  | [] => none
  | g :: rest => if g.isOneOf signs then some ⟨some g, rest⟩ else none

theorem length_span_go (test : Glyph → Bool) (before : Option Glyph) (t : Text) :
    (span.go test before t).1.length + (span.go test before t).2.rest.length = t.length := by
  induction t generalizing before with
  | nil => rfl
  | cons g rest ih =>
    have := ih (some g)
    by_cases h : test g
    · simp only [span.go, h, if_true, List.length_cons]; omega
    · simp [span.go, h]

/-- A run and what follows make up what was there. -/
theorem length_span (test : Glyph → Bool) (p : Place) :
    (p.span test).1.length + (p.span test).2.rest.length = p.rest.length :=
  length_span_go test p.before p.rest

theorem length_lt_of_span1? {test : Glyph → Bool} {p : Place} {found : Text × Place}
    (h : p.span1? test = some found) : found.2.rest.length < p.rest.length := by
  have hs := length_span test p
  unfold span1? at h
  rcases hp : p.span test with ⟨run, q⟩
  rw [hp] at h hs
  cases run with
  | nil => cases h
  | cons g run =>
    cases h
    simp only [List.length_cons] at hs ⊢
    omega

theorem length_lt_of_blanks1? {p q : Place} (h : p.blanks1? = some q) :
    q.rest.length < p.rest.length := by
  obtain ⟨found, hf, rfl⟩ := Option.map_eq_some_iff.mp h
  exact length_lt_of_span1? hf

theorem length_word?_go {word : List Char} {before : Option Glyph} {t : Text} {q : Place}
    (h : word?.go word before t = some q) : q.rest.length ≤ t.length := by
  induction word generalizing before t with
  | nil => simp only [word?.go, Option.some.injEq] at h; simp [← h]
  | cons c cs ih =>
    cases t with
    | nil => cases h
    | cons g rest =>
      simp only [word?.go] at h
      split at h
      · exact Nat.le_succ_of_le (ih h)
      · cases h

theorem length_le_of_word? {word : List Char} {p q : Place} (h : p.word? word = some q) :
    q.rest.length ≤ p.rest.length := length_word?_go h

/-- Stays at the edge of a word. -/
def edge? (p : Place) : Option Place := if p.atEdge then some p else none

/-- What a recogniser finds at the first place, from here on, where it finds anything. -/
def firstMatch {α : Type} (recognise : Place → Option α) (p : Place) : Option α :=
  go p.before p.rest
where
  /-- The search from a place on. -/
  go (before : Option Glyph) : Text → Option α
    | [] => recognise ⟨before, []⟩
    | g :: rest =>
      match recognise ⟨before, g :: rest⟩ with
      | some found => some found
      | none => go (some g) rest

/-- All that a recogniser finds from here on, each search starting behind the last find. -/
def allMatches {α : Type} (recognise : Place → Option (α × Place)) (p : Place) : List α :=
  go p.before p.rest
where
  /-- The search from a place on. -/
  go (before : Option Glyph) (rest : Text) : List α :=
    match rest with
    | [] => (recognise ⟨before, []⟩).toList.map (·.1)
    | g :: tail =>
      match recognise ⟨before, g :: tail⟩ with
      | none => go (some g) tail
      | some (found, behind) =>
        if behind.rest.length < (g :: tail).length then
          found :: go behind.before behind.rest
        else found :: go (some g) tail
  termination_by rest.length
  decreasing_by all_goals (simp only [List.length_cons] at *; omega)

end Place

end QueryDesk
