import QueryDesk.Proofs.Text.Abreast

/-!
# Recognising in front of more text

A text may be put behind all that follows a place (`Place.extend`).  If it begins with a blank, a
word ends where it ended before, so the recognisers of words and of their edges find the same
(`word?_extend`, `edge?_extend`); only a run of blanks that reached the end goes on
(`blanks1?_extend`).

So a search finds in the longer text what it found in the shorter one (`firstMatch_extend`), and
something new only in the text behind or where the end of the shorter one kept it from being found.
-/

set_option autoImplicit false

namespace QueryDesk

namespace Glyph

/-- With two usual characters no glyph agrees. -/
theorem agrees_eq_false {g : Glyph} {c d : Char} (hc : isUsual c = true) (hd : isUsual d = true)
    (hne : c ≠ d) (h : g.agrees c = true) : g.agrees d = false := by
  rw [← Bool.not_eq_true]
  intro hagrees
  obtain ⟨a, rfl, ha⟩ := (agrees_iff_of_isUsual hc).mp h
  obtain ⟨b, hb, hb'⟩ := (agrees_iff_of_isUsual hd).mp hagrees
  rw [Glyph.char.injEq] at hb
  exact hne (ha.symm.trans (hb ▸ hb'))

/-- A glyph is the same letter as a usual character with which it agrees. -/
theorem sameLetter_of_agrees {g : Glyph} {c : Char} (hc : isUsual c = true)
    (hlower : c.toLower = c) (h : g.agrees c = true) : g.SameLetter (.char c) := by
  obtain ⟨d, rfl, hd⟩ := (agrees_iff_of_isUsual hc).mp h
  show Glyph.char d.toLower = .char c.toLower
  rw [hd, hlower]

end Glyph

namespace Place

variable {α : Type} {tail : Text} {p q : Place} {P : Glyph → Prop}

/-- The place with a text put behind all that follows. -/
def extend (tail : Text) (p : Place) : Place := ⟨p.before, p.rest ++ tail⟩

/-! ## What is behind a find -/

/-- What holds of the glyphs of a word and of all behind it holds of all from the word on. -/
theorem forall_of_word? {word : List Char} (h : p.word? word = some q)
    (hword : ∀ c ∈ word, ∀ g : Glyph, g.agrees c = true → P g) (hq : ∀ g ∈ q.rest, P g) :
    ∀ g ∈ p.rest, P g := by
  induction word generalizing p with
  | nil =>
    cases h
    exact hq
  | cons c cs ih =>
    obtain ⟨g, t, hrest, hg, ht⟩ := exists_of_word?_cons_eq_some h
    rw [hrest]
    refine List.forall_mem_cons.mpr ⟨hword c List.mem_cons_self g hg, ?_⟩
    exact ih ht fun d hd => hword d (List.mem_cons_of_mem c hd)

/-- In front of the place behind a word stands the last letter of the word. -/
theorem before_of_word? {cs : List Char} {c : Char} (h : p.word? (cs ++ [c]) = some q) :
    ∃ g, q.before = some g ∧ g.agrees c = true := by
  induction cs generalizing p with
  | nil =>
    obtain ⟨g, t, -, hg, ht⟩ := exists_of_word?_cons_eq_some h
    cases ht
    exact ⟨g, rfl, hg⟩
  | cons d cs ih =>
    obtain ⟨g, t, -, -, ht⟩ := exists_of_word?_cons_eq_some h
    exact ih ht

/-- What holds of blanks and of all behind them holds of all from the blanks on. -/
theorem forall_of_blanks1? (h : p.blanks1? = some q)
    (hblank : ∀ g : Glyph, g.isBlank = true → P g) (hq : ∀ g ∈ q.rest, P g) :
    ∀ g ∈ p.rest, P g := by
  rw [rest_of_blanks1? h] at hq
  rw [← List.takeWhile_append_dropWhile (p := Glyph.isBlank) (l := p.rest)]
  intro g hg
  rcases List.mem_append.mp hg with hg | hg
  · exact hblank g (List.mem_takeWhile_imp hg)
  · exact hq g hg

/-! ## Words -/

theorem edge?_extend (htail : ∀ g ∈ tail.head?, g.isWord = false) (p : Place) :
    (p.extend tail).edge? = p.edge?.map (extend tail) := by
  have hedge : (p.extend tail).atEdge = p.atEdge := by
    rcases p with ⟨before, rest⟩
    cases rest with
    | cons g rest => rfl
    | nil =>
      cases tail with
      | nil => rfl
      | cons g tail =>
        show (before.any Glyph.isWord != g.isWord) = (before.any Glyph.isWord != false)
        rw [htail g rfl]
  rw [edge?, edge?, hedge]
  split <;> rfl

theorem word?_extend {word : List Char}
    (htail : ∀ g ∈ tail.head?, ∀ c ∈ word, g.agrees c = false) (p : Place) :
    (p.extend tail).word? word = (p.word? word).map (extend tail) := by
  rcases p with ⟨before, rest⟩
  show word?.go word before (rest ++ tail) = (word?.go word before rest).map (extend tail)
  induction word generalizing before rest with
  | nil => rfl
  | cons c cs ih =>
    cases rest with
    | cons g rest =>
      rw [List.cons_append, word?.go, word?.go]
      split
      · exact ih (fun a ha d hd => htail a ha d (List.mem_cons_of_mem c hd)) _ _
      · rfl
    | nil =>
      cases tail with
      | nil => rfl
      | cons g tail =>
        show (if g.agrees c = true then _ else none) = none
        rw [htail g rfl c List.mem_cons_self, if_neg Bool.false_ne_true]

/-- A run that does not reach the end, or that the longer text does not go on with, stays. -/
theorem span_extend {test : Glyph → Bool}
    (h : p.rest.dropWhile test = [] → ∀ g ∈ tail.head?, test g = false) :
    (p.extend tail).span test = ((p.span test).1, (p.span test).2.extend tail) := by
  have hrest : ∀ g ∈ (p.rest.dropWhile test ++ tail).head?, test g = false := by
    intro g hg
    cases hdrop : p.rest.dropWhile test with
    | nil =>
      rw [hdrop] at hg
      exact h hdrop g hg
    | cons a u =>
      rw [hdrop] at hg
      have hnot := List.head?_dropWhile_not test p.rest
      rw [hdrop] at hnot
      cases hg
      simpa using hnot
  have hspan := span_append (fun g hg => List.mem_takeWhile_imp (l := p.rest) hg) hrest p.before
  rw [← List.append_assoc, List.takeWhile_append_dropWhile] at hspan
  rw [span_eq test p]
  exact hspan

theorem span1?_extend {test : Glyph → Bool}
    (h : p.rest.dropWhile test = [] → ∀ g ∈ tail.head?, test g = false) :
    (p.extend tail).span1? test =
      (p.span1? test).map fun found => (found.1, found.2.extend tail) := by
  rw [span1?, span1?, span_extend h]
  rcases p.span test with ⟨run, q⟩
  cases run <;> rfl

/-! ## Blanks -/

/-- Blanks that end in front of another glyph end there in the longer text as well. -/
theorem blanks1?_extend (h : ¬ ∀ g ∈ p.rest, g.isBlank = true) (tail : Text) :
    (p.extend tail).blanks1? = p.blanks1?.map (extend tail) ∧
      ∀ q, p.blanks1? = some q → q.rest ≠ [] := by
  have hne : p.rest.dropWhile Glyph.isBlank ≠ [] := mt List.dropWhile_eq_nil_iff.mp h
  refine ⟨?_, fun q hq => ?_⟩
  · rw [blanks1?, blanks1?, span1?_extend fun hnil => absurd hnil hne, Option.map_map,
      Option.map_map]
    rfl
  · rw [rest_of_blanks1? hq]
    exact hne

/-- Blanks that reach the end go on with a blank behind it. -/
theorem blanks1?_extend_of_forall (h : ∀ g ∈ p.rest, g.isBlank = true) {b : Glyph} {more : Text}
    (hb : b.isBlank = true) (hmore : ∀ g ∈ more.head?, g.isBlank = false) :
    (p.extend (b :: more)).blanks1? = some ⟨some b, more⟩ := by
  have hrun : ∀ g ∈ p.rest ++ [b], g.isBlank = true := by
    intro g hg
    rcases List.mem_append.mp hg with hg | hg
    · exact h g hg
    · exact List.mem_singleton.mp hg ▸ hb
  have hspan := span1?_append (by simp) hrun hmore p.before
  rw [List.append_assoc, lastGlyph_append, lastGlyph_cons, lastGlyph_nil] at hspan
  rw [blanks1?, show (p.extend (b :: more)).span1? Glyph.isBlank = _ from hspan]
  rfl

/-- Blanks with something behind them are the same in the longer text. -/
theorem blanks1?_extend_of_ne_nil (h : p.blanks1? = some q) (hne : q.rest ≠ []) (tail : Text) :
    (p.extend tail).blanks1? = some (q.extend tail) := by
  have hblanks : ¬ ∀ g ∈ p.rest, g.isBlank = true := by
    intro hall
    exact hne ((rest_of_blanks1? h).trans (List.dropWhile_eq_nil_iff.mpr hall))
  rw [(blanks1?_extend hblanks tail).1, h]
  rfl

/-! ## Searching -/

/-- A keyword is found nowhere in a text without its first letter. -/
theorem avoids_keyword {c : Char} {cs : List Char} {more : Place → Option α} {t : Text}
    (h : ∀ g ∈ t, g.agrees c = false) (before : Option Glyph) :
    Avoids (fun p => p.edge?.bind fun p => (p.word? (c :: cs)).bind more) before t := by
  induction t generalizing before with
  | nil => exact trivial
  | cons g t ih =>
    exact ⟨fun rest => keyword?_eq_none (h g List.mem_cons_self) cs more before (t ++ rest),
      ih (fun a ha => h a (List.mem_cons_of_mem g ha)) _⟩

/-- A keyword is found nowhere if it is not found at the first place and no other glyph is its first
letter. -/
theorem firstMatch_keyword_eq_none {c : Char} {cs : List Char} {more : Place → Option α}
    (hp : (p.edge?.bind fun p => (p.word? (c :: cs)).bind more) = none)
    (h : ∀ g ∈ p.rest.tail, g.agrees c = false) :
    (p.firstMatch fun p => p.edge?.bind fun p => (p.word? (c :: cs)).bind more) = none := by
  have hend : ∀ b : Option Glyph,
      (edge? ⟨b, []⟩).bind (fun p => (p.word? (c :: cs)).bind more) = none := by
    intro b
    rw [edge?]
    split <;> rfl
  rcases p with ⟨before, rest⟩
  cases rest with
  | nil => exact hp
  | cons g t =>
    have havoids : Avoids (fun p => p.edge?.bind fun p => (p.word? (c :: cs)).bind more) (some g)
        t := avoids_keyword h _
    have hrest := firstMatch_append havoids []
    rw [List.append_nil] at hrest
    rw [firstMatch_cons, hp, Option.none_or]
    exact hrest.trans (hend _)

/-- Of what stands in front of a keyword it only matters whether a word goes on. -/
theorem firstMatch_keyword_congr {c : Char} {cs : List Char} {more : Place → Option α}
    {b b' : Option Glyph} (hb : b.any Glyph.isWord = b'.any Glyph.isWord) (t : Text) :
    firstMatch (fun p => p.edge?.bind fun p => (p.word? (c :: cs)).bind more) ⟨b, t⟩ =
      firstMatch (fun p => p.edge?.bind fun p => (p.word? (c :: cs)).bind more) ⟨b', t⟩ := by
  have hword : word? (c :: cs) ⟨b, t⟩ = word? (c :: cs) ⟨b', t⟩ := by
    cases t <;> rfl
  have hhere : (edge? ⟨b, t⟩).bind (fun p => (p.word? (c :: cs)).bind more) =
      (edge? ⟨b', t⟩).bind fun p => (p.word? (c :: cs)).bind more := by
    rw [edge?, edge?, show atEdge ⟨b, t⟩ = atEdge ⟨b', t⟩ by rw [atEdge, atEdge, hb]]
    split
    · rw [Option.bind_some, Option.bind_some, hword]
    · rfl
  cases t with
  | nil => exact hhere
  | cons g t => rw [firstMatch_cons, firstMatch_cons, hhere]

theorem exists_of_firstMatch {recognise : Place → Option α} {a : α}
    (h : p.firstMatch recognise = some a) : ∃ q, recognise q = some a := by
  rcases p with ⟨before, rest⟩
  induction rest generalizing before with
  | nil => exact ⟨_, h⟩
  | cons g rest ih =>
    rw [firstMatch_cons, Option.or_eq_some_iff] at h
    rcases h with h | ⟨-, h⟩
    · exact ⟨_, h⟩
    · exact ih _ h

/-- What is recognised ends no further back than the search begins. -/
theorem length_le_of_firstMatch {recognise : Place → Option Place}
    (hr : ∀ p q, recognise p = some q → q.rest.length ≤ p.rest.length)
    (h : p.firstMatch recognise = some q) : q.rest.length ≤ p.rest.length := by
  rcases p with ⟨before, rest⟩
  induction rest generalizing before with
  | nil => exact hr _ _ h
  | cons g rest ih =>
    rw [firstMatch_cons, Option.or_eq_some_iff] at h
    rcases h with h | ⟨-, h⟩
    · exact hr _ _ h
    · exact Nat.le_succ_of_le (ih _ h)

/-- What is found is found by a recogniser that finds something wherever the other does. -/
theorem firstMatch_eq_none_of_weaker {β : Type} {recognise : Place → Option α}
    {weaker : Place → Option β} (hweaker : ∀ p, weaker p = none → recognise p = none)
    (h : p.firstMatch weaker = none) : p.firstMatch recognise = none := by
  rcases p with ⟨before, rest⟩
  induction rest generalizing before with
  | nil => exact hweaker _ h
  | cons g rest ih =>
    rw [firstMatch_cons, Option.or_eq_none_iff] at h
    rw [firstMatch_cons, hweaker _ h.1, Option.none_or]
    exact ih _ h.2

/-- A search passes over the shorter text if nothing is found there by a recogniser that finds
something wherever the search would. -/
theorem firstMatch_extend_of_none {β : Type} {recognise : Place → Option α}
    {weaker : Place → Option β} (hweaker : ∀ p, weaker p = none → recognise (p.extend tail) = none)
    (h : p.firstMatch weaker = none) :
    (p.extend tail).firstMatch recognise =
      firstMatch recognise ⟨lastGlyph p.before p.rest, tail⟩ := by
  rcases p with ⟨before, rest⟩
  induction rest generalizing before with
  | nil => rfl
  | cons g rest ih =>
    rw [firstMatch_cons, Option.or_eq_none_iff] at h
    have hnone : recognise ⟨before, g :: (rest ++ tail)⟩ = none := hweaker _ h.1
    show firstMatch recognise ⟨before, g :: (rest ++ tail)⟩ = _
    rw [firstMatch_cons, hnone, Option.none_or, lastGlyph_cons]
    exact ih _ h.2

/-- **A search in a longer text finds what it found**, or else something in the text behind, or
something that was not found at the place where it is because the text ended too early. -/
theorem firstMatch_extend {recognise : Place → Option α} {f : α → α} {tail : Text}
    (hfound : ∀ p a, recognise p = some a → recognise (p.extend tail) = some (f a))
    (hlate : ∀ p, recognise p = none → (recognise (p.extend tail)).isSome = true →
      p.firstMatch recognise = none) (p : Place) :
    (∃ a, p.firstMatch recognise = some a ∧ (p.extend tail).firstMatch recognise = some (f a)) ∨
      (p.firstMatch recognise = none ∧
        ((p.extend tail).firstMatch recognise =
            firstMatch recognise ⟨lastGlyph p.before p.rest, tail⟩ ∨
          ∃ q a, recognise q = none ∧ recognise (q.extend tail) = some a ∧
            (p.extend tail).firstMatch recognise = some a)) := by
  rcases p with ⟨before, rest⟩
  induction rest generalizing before with
  | nil =>
    cases hr : recognise ⟨before, []⟩ with
    | some a =>
      exact .inl ⟨a, firstMatch_of_match hr, firstMatch_of_match (hfound _ _ hr)⟩
    | none => exact .inr ⟨hr, .inl rfl⟩
  | cons g rest ih =>
    cases hr : recognise ⟨before, g :: rest⟩ with
    | some a =>
      exact .inl ⟨a, firstMatch_of_match hr, firstMatch_of_match (hfound _ _ hr)⟩
    | none =>
      cases hr' : recognise (extend tail ⟨before, g :: rest⟩) with
      | some a =>
        refine .inr ⟨hlate _ hr (by rw [hr']; rfl), .inr ⟨_, a, hr, hr', ?_⟩⟩
        exact firstMatch_of_match hr'
      | none =>
        have hshort : firstMatch recognise ⟨before, g :: rest⟩ =
            firstMatch recognise ⟨some g, rest⟩ := by
          rw [firstMatch_cons, hr, Option.none_or]
        have hlong : firstMatch recognise (extend tail ⟨before, g :: rest⟩) =
            firstMatch recognise (extend tail ⟨some g, rest⟩) := by
          show firstMatch recognise ⟨before, g :: (rest ++ tail)⟩ = _
          rw [firstMatch_cons, show recognise ⟨before, g :: (rest ++ tail)⟩ = none from hr',
            Option.none_or]
          rfl
        rw [hshort, hlong, lastGlyph_cons]
        exact ih (some g)

end Place
end QueryDesk
