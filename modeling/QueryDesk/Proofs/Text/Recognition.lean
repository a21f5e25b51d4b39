import Mathlib.Data.List.Forall2
import Mathlib.Data.List.TakeWhile
import QueryDesk.Text.Casing
import QueryDesk.Text.Place

/-!
# What the recognisers find

Small facts about the recognisers of `QueryDesk.Text.Place`, in the two directions in which they are
used: on a text of known form a recogniser finds what stands there (`span_append`,
`blanks1?_space`), and what it finds lies ahead in the text (`suffix_of_word?` and its like), so
that a recogniser that needs some glyph finds nothing in a text without it
(`firstMatch_eq_none_of_needs`).
-/

set_option autoImplicit false

/-! ## Agreement without case

A glyph agrees with a character when it is that character in either case, and some letters have one
or two more glyphs that agree with them.  With a sign only the sign itself agrees
(`eq_of_agrees`), and a word without those letters is spelled by exactly the texts that are the
word in lower case (`spells_iff`).
-/

namespace QueryDesk

/-- What all characters of a word are to be is checked along the word, not for every character that
there is. -/
instance decidableForallMemWord (p : Char → Prop) [DecidablePred p] (word : List Char) :
    Decidable (∀ c ∈ word, p c) :=
  List.decidableBAll p word

/-- A text that agrees with a word, glyph by glyph. -/
def Text.Spells (t : Text) (word : List Char) : Prop :=
  List.Forall₂ (fun g c => g.agrees c = true) t word

/-- A character with which no glyph beyond ASCII agrees. -/
def Glyph.isUsual (c : Char) : Bool := c != 'i' && c != 's' && c != 'k'

namespace Glyph

theorem agrees_iff_of_isUsual {g : Glyph} {c : Char} (hc : isUsual c = true) :
    g.agrees c = true ↔ ∃ d : Char, g = .char d ∧ d.toLower = c := by
  simp only [isUsual, Bool.and_eq_true, bne_iff_ne] at hc
  obtain ⟨⟨hi, hs⟩, hk⟩ := hc
  cases g with
  | lone half => simp [agrees]
  | char d =>
    -- `hi`, `hs` and `hk` leave only the last case of `agrees`.
    simp [agrees]

theorem eq_of_toLower_eq {c d : Char} (hc : c.isLower = false) (hd : d.toLower = c) : d = c := by
  subst hd
  have hlower : d.toLower.isLower
      = (decide (d.toLower.val ≥ 'a'.val) && decide (d.toLower.val ≤ 'z'.val)) := rfl
  rw [hlower] at hc
  unfold Char.toLower at hc ⊢
  split
  · next h =>
    rw [dif_pos h] at hc
    simp [UInt32.le_iff_toNat_le] at h hc
    omega
  · rfl

/-- With a character that is no small letter only the character itself agrees. -/
theorem eq_of_agrees {g : Glyph} {c : Char} (hc : c.isLower = false) (h : g.agrees c = true) :
    g = .char c := by
  have husual : isUsual c = true := by
    simp only [isUsual, Bool.and_eq_true, bne_iff_ne]
    refine ⟨⟨?_, ?_⟩, ?_⟩ <;> rintro rfl <;> exact absurd hc (by decide)
  obtain ⟨d, rfl, hd⟩ := (agrees_iff_of_isUsual husual).mp h
  rw [eq_of_toLower_eq hc hd]

end Glyph

/-- **A word of usual letters is spelled by what is the word in lower case.** -/
theorem Text.spells_iff {t : Text} {word : List Char}
    (hword : ∀ c ∈ word, Glyph.isUsual c = true) :
    t.Spells word ↔ t.asciiLower = word.map .char := by
  rw [asciiLower, ← List.forall₂_eq_eq_eq, List.forall₂_map_left_iff,
    List.forall₂_map_right_iff, Spells]
  induction word generalizing t with
  | nil => simp
  | cons c cs ih =>
    cases t with
    | nil => simp
    | cons g t =>
      rw [List.forall₂_cons, List.forall₂_cons, ih fun c hc => hword c (List.mem_cons_of_mem _ hc),
        Glyph.agrees_iff_of_isUsual (hword c List.mem_cons_self)]
      cases g <;> simp

end QueryDesk

namespace QueryDesk

/-- What holds of the characters that are blanks, by their codes. -/
theorem Glyph.of_isBlank {P : Char → Prop} (hP : ∀ n ∈ blankCodes, P (Char.ofNat n)) {g : Glyph}
    (h : g.isBlank = true) : ∃ c, g = .char c ∧ P c := by
  have hcodes : ∀ n ∈ blankCodes, ¬(0xD800 ≤ n ∧ n < 0xE000) := by decide
  have hmem : g.code ∈ blankCodes := List.contains_iff_mem.mp h
  cases g with
  | lone half =>
    have hcode : (Glyph.lone half).code = 0xD800 + half.val := rfl
    exact absurd ⟨by omega, by omega⟩ (hcodes _ hmem)
  | char c =>
    have hc := hP c.toNat hmem
    rw [Char.ofNat_toNat] at hc
    exact ⟨c, rfl, hc⟩

/-- No blank belongs to a word. -/
theorem Glyph.isWord_of_isBlank {g : Glyph} (h : g.isBlank = true) : g.isWord = false := by
  obtain ⟨c, rfl, hc⟩ := of_isBlank (P := fun c => (Glyph.char c).isWord = false)
    (by decide +kernel) h
  exact hc

/-- With a character that is no blank no blank agrees. -/
theorem Glyph.agrees_of_isBlank {g : Glyph} {c : Char} (hc : (Glyph.char c).isBlank = false)
    (h : g.isBlank = true) : g.agrees c = false := by
  obtain ⟨d, rfl, hlower, hspecial⟩ := of_isBlank
    (P := fun d => d.toLower = d ∧ d ∉ ['\u0130', '\u0131', '\u017F', '\u212A']) (by decide +kernel) h
  have hne : d ≠ c := by
    rintro rfl
    rw [h] at hc
    cases hc
  simp only [List.mem_cons, List.not_mem_nil, or_false, not_or] at hspecial
  obtain ⟨hdotted, hdotless, hlong, hkelvin⟩ := hspecial
  unfold agrees
  dsimp only
  rw [hlower, beq_eq_false_iff_ne.mpr hne]
  split <;> simp [hdotted, hdotless, hlong, hkelvin]

namespace Place

/-! ## Runs -/

/-- The glyph just before what follows a text. -/
def lastGlyph (before : Option Glyph) (t : Text) : Option Glyph := t.getLast?.or before

@[simp] theorem lastGlyph_nil (before : Option Glyph) : lastGlyph before [] = before := rfl

@[simp] theorem lastGlyph_cons (before : Option Glyph) (g : Glyph) (t : Text) :
    lastGlyph before (g :: t) = lastGlyph (some g) t := by
  cases t with
  | nil => rfl
  | cons h t => simp [lastGlyph, List.getLast?_cons]

@[simp] theorem lastGlyph_append (before : Option Glyph) (t u : Text) :
    lastGlyph before (t ++ u) = lastGlyph (lastGlyph before t) u := by
  simp [lastGlyph, List.getLast?_append, Option.or_assoc]

/-- **A run ends where the test fails.** -/
theorem span_append {test : Glyph → Bool} {run rest : Text} (hrun : ∀ g ∈ run, test g = true)
    (hrest : ∀ g ∈ rest.head?, test g = false) (before : Option Glyph) :
    span test ⟨before, run ++ rest⟩ = (run, ⟨lastGlyph before run, rest⟩) := by
  show span.go test before (run ++ rest) = _
  induction run generalizing before with
  | nil =>
    cases rest with
    | nil => rfl
    | cons g rest => simp [span.go, hrest g rfl]
  | cons g run ih =>
    rw [List.cons_append, span.go, if_pos (hrun g List.mem_cons_self),
      ih (fun g hg => hrun g (List.mem_cons_of_mem _ hg)), lastGlyph_cons]

theorem span1?_append {test : Glyph → Bool} {run rest : Text} (hne : run ≠ [])
    (hrun : ∀ g ∈ run, test g = true) (hrest : ∀ g ∈ rest.head?, test g = false)
    (before : Option Glyph) :
    span1? test ⟨before, run ++ rest⟩ = some (run, ⟨lastGlyph before run, rest⟩) := by
  rw [span1?, span_append hrun hrest]
  cases run with
  | nil => exact absurd rfl hne
  | cons g run => rfl

theorem blanks_append {run rest : Text} (hrun : ∀ g ∈ run, g.isBlank = true)
    (hrest : ∀ g ∈ rest.head?, g.isBlank = false) (before : Option Glyph) :
    blanks ⟨before, run ++ rest⟩ = ⟨lastGlyph before run, rest⟩ := by
  rw [blanks, span_append hrun hrest]

theorem blanks1?_space {rest : Text} (h : ∀ g ∈ rest.head?, g.isBlank = false)
    (before : Option Glyph) :
    blanks1? ⟨before, .char ' ' :: rest⟩ = some ⟨some (.char ' '), rest⟩ := by
  have hrun : ∀ g ∈ [Glyph.char ' '], g.isBlank = true := by decide
  have hs := span1?_append (by simp) hrun h before
  rw [blanks1?, ← List.singleton_append, hs]
  rfl

theorem blanks1?_eq_none {g : Glyph} (h : g.isBlank = false) (before : Option Glyph)
    (rest : Text) : blanks1? ⟨before, g :: rest⟩ = none := by
  simp [blanks1?, span1?, span, span.go, h]

/-- A run is what the test takes off the front. -/
theorem span_eq (test : Glyph → Bool) (p : Place) : p.span test =
    (p.rest.takeWhile test,
      ⟨lastGlyph p.before (p.rest.takeWhile test), p.rest.dropWhile test⟩) := by
  rcases p with ⟨before, rest⟩
  have hrun : ∀ g ∈ rest.takeWhile test, test g = true := fun g => List.mem_takeWhile_imp
  have hrest : ∀ g ∈ (rest.dropWhile test).head?, test g = false := by
    intro g hg
    have hnot := List.head?_dropWhile_not test rest
    rw [Option.mem_def.mp hg] at hnot
    simpa using hnot
  have hspan := span_append hrun hrest before
  rwa [List.takeWhile_append_dropWhile] at hspan

theorem span1?_eq (test : Glyph → Bool) (p : Place) : p.span1? test =
    if p.rest.takeWhile test = [] then none
    else some (p.rest.takeWhile test,
      ⟨lastGlyph p.before (p.rest.takeWhile test), p.rest.dropWhile test⟩) := by
  rw [span1?, span_eq]
  cases p.rest.takeWhile test <;> rfl

theorem rest_of_blanks1? {p q : Place} (h : p.blanks1? = some q) :
    q.rest = p.rest.dropWhile Glyph.isBlank := by
  obtain ⟨found, hfound, rfl⟩ := Option.map_eq_some_iff.mp h
  rw [span1?_eq] at hfound
  split at hfound
  · cases hfound
  · cases hfound
    rfl

/-- Behind blanks, at least one, stands a blank. -/
theorem exists_before_of_blanks1? {p q : Place} (h : p.blanks1? = some q) :
    ∃ g, q.before = some g ∧ g.isBlank = true := by
  obtain ⟨found, hfound, rfl⟩ := Option.map_eq_some_iff.mp h
  rw [span1?_eq] at hfound
  split at hfound
  · cases hfound
  · next hne =>
    cases hfound
    have hlast := List.getLast?_eq_some_getLast hne
    exact ⟨_, by rw [lastGlyph, hlast, Option.some_or], List.mem_takeWhile_imp (List.getLast_mem hne)⟩

/-- Behind blanks, at least one, no word goes on. -/
theorem before_of_blanks1? {p q : Place} (h : p.blanks1? = some q) :
    q.before.any Glyph.isWord = false := by
  obtain ⟨g, hg, hblank⟩ := exists_before_of_blanks1? h
  rw [hg, Option.any_some, Glyph.isWord_of_isBlank hblank]

/-! ## Places ahead -/

theorem suffix_of_span_go (test : Glyph → Bool) (before : Option Glyph) (t : Text) :
    (span.go test before t).2.rest <:+ t := by
  induction t generalizing before with
  | nil => exact List.suffix_rfl
  | cons g rest ih =>
    rw [span.go]
    split
    · exact (ih (some g)).trans (List.suffix_cons g rest)
    · exact List.suffix_rfl

theorem suffix_of_blanks (p : Place) : p.blanks.rest <:+ p.rest :=
  suffix_of_span_go _ p.before p.rest

theorem suffix_of_span1? {test : Glyph → Bool} {p : Place} {found : Text × Place}
    (h : p.span1? test = some found) : found.2.rest <:+ p.rest := by
  rw [span1?_eq] at h
  split at h
  · cases h
  · cases h
    exact List.dropWhile_suffix _

theorem suffix_of_blanks1? {p q : Place} (h : p.blanks1? = some q) : q.rest <:+ p.rest := by
  rw [rest_of_blanks1? h]
  exact List.dropWhile_suffix _

/-- **A word is found where a text spells it.** -/
theorem word?_eq_some_iff {word : List Char} {before : Option Glyph} {t : Text} {q : Place} :
    word? word ⟨before, t⟩ = some q ↔
      ∃ w : Text, w.Spells word ∧ t = w ++ q.rest ∧ q.before = lastGlyph before w := by
  show word?.go word before t = some q ↔ _
  induction word generalizing before t with
  | nil =>
    rw [word?.go, Option.some.injEq]
    constructor
    · rintro rfl; exact ⟨[], .nil, rfl, rfl⟩
    · rintro ⟨w, hw, rfl, hb⟩
      cases hw
      rw [lastGlyph_nil] at hb
      rw [List.nil_append, ← hb]
  | cons c cs ih =>
    cases t with
    | nil =>
      refine ⟨fun h => absurd h (by simp [word?.go]), ?_⟩
      rintro ⟨w, hw, ht, -⟩
      cases hw
      cases ht
    | cons g rest =>
      rw [word?.go, Option.ite_none_right_eq_some, ih]
      constructor
      · rintro ⟨hg, w, hw, rfl, hb⟩
        exact ⟨g :: w, .cons hg hw, rfl, by rw [hb, lastGlyph_cons]⟩
      · rintro ⟨w, hw, ht, hb⟩
        cases hw with
        | @cons g' _ w' _ hg hw' =>
          rw [List.cons_append, List.cons.injEq] at ht
          obtain ⟨rfl, rfl⟩ := ht
          exact ⟨hg, w', hw', rfl, by rw [hb, lastGlyph_cons]⟩

theorem suffix_of_word? {word : List Char} {p q : Place} (h : p.word? word = some q) :
    q.rest <:+ p.rest := by
  obtain ⟨w, -, hrest, -⟩ := word?_eq_some_iff.mp h
  exact ⟨w, hrest.symm⟩

theorem eq_of_edge? {p q : Place} (h : p.edge? = some q) : q = p := by
  rw [edge?] at h
  split at h
  · exact (Option.some.inj h).symm
  · cases h

theorem suffix_of_edge? {p q : Place} (h : p.edge? = some q) : q.rest <:+ p.rest :=
  eq_of_edge? h ▸ List.suffix_rfl

theorem suffix_of_oneOf? {words : List (List Char)} {p q : Place} {t : Text}
    (h : p.oneOf? words = some (t, q)) : q.rest <:+ p.rest := by
  rw [oneOf?] at h
  induction words with
  | nil => cases h
  | cons w ws ih =>
    rw [List.firstM] at h
    cases hw : p.word? w with
    | none => rw [hw] at h; exact ih h
    | some r =>
      rw [hw] at h
      cases h
      exact suffix_of_word? hw

theorem exists_of_word?_cons_eq_some {c : Char} {cs : List Char} {p q : Place}
    (h : p.word? (c :: cs) = some q) :
    ∃ g t, p.rest = g :: t ∧ g.agrees c = true ∧ word? cs ⟨some g, t⟩ = some q := by
  rcases p with ⟨before, rest⟩
  cases rest with
  | nil => cases h
  | cons g t =>
    have hform : word? (c :: cs) ⟨before, g :: t⟩ =
        if g.agrees c = true then word? cs ⟨some g, t⟩ else none := rfl
    rw [hform, Option.ite_none_right_eq_some] at h
    exact ⟨g, t, rfl, h⟩

/-- A word that is found begins where it is looked for. -/
theorem exists_of_word?_cons {c : Char} {cs : List Char} {p q : Place}
    (h : p.word? (c :: cs) = some q) : ∃ g ∈ p.rest, g.agrees c = true := by
  obtain ⟨g, t, hrest, hg, -⟩ := exists_of_word?_cons_eq_some h
  exact ⟨g, by rw [hrest]; exact List.mem_cons_self, hg⟩

/-- What begins with a word is not found where another letter stands. -/
theorem keyword?_eq_none {β : Type} {c : Char} {g : Glyph} (h : g.agrees c = false)
    (cs : List Char) (more : Place → Option β) (before : Option Glyph) (t : Text) :
    (edge? ⟨before, g :: t⟩).bind (fun p => (p.word? (c :: cs)).bind more) = none := by
  have hword : ∀ b : Option Glyph, word? (c :: cs) ⟨b, g :: t⟩ = none := by
    intro b
    show (if g.agrees c = true then _ else none) = none
    rw [h, if_neg Bool.false_ne_true]
  rw [edge?]
  split
  · rw [Option.bind_some, hword, Option.bind_none]
  · rfl

/-- What begins with one of several words is not found where another letter stands. -/
theorem words?_eq_none {β : Type} {words : List (List Char)} {g : Glyph}
    (hwords : ∀ word ∈ words, word.head?.all g.agrees = false)
    (more : Text × Place → Option β) (before : Option Glyph) (t : Text) :
    (edge? ⟨before, g :: t⟩).bind (fun p => (p.oneOf? words).bind more) = none := by
  have hnone : oneOf? words ⟨before, g :: t⟩ = none := by
    rw [oneOf?]
    induction words with
    | nil => rfl
    | cons word words ih =>
      obtain ⟨hg, htail⟩ := List.forall_mem_cons.mp hwords
      have hword : Place.word? word ⟨before, g :: t⟩ = none := by
        cases word with
        | nil => cases hg
        | cons c cs => exact if_neg (Bool.eq_false_iff.mp hg)
      rw [List.firstM, hword]
      exact ih htail
  rw [edge?]
  split
  · rw [Option.bind_some, hnone, Option.bind_none]
  · rfl

/-- At the end of a text no word begins. -/
theorem keyword?_nil {β : Type} {c : Char} (cs : List Char) (more : Place → Option β)
    (before : Option Glyph) :
    (edge? ⟨before, []⟩).bind (fun p => (p.word? (c :: cs)).bind more) = none := by
  rw [edge?]
  split <;> rfl

/-- A sign that is found stands where it is looked for. -/
theorem exists_of_sign? {signs : List Char} {p q : Place} (h : p.sign? signs = some q) :
    ∃ g, p.rest = g :: q.rest ∧ g.isOneOf signs = true := by
  rcases p with ⟨before, rest⟩
  cases rest with
  | nil => cases h
  | cons g rest =>
    simp only [sign?, Option.ite_none_right_eq_some, Option.some.injEq] at h
    obtain ⟨hg, rfl⟩ := h
    exact ⟨g, rfl, hg⟩

theorem length_lt_of_sign? {signs : List Char} {p q : Place} (h : p.sign? signs = some q) :
    q.rest.length < p.rest.length := by
  obtain ⟨g, hg, -⟩ := exists_of_sign? h
  rw [hg]
  exact Nat.lt_succ_self _

/-! ## Searching -/

variable {α : Type}

/-- What is recognised nowhere ahead is not found. -/
theorem firstMatch_eq_none_of_suffix {recognise : Place → Option α} {t : Text}
    (h : ∀ p : Place, p.rest <:+ t → recognise p = none) (before : Option Glyph) :
    firstMatch recognise ⟨before, t⟩ = none := by
  show firstMatch.go recognise before t = none
  induction t generalizing before with
  | nil => exact h ⟨before, []⟩ List.suffix_rfl
  | cons g rest ih =>
    rw [firstMatch.go, h ⟨before, g :: rest⟩ List.suffix_rfl]
    exact ih (fun p hp => h p (hp.trans (List.suffix_cons g rest))) (some g)

/-- **A recogniser that needs a glyph finds nothing in a text without it.** -/
theorem firstMatch_eq_none_of_needs {recognise : Place → Option α} {needed : Glyph}
    (hneeds : ∀ p a, recognise p = some a → needed ∈ p.rest) {t : Text} (h : needed ∉ t) :
    (start t).firstMatch recognise = none := by
  refine firstMatch_eq_none_of_suffix (fun p hp => ?_) none
  cases hr : recognise p with
  | none => rfl
  | some a => exact absurd (hp.mem (hneeds p a hr)) h

/-- Nothing is recognised at any place of a text, whatever follows the text. -/
def Avoids (recognise : Place → Option α) (before : Option Glyph) : Text → Prop
  | [] => True
  | g :: t => (∀ more, recognise ⟨before, g :: t ++ more⟩ = none) ∧ Avoids recognise (some g) t

theorem Avoids.append {recognise : Place → Option α} {before : Option Glyph} {t u : Text}
    (ht : Avoids recognise before t) (hu : Avoids recognise (lastGlyph before t) u) :
    Avoids recognise before (t ++ u) := by
  induction t generalizing before with
  | nil => exact hu
  | cons g t ih =>
    refine ⟨fun more => ?_, ih ht.2 (by rwa [lastGlyph_cons] at hu)⟩
    have hm := ht.1 (u ++ more)
    rwa [← List.append_assoc] at hm

/-- **A search passes over a text in which nothing is recognised.** -/
theorem firstMatch_append {recognise : Place → Option α} {before : Option Glyph} {t : Text}
    (h : Avoids recognise before t) (u : Text) :
    firstMatch recognise ⟨before, t ++ u⟩ = firstMatch recognise ⟨lastGlyph before t, u⟩ := by
  induction t generalizing before with
  | nil => rfl
  | cons g t ih =>
    have hnone := h.1 u
    rw [List.cons_append] at hnone
    rw [lastGlyph_cons, ← ih h.2]
    show firstMatch.go recognise before (g :: (t ++ u)) = firstMatch.go recognise (some g) (t ++ u)
    rw [firstMatch.go, hnone]

theorem firstMatch_of_match {recognise : Place → Option α} {p : Place} {a : α}
    (h : recognise p = some a) : p.firstMatch recognise = some a := by
  rcases p with ⟨before, rest⟩
  show firstMatch.go recognise before rest = some a
  cases rest with
  | nil => exact h
  | cons g rest => rw [firstMatch.go, h]

/-- What is found nowhere gives no finds. -/
theorem allMatches_eq_nil {recognise : Place → Option (α × Place)} {p : Place}
    (h : p.firstMatch recognise = none) : p.allMatches recognise = [] := by
  rcases p with ⟨before, rest⟩
  show allMatches.go recognise before rest = []
  replace h : firstMatch.go recognise before rest = none := h
  induction rest generalizing before with
  | nil =>
    rw [firstMatch.go] at h
    rw [allMatches.go, h]
    rfl
  | cons g rest ih =>
    rw [firstMatch.go] at h
    rw [allMatches.go]
    split at h
    · cases h
    · next hr => rw [hr]; exact ih (some g) h

/-- A find at the first place, and those behind it. -/
theorem allMatches_of_match {recognise : Place → Option (α × Place)} {p q : Place} {a : α}
    (h : recognise p = some (a, q)) (hlt : q.rest.length < p.rest.length) :
    p.allMatches recognise = a :: q.allMatches recognise := by
  rcases p with ⟨before, rest⟩
  cases rest with
  | nil => exact absurd hlt (Nat.not_lt_zero _)
  | cons g rest =>
    show allMatches.go recognise before (g :: rest) = _
    rw [allMatches.go, h]
    simp only at hlt ⊢
    rw [if_pos hlt]
    rfl

/-- Each find was recognised at some place. -/
theorem exists_of_mem_allMatches {recognise : Place → Option (α × Place)} {p : Place} {a : α}
    (h : a ∈ p.allMatches recognise) : ∃ q r, recognise q = some (a, r) := by
  rcases p with ⟨before, rest⟩
  replace h : a ∈ allMatches.go recognise before rest := h
  fun_induction allMatches.go recognise before rest with
  | case1 before =>
    obtain ⟨found, hfound, rfl⟩ := List.mem_map.mp h
    exact ⟨_, found.2, Option.mem_toList.mp hfound⟩
  | case2 before g tail hnone ih => exact ih h
  | case3 before g tail found behind hsome hlt ih =>
    rcases List.mem_cons.mp h with rfl | h
    · exact ⟨_, behind, hsome⟩
    · exact ih h
  | case4 before g tail found behind hsome hlt ih =>
    rcases List.mem_cons.mp h with rfl | h
    · exact ⟨_, behind, hsome⟩
    · exact ih h

end Place
end QueryDesk
