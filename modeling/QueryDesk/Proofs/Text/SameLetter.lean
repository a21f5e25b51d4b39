import Mathlib.Tactic.SplitIfs
import QueryDesk.Proofs.Text.Recognition
import QueryDesk.Statement.Literal

/-!
# The same letter in either case

Two glyphs are the same letter (`Glyph.SameLetter`) when they differ at most in the case of an ASCII
letter.  Then they are equal, or both are ASCII letters (`SameLetter.eq_or_isAsciiLetter`); so they
belong to the same classes of glyphs, agree with the same characters and have the same upper and
lower case, and what is no letter is the same glyph on both sides.
-/

set_option autoImplicit false

namespace QueryDesk

namespace Glyph

/-- The glyph in lower case, if it is an ASCII letter. -/
def asciiLower : Glyph → Glyph
  | .char c => .char c.toLower
  | .lone half => .lone half

/-- Says that two glyphs differ at most in the case of an ASCII letter. -/
def SameLetter (g g' : Glyph) : Prop := g.asciiLower = g'.asciiLower

instance (g g' : Glyph) : Decidable (g.SameLetter g') := inferInstanceAs (Decidable (_ = _))

/-! ## ASCII letters -/

theorem isAsciiLetter_iff {c : Char} : (Glyph.char c).isAsciiLetter = true ↔
    (65 ≤ c.toNat ∧ c.toNat ≤ 90) ∨ (97 ≤ c.toNat ∧ c.toNat ≤ 122) := by
  show (decide (65 ≤ c.toNat ∧ c.toNat ≤ 90) ||
    decide (97 ≤ c.toNat) && decide (c.toNat ≤ 122)) = true ↔ _
  rw [Bool.or_eq_true, Bool.and_eq_true, decide_eq_true_eq, decide_eq_true_eq, decide_eq_true_eq]

/-- A capital letter lies 32 code points in front of its small letter. -/
theorem toNat_toLower (c : Char) :
    c.toLower.toNat = if 65 ≤ c.toNat ∧ c.toNat ≤ 90 then c.toNat + 32 else c.toNat := by
  unfold Char.toLower
  split
  · next h =>
    have hcode : 65 ≤ c.toNat ∧ c.toNat ≤ 90 := h
    have hsum : (c.val + ('a'.val - 'A'.val)).toNat = c.toNat + 32 := by
      rw [UInt32.toNat_add, show ('a'.val - 'A'.val).toNat = 32 from rfl]
      show (c.toNat + 32) % 2 ^ 32 = _
      omega
    rw [if_pos hcode]
    exact hsum
  · next h => exact (if_neg h).symm

theorem toNat_toUpper (c : Char) :
    c.toUpper.toNat = if 97 ≤ c.toNat ∧ c.toNat ≤ 122 then c.toNat - 32 else c.toNat := by
  unfold Char.toUpper
  split
  · next h =>
    have hcode : 97 ≤ c.toNat ∧ c.toNat ≤ 122 := h
    have hsum : (c.val + ('A'.val - 'a'.val)).toNat = c.toNat - 32 := by
      rw [UInt32.toNat_add, show ('A'.val - 'a'.val).toNat = 2 ^ 32 - 32 from rfl]
      show (c.toNat + (2 ^ 32 - 32)) % 2 ^ 32 = _
      omega
    rw [if_pos hcode]
    exact hsum
  · next h => exact (if_neg h).symm

theorem exists_char_of_isAsciiLetter {g : Glyph} (h : g.isAsciiLetter = true) :
    ∃ c, g = .char c ∧ ((65 ≤ c.toNat ∧ c.toNat ≤ 90) ∨ (97 ≤ c.toNat ∧ c.toNat ≤ 122)) := by
  cases g with
  | lone half => cases h
  | char c => exact ⟨c, rfl, isAsciiLetter_iff.mp h⟩

theorem isWord_of_isAsciiLetter {g : Glyph} (h : g.isAsciiLetter = true) : g.isWord = true := by
  obtain ⟨c, rfl, hcode⟩ := exists_char_of_isAsciiLetter h
  have hascii : c.toNat < 0x80 := by omega
  have hletter : c.isAlpha = true := h
  rw [isWord, if_pos hascii, Char.isAlphanum, hletter]
  rfl

theorem isBlank_of_isAsciiLetter {g : Glyph} (h : g.isAsciiLetter = true) :
    g.isBlank = false := by
  obtain ⟨c, rfl, hcode⟩ := exists_char_of_isAsciiLetter h
  have hblank : ∀ n ∈ blankCodes, n < 65 ∨ 122 < n := by decide
  rw [isBlank, ← Bool.not_eq_true, List.contains_iff_mem]
  intro hmem
  have hfar : c.toNat < 65 ∨ 122 < c.toNat := hblank _ hmem
  omega

theorem isAsciiDigit_of_isAsciiLetter {g : Glyph} (h : g.isAsciiLetter = true) :
    g.isAsciiDigit = false := by
  obtain ⟨c, rfl, hcode⟩ := exists_char_of_isAsciiLetter h
  rw [isAsciiDigit, Char.isDigit, Bool.and_eq_false_iff, decide_eq_false_iff_not,
    decide_eq_false_iff_not]
  refine .inr fun hle => ?_
  have hhigh : c.toNat ≤ 57 := hle
  omega

theorem ne_of_isAsciiLetter {g : Glyph} {c : Char} (h : g.isAsciiLetter = true)
    (hc : c.isAlpha = false) : g ≠ .char c := by
  rintro rfl
  rw [isAsciiLetter, hc] at h
  cases h

/-- A letter is none of some signs. -/
theorem isOneOf_of_isAsciiLetter {g : Glyph} {signs : List Char} (h : g.isAsciiLetter = true)
    (hs : ∀ c ∈ signs, c.isAlpha = false) : g.isOneOf signs = false := by
  cases g with
  | lone half => rfl
  | char c =>
    rw [isOneOf, ← Bool.not_eq_true, List.contains_iff_mem]
    exact fun hmem => ne_of_isAsciiLetter h (hs c hmem) rfl

/-- With a letter only its small letter agrees. -/
theorem agrees_of_isAsciiLetter {c d : Char} (hd : (Glyph.char d).isAsciiLetter = true) :
    (Glyph.char d).agrees c = (d.toLower == c) := by
  have hcode := isAsciiLetter_iff.mp hd
  have hne : ∀ e : Char, 128 ≤ e.toNat → (d == e) = false := by
    intro e he
    rw [beq_eq_false_iff_ne]
    rintro rfl
    omega
  unfold agrees
  dsimp only
  split
  · rw [hne _ (by decide), hne _ (by decide), Bool.or_self, Bool.or_false]
  · rw [hne _ (by decide), Bool.or_false]
  · rw [hne _ (by decide), Bool.or_false]
  · rw [Bool.or_false]

/-! ## The same letter -/

namespace SameLetter

variable {g g' : Glyph}

@[simp] theorem refl (g : Glyph) : g.SameLetter g := rfl

theorem of_eq (h : g = g') : g.SameLetter g' := h ▸ refl g

/-- **The same letter is the same glyph, or a letter on both sides.** -/
theorem eq_or_isAsciiLetter (h : g.SameLetter g') :
    g = g' ∨ (g.isAsciiLetter = true ∧ g'.isAsciiLetter = true) := by
  rcases g with c | half <;> rcases g' with d | half'
  · have hlower : c.toLower.toNat = d.toLower.toNat := congrArg Char.toNat (Glyph.char.inj h)
    rw [toNat_toLower, toNat_toLower] at hlower
    rw [isAsciiLetter_iff, isAsciiLetter_iff, Glyph.char.injEq, ← Char.toNat_inj]
    split_ifs at hlower <;> omega
  · cases h
  · cases h
  · exact .inl h

theorem isWord_eq (h : g.SameLetter g') : g.isWord = g'.isWord := by
  rcases h.eq_or_isAsciiLetter with rfl | ⟨hg, hg'⟩
  · rfl
  · rw [isWord_of_isAsciiLetter hg, isWord_of_isAsciiLetter hg']

theorem isBlank_eq (h : g.SameLetter g') : g.isBlank = g'.isBlank := by
  rcases h.eq_or_isAsciiLetter with rfl | ⟨hg, hg'⟩
  · rfl
  · rw [isBlank_of_isAsciiLetter hg, isBlank_of_isAsciiLetter hg']

theorem isOneOf_eq (h : g.SameLetter g') {signs : List Char}
    (hs : ∀ c ∈ signs, c.isAlpha = false) : g.isOneOf signs = g'.isOneOf signs := by
  rcases h.eq_or_isAsciiLetter with rfl | ⟨hg, hg'⟩
  · rfl
  · rw [isOneOf_of_isAsciiLetter hg hs, isOneOf_of_isAsciiLetter hg' hs]

theorem isQuote_eq (h : g.SameLetter g') : Literal.isQuote g = Literal.isQuote g' :=
  h.isOneOf_eq (by decide)

/-- What is no letter is the same glyph on both sides. -/
theorem eq_char_iff (h : g.SameLetter g') {c : Char} (hc : c.isAlpha = false) :
    g = .char c ↔ g' = .char c := by
  rcases h.eq_or_isAsciiLetter with rfl | ⟨hg, hg'⟩
  · exact Iff.rfl
  · exact iff_of_false (ne_of_isAsciiLetter hg hc) (ne_of_isAsciiLetter hg' hc)

theorem agrees_eq (h : g.SameLetter g') (c : Char) : g.agrees c = g'.agrees c := by
  rcases h.eq_or_isAsciiLetter with rfl | ⟨hg, hg'⟩
  · rfl
  · obtain ⟨d, rfl, -⟩ := exists_char_of_isAsciiLetter hg
    obtain ⟨d', rfl, -⟩ := exists_char_of_isAsciiLetter hg'
    rw [agrees_of_isAsciiLetter hg, agrees_of_isAsciiLetter hg', Glyph.char.inj h]

/-- The same letter has one lower and one upper case. -/
theorem lower_eq_and_upper_eq (h : g.SameLetter g') : g.lower = g'.lower ∧ g.upper = g'.upper := by
  rcases h.eq_or_isAsciiLetter with rfl | ⟨hg, hg'⟩
  · exact ⟨rfl, rfl⟩
  · obtain ⟨c, rfl, hc⟩ := exists_char_of_isAsciiLetter hg
    obtain ⟨d, rfl, hd⟩ := exists_char_of_isAsciiLetter hg'
    have hlower : c.toLower = d.toLower := Glyph.char.inj h
    have hupper : c.toUpper = d.toUpper := by
      have hnat := congrArg Char.toNat hlower
      rw [toNat_toLower, toNat_toLower] at hnat
      rw [← Char.toNat_inj, toNat_toUpper, toNat_toUpper]
      split_ifs at hnat ⊢ <;> omega
    have hc₀ : c.toNat < 0x80 := by omega
    have hd₀ : d.toNat < 0x80 := by omega
    simp only [lower, upper, if_pos hc₀, if_pos hd₀, hlower, hupper, and_self]

end SameLetter
end Glyph

/-! ## Texts -/

namespace Text

/-- Digits have no other case. -/
theorem eq_of_isAsciiDigit {t t' : Text} (h : List.Forall₂ Glyph.SameLetter t t')
    (hdigits : ∀ g ∈ t, g.isAsciiDigit = true) : t = t' := by
  induction h with
  | nil => rfl
  | @cons g g' t t' hg _ ih =>
    rw [ih fun a ha => hdigits a (List.mem_cons_of_mem g ha)]
    rcases hg.eq_or_isAsciiLetter with rfl | ⟨hletter, -⟩
    · rfl
    · have hdigit := hdigits g List.mem_cons_self
      rw [Glyph.isAsciiDigit_of_isAsciiLetter hletter] at hdigit
      cases hdigit

/-- Texts of the same letters have one lower and one upper case. -/
theorem lower_eq_and_upper_eq {t t' : Text} (h : List.Forall₂ Glyph.SameLetter t t') :
    t.lower = t'.lower ∧ t.upper = t'.upper := by
  induction h with
  | nil => exact ⟨rfl, rfl⟩
  | cons hg _ ih =>
    obtain ⟨hlower, hupper⟩ := hg.lower_eq_and_upper_eq
    simp only [lower, upper, List.flatMap_cons] at ih ⊢
    exact ⟨by rw [hlower, ih.1], by rw [hupper, ih.2]⟩

end Text
end QueryDesk
