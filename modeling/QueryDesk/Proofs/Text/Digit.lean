import Mathlib.Tactic.IntervalCases
import QueryDesk.Text.Classes

/-!
# ASCII digits

An ASCII digit has one of ten neighbouring code points (`Glyph.code_of_isAsciiDigit`).  So its value
is its distance from the zero, and it is neither a blank nor any other sign.
-/

set_option autoImplicit false

namespace QueryDesk
namespace Glyph

theorem code_of_isAsciiDigit {g : Glyph} (h : g.isAsciiDigit = true) :
    48 ≤ g.code ∧ g.code ≤ 57 := by
  rcases g with c | n
  · rw [isAsciiDigit, Char.isDigit, Bool.and_eq_true, decide_eq_true_eq, decide_eq_true_eq] at h
    exact h
  · cases h

theorem digitValue?_of_isAsciiDigit {g : Glyph} (h : g.isAsciiDigit = true) :
    g.digitValue? = some (g.code - 48) := by
  obtain ⟨hlow, hhigh⟩ := code_of_isAsciiDigit h
  have htest : (decide (48 ≤ g.code) && decide (g.code < 48 + 10)) = true := by
    rw [Bool.and_eq_true, decide_eq_true_eq, decide_eq_true_eq]
    omega
  obtain ⟨more, hmore⟩ : ∃ more, Text.digitZeros = 48 :: more := ⟨_, rfl⟩
  have hfind : (48 :: more).find? (fun first => first ≤ g.code && g.code < first + 10)
      = some 48 := List.find?_cons_of_pos htest
  rw [digitValue?, hmore, hfind]
  rfl

theorem isBlank_of_isAsciiDigit {g : Glyph} (h : g.isAsciiDigit = true) : g.isBlank = false := by
  obtain ⟨hlow, hhigh⟩ := code_of_isAsciiDigit h
  rw [isBlank]
  generalize g.code = code at hlow hhigh
  interval_cases code <;> rfl

theorem ne_of_isAsciiDigit {g : Glyph} {c : Char} (h : g.isAsciiDigit = true)
    (hc : c.isDigit = false) : g ≠ .char c := by
  rintro rfl
  rw [isAsciiDigit, hc] at h
  cases h

theorem isOneOf_eq_false {g : Glyph} {cs : List Char} (h : ∀ c ∈ cs, g ≠ .char c) :
    g.isOneOf cs = false := by
  rcases g with c | half
  · rw [isOneOf, ← Bool.not_eq_true, List.contains_iff_mem]
    exact fun hc => h c hc rfl
  · rfl

theorem isOneOf_of_isAsciiDigit {g : Glyph} {cs : List Char} (h : g.isAsciiDigit = true)
    (hcs : ∀ c ∈ cs, c.isDigit = false) : g.isOneOf cs = false :=
  isOneOf_eq_false fun c hc => ne_of_isAsciiDigit h (hcs c hc)

end Glyph

end QueryDesk
