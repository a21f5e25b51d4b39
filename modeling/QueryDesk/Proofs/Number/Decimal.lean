import Mathlib.Algebra.Order.Field.Power
import Mathlib.Algebra.Order.Ring.Rat
import Mathlib.Data.Nat.Log
import Mathlib.Order.Compare
import Mathlib.Tactic.Linarith
import Mathlib.Tactic.Positivity
import Mathlib.Tactic.Ring
import Mathlib.Tactic.SplitIfs
import QueryDesk.Number.Decimal
import QueryDesk.Proofs.Number.Digits

/-!
# Decimals of whole numbers

Whole numbers stand to each other as their decimals do (`Decimal.compare?_ofInt`).  Decimals are
compared by their leading digits first, and a greater number has no fewer digits.
-/

set_option autoImplicit false

namespace QueryDesk

/-- Items stand to each other as others do if they precede each other alike. -/
theorem compare_eq_compare {α β : Type} [LinearOrder α] [LinearOrder β] {a b : α} {c d : β}
    (hlt : a < b ↔ c < d) (hgt : b < a ↔ d < c) : compare a b = compare c d := by
  rcases lt_trichotomy a b with h | rfl | h
  · rw [compare_lt_iff_lt.mpr h, compare_lt_iff_lt.mpr (hlt.mp h)]
  · have heq : c = d := le_antisymm (not_lt.mp fun h => lt_irrefl a (hgt.mpr h))
      (not_lt.mp fun h => lt_irrefl a (hlt.mpr h))
    rw [compare_eq_iff_eq.mpr rfl, compare_eq_iff_eq.mpr heq]
  · rw [compare_gt_iff_gt.mpr h, compare_gt_iff_gt.mpr (hgt.mp h)]

namespace Decimal

/-- The leading digits of whole numbers never contradict their sizes. -/
theorem compareMagnitudes_zero (m n : Nat) : compareMagnitudes m 0 n 0 = compare m n := by
  unfold compareMagnitudes
  split
  · rfl
  · have hle : (0 : Int) ≤ 0 := Int.le_refl 0
    have hpow : n * Nat.pow 10 (0 - 0 : Int).toNat = n := Nat.mul_one n
    rw [if_pos hle, hpow]
    have hleading : ∀ {k l : Nat}, k ≤ l → leadingPower k 0 ≤ leadingPower l 0 := by
      intro k l hkl
      have hdigits := Number.length_digits_mono hkl
      simp only [leadingPower, digitCount]
      omega
    rcases lt_trichotomy m n with hlt | rfl | hgt
    · rcases (hleading hlt.le).lt_or_eq with hlead | hlead
      · rw [compare_lt_iff_lt.mpr hlead, compare_lt_iff_lt.mpr hlt]
        rfl
      · rw [hlead, compare_eq_iff_eq.mpr rfl]
        rfl
    · rw [compare_eq_iff_eq.mpr rfl, compare_eq_iff_eq.mpr rfl]
      rfl
    · rcases (hleading hgt.le).lt_or_eq with hlead | hlead
      · rw [compare_gt_iff_gt.mpr hlead, compare_gt_iff_gt.mpr hgt]
        rfl
      · rw [hlead, compare_eq_iff_eq.mpr rfl]
        rfl

theorem compare_natAbs_of_nonneg {m n : Int} (hm : ¬m < 0) (hn : ¬n < 0) :
    compare m.natAbs n.natAbs = compare m n :=
  compare_eq_compare (by omega) (by omega)

theorem compare_natAbs_of_neg {m n : Int} (hm : m < 0) (hn : n < 0) :
    compare n.natAbs m.natAbs = compare m n :=
  compare_eq_compare (by omega) (by omega)

/-- **Whole numbers are compared as decimals by their sizes.** -/
theorem compare?_ofInt (m n : Int) : (ofInt m).compare? (ofInt n) = some (compare m n) := by
  unfold compare? ofInt
  dsimp only
  by_cases hm : m < 0 <;> by_cases hn : n < 0 <;>
    simp only [hm, hn, decide_true, decide_false, compareMagnitudes_zero, if_true,
      Bool.false_eq_true, if_false]
  · rw [if_neg (by omega), if_neg (by omega), if_neg (by omega), compare_natAbs_of_neg hm hn]
  · rw [if_neg (by omega), if_neg (by omega), compare_lt_iff_lt.mpr (by omega), ite_self]
  · rw [if_neg (by omega), compare_gt_iff_gt.mpr (by omega)]
    split_ifs <;> rfl
  · split_ifs with hzero hleft hright
    · rw [compare_eq_iff_eq.mpr (by omega)]
    · rw [compare_lt_iff_lt.mpr (by omega)]
    · rw [compare_gt_iff_gt.mpr (by omega)]
    · rw [compare_natAbs_of_nonneg hm hn]

end Decimal
end QueryDesk

/-! ## Decimals by their size

The size of a finite decimal is a rational number (`Decimal.toRat`).  Decimals are compared by their
leading powers of ten first, and only where those agree by their coefficients, brought to one
exponent.  That never goes wrong: the size of a decimal lies between its leading power and the next
one (`leadingPower_le`, `lt_leadingPower_succ`), so decimals stand to each other as their sizes do,
whatever their exponents (`order_eq_compare`).
-/

namespace QueryDesk
namespace Decimal

/-- The size of a finite decimal. -/
def toRat : Decimal → ℚ
  | .finite negative coefficient exponent =>
    (if negative then -1 else 1) * (coefficient * (10 : ℚ) ^ exponent)
  | _ => 0

/-! ## Leading powers -/

theorem digitCount_eq (n : Nat) : digitCount n = Nat.log 10 n + 1 := by
  unfold digitCount
  induction n using Nat.strongRecOn with
  | ind n ih =>
    rcases Nat.lt_or_ge n 10 with h | h
    · rw [Number.digits_of_lt h, Nat.log_of_lt h]
      rfl
    · have hlt : n / 10 < n := Nat.div_lt_self (by omega) (by decide)
      rw [Number.digits_of_le h, List.length_append, ih _ hlt,
        Nat.log_of_one_lt_of_le (by decide) h]
      rfl

theorem leadingPower_eq (m : Nat) (d : Int) : leadingPower m d = Nat.log 10 m + d := by
  rw [leadingPower, digitCount_eq]
  push_cast
  ring

theorem leadingPower_le {m : Nat} (h : m ≠ 0) (d : Int) :
    (10 : ℚ) ^ leadingPower m d ≤ m * (10 : ℚ) ^ d := by
  have hlog : (10 : ℚ) ^ Nat.log 10 m ≤ m := by exact_mod_cast Nat.pow_log_le_self 10 h
  rw [leadingPower_eq, zpow_add₀ (by norm_num), zpow_natCast]
  gcongr

theorem lt_leadingPower_succ (m : Nat) (d : Int) :
    m * (10 : ℚ) ^ d < (10 : ℚ) ^ (leadingPower m d + 1) := by
  have hlog : (m : ℚ) < (10 : ℚ) ^ (Nat.log 10 m + 1) := by
    exact_mod_cast Nat.lt_pow_succ_log_self (by decide) m
  have hpower : leadingPower m d + 1 = ((Nat.log 10 m + 1 : Nat) : Int) + d := by
    rw [leadingPower_eq]
    push_cast
    ring
  rw [hpower, zpow_add₀ (by norm_num), zpow_natCast]
  gcongr

/-- A decimal with a lesser leading power is less. -/
theorem mul_lt_mul_of_leadingPower {m n : Nat} {d e : Int} (hn : n ≠ 0)
    (h : leadingPower m d < leadingPower n e) : m * (10 : ℚ) ^ d < n * (10 : ℚ) ^ e :=
  calc m * (10 : ℚ) ^ d < (10 : ℚ) ^ (leadingPower m d + 1) := lt_leadingPower_succ m d
    _ ≤ (10 : ℚ) ^ leadingPower n e := zpow_le_zpow_right₀ (by norm_num) h
    _ ≤ n * (10 : ℚ) ^ e := leadingPower_le hn e

/-! ## Comparison -/

/-- Numbers stand to each other as their multiples do. -/
theorem compare_mul_right {a b c : ℚ} (hc : 0 < c) : compare (a * c) (b * c) = compare a b :=
  compare_eq_compare (mul_lt_mul_iff_left₀ hc) (mul_lt_mul_iff_left₀ hc)

theorem mul_zpow_align {d e : Int} (h : d ≤ e) (n : Nat) :
    n * (10 : ℚ) ^ e = ((n * Nat.pow 10 (e - d).toNat : Nat) : ℚ) * (10 : ℚ) ^ d := by
  obtain ⟨k, hk⟩ := Int.eq_ofNat_of_zero_le (Int.sub_nonneg.mpr h)
  obtain rfl : e = k + d := by omega
  rw [hk, zpow_add₀ (by norm_num), zpow_natCast]
  simp [mul_assoc]

/-- **Numbers with exponents are compared exactly.** -/
theorem compareMagnitudes_eq (m : Nat) (d : Int) (n : Nat) (e : Int) :
    compareMagnitudes m d n e = compare (m * (10 : ℚ) ^ d) (n * (10 : ℚ) ^ e) := by
  have hd : (0 : ℚ) < (10 : ℚ) ^ d := by positivity
  have he : (0 : ℚ) < (10 : ℚ) ^ e := by positivity
  unfold compareMagnitudes
  by_cases hzero : m = 0 ∨ n = 0
  · rw [if_pos hzero]
    refine compare_eq_compare ?_ ?_ <;> rcases hzero with rfl | rfl <;>
      simp [mul_pos_iff_of_pos_right, hd, he, Nat.pos_iff_ne_zero]
  · rw [if_neg hzero]
    obtain ⟨hm, hn⟩ := not_or.mp hzero
    rcases lt_trichotomy (leadingPower m d) (leadingPower n e) with hlt | heq | hgt
    · rw [compare_lt_iff_lt.mpr hlt, compare_lt_iff_lt.mpr (mul_lt_mul_of_leadingPower hn hlt)]
      rfl
    · rw [compare_eq_iff_eq.mpr heq]
      by_cases hle : d ≤ e
      · rw [mul_zpow_align hle n, compare_mul_right hd]
        simp only [hle, if_true, Ordering.then]
        exact compare_eq_compare Nat.cast_lt.symm Nat.cast_lt.symm
      · have hge : e ≤ d := by omega
        rw [mul_zpow_align hge m, compare_mul_right he]
        simp only [hle, if_false, Ordering.then]
        exact compare_eq_compare Nat.cast_lt.symm Nat.cast_lt.symm
    · rw [compare_gt_iff_gt.mpr hgt, compare_gt_iff_gt.mpr (mul_lt_mul_of_leadingPower hm hgt)]
      rfl

/-- **Finite decimals stand to each other as their sizes do.** -/
theorem order_eq_compare {x y : Decimal} (hx : x.isFinite = true) (hy : y.isFinite = true) :
    x.order y = compare x.toRat y.toRat := by
  rcases x with ⟨a, m, d⟩ | _ | _ <;> try cases hx
  rcases y with ⟨b, n, e⟩ | _ | _ <;> try cases hy
  have hpos : ∀ {k : Nat} (f : Int), k ≠ 0 → 0 < k * (10 : ℚ) ^ f := by
    intro k f hk
    have hk' : (0 : ℚ) < k := Nat.cast_pos.mpr (Nat.pos_of_ne_zero hk)
    positivity
  have hneg : ∀ u v : ℚ, compare (-u) (-v) = compare v u :=
    fun u v => compare_eq_compare neg_lt_neg_iff neg_lt_neg_iff
  simp only [order, compare?, toRat]
  by_cases hm : m = 0 <;> by_cases hn : n = 0
  · simp [hm, hn]
  · have hy := hpos e hn
    cases b <;> simp [hm, hn, compare_lt_iff_lt.mpr, compare_gt_iff_gt.mpr, hy]
  · have hx := hpos d hm
    cases a <;> simp [hm, hn, compare_lt_iff_lt.mpr, compare_gt_iff_gt.mpr, hx]
  · have hx := hpos d hm
    have hy := hpos e hn
    cases a <;> cases b <;>
      simp only [hm, hn, and_self, if_false, Bool.false_eq_true, if_true, Option.getD_some, one_mul,
        neg_one_mul, hneg, compareMagnitudes_eq]
    · exact (compare_gt_iff_gt.mpr (by linarith)).symm
    · exact (compare_lt_iff_lt.mpr (by linarith)).symm

end Decimal
end QueryDesk
