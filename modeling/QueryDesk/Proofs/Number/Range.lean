import Mathlib.Algebra.Order.Ring.Nat
import Mathlib.Tactic.SplitIfs
import QueryDesk.Number.Binary64

/-!
# Numbers within a range

Rounding adds at most one bit to a number that is not too large (`isWithin_roundUnits`).  So the
difference and the product of numbers of moderate size are finite (`IsWithin.sub`, `IsWithin.mul`).

A measure is such a number that is not below zero (`IsMeasure`): its products, its whole part and the
part behind the point are measures as well.
-/

set_option autoImplicit false

namespace QueryDesk
namespace Binary64

/-- Says that a number is finite and its size below `2 ^ k` least units. -/
def IsWithin (k : Nat) (x : Binary64) : Prop := x.isFinite ∧ x.scaled.natAbs < 2 ^ k

instance (k : Nat) (x : Binary64) : Decidable (x.IsWithin k) := inferInstanceAs (Decidable (_ ∧ _))

variable {x y : Binary64} {num den k l : Nat}

theorem natAbs_scaled (negative : Bool) (significand unit : Nat) :
    (finite negative significand unit).scaled.natAbs = significand * 2 ^ unit := by
  rw [scaled, Number.withSign, Nat.pow_eq]
  cases negative
  · rfl
  · exact Int.natAbs_neg _

theorem isWithin_zero (negative : Bool) (k : Nat) : (zero negative).IsWithin k :=
  ⟨rfl, by rw [zero, natAbs_scaled, Nat.zero_mul]; exact Nat.two_pow_pos k⟩

theorem roundDiv_le (num den : Nat) : roundDiv num den ≤ num / den + 1 := by
  unfold roundDiv
  dsimp only
  split_ifs <;> omega

/-- The bits of a whole number that are kept make a number of 53 bits. -/
theorem shifted_lt (n : Nat) : n / 2 ^ (Nat.log2 n - 52) < 2 ^ 53 := by
  have hlog : n < 2 ^ (Nat.log2 n + 1) := Nat.lt_log2_self
  refine Nat.div_lt_of_lt_mul (hlog.trans_le ?_)
  rw [← Nat.pow_add]
  exact Nat.pow_le_pow_right Nat.two_pos (by omega)

/-- **Rounding adds at most one bit.** -/
theorem isWithin_roundUnits (negative : Bool) (h : num / den < 2 ^ k) (hlow : 53 ≤ k)
    (hhigh : k ≤ 2097) : (roundUnits negative num den).IsWithin (k + 1) := by
  have hlog : Nat.log2 (num / den) < k := by
    rcases Nat.eq_zero_or_pos (num / den) with hzero | hpos
    · rw [hzero, Nat.log2_zero]
      omega
    · exact (Nat.log2_lt hpos.ne').mpr h
  have hkept : roundDiv num (den * 2 ^ (Nat.log2 (num / den) - 52)) ≤ 2 ^ 53 := by
    refine (roundDiv_le num _).trans ?_
    rw [← Nat.div_div_eq_div_mul]
    exact shifted_lt _
  -- A significand that is rounded up to 54 bits stands for the same number a unit higher.
  have hsize : ∀ s u : Nat, s ≤ 2 ^ 53 → u + 53 ≤ k → s * 2 ^ u < 2 ^ (k + 1) := by
    intro s u hs hu
    calc s * 2 ^ u ≤ 2 ^ 53 * 2 ^ u := Nat.mul_le_mul_right _ hs
      _ = 2 ^ (53 + u) := (Nat.pow_add 2 53 u).symm
      _ < 2 ^ (k + 1) := Nat.pow_lt_pow_right Nat.one_lt_two (by omega)
  have hunit : Nat.log2 (num / den) - 52 + 53 ≤ k := by omega
  have hcarried : 2 ^ 53 * 2 ^ (Nat.log2 (num / den) - 52) =
      2 ^ 52 * 2 ^ (Nat.log2 (num / den) - 52 + 1) := by
    rw [← Nat.pow_add, ← Nat.pow_add]
    exact congrArg _ (by omega)
  unfold roundUnits
  simp only [Nat.pow_eq]
  split_ifs with hcarry hinfinite hinfinite
  · dsimp only at hinfinite
    omega
  · refine ⟨rfl, ?_⟩
    rw [natAbs_scaled]
    exact hcarried ▸ hsize _ _ le_rfl hunit
  · dsimp only at hinfinite
    omega
  · refine ⟨rfl, ?_⟩
    rw [natAbs_scaled]
    exact hsize _ _ hkept hunit

theorem isWithin_ofScaled {n : Int} (negativeZero : Bool) (h : n.natAbs < 2 ^ k) (hlow : 53 ≤ k)
    (hhigh : k ≤ 2097) : (ofScaled n negativeZero).IsWithin (k + 1) := by
  unfold ofScaled
  split_ifs
  · exact isWithin_zero _ _
  · exact isWithin_roundUnits _ (by rwa [Nat.div_one]) hlow hhigh

/-- The difference of two numbers has at most two bits more than they have. -/
theorem IsWithin.sub (hx : x.IsWithin k) (hy : y.IsWithin k) (hlow : 52 ≤ k) (hhigh : k ≤ 2096) :
    (x.sub y).IsWithin (k + 2) := by
  obtain ⟨hx, hxsize⟩ := hx
  obtain ⟨hy, hysize⟩ := hy
  cases x with
  | finite a m u =>
    cases y with
    | finite b n v =>
      refine isWithin_ofScaled _ ?_ (by omega) (by omega)
      rw [natAbs_scaled] at hxsize hysize
      have hsum : (finite a m u).scaled.natAbs + (finite (!b) n v).scaled.natAbs < 2 ^ (k + 1) := by
        rw [natAbs_scaled, natAbs_scaled, Nat.pow_succ]
        omega
      exact (Int.natAbs_add_le _ _).trans_lt hsum
    | _ => exact absurd hy Bool.false_ne_true
  | _ => exact absurd hx Bool.false_ne_true

theorem div_lt_of_lt {m n u v unit : Nat} (hm : m * 2 ^ u < 2 ^ k) (hn : n * 2 ^ v < 2 ^ l)
    (hunit : unit ≤ k + l) : m * n * Nat.pow 2 (u + v) / Nat.pow 2 unit < 2 ^ (k + l - unit) := by
  simp only [Nat.pow_eq]
  refine Nat.div_lt_of_lt_mul ?_
  rw [Nat.pow_add 2 u v, Nat.mul_mul_mul_comm, ← Nat.pow_add, Nat.add_sub_cancel' hunit,
    Nat.pow_add]
  exact Nat.mul_lt_mul'' hm hn

/-- The product of two numbers has at most one bit more than the exact product. -/
theorem IsWithin.mul (hx : x.IsWithin k) (hy : y.IsWithin l) (hlow : 1127 ≤ k + l)
    (hhigh : k + l ≤ 3171) : (x.mul y).IsWithin (k + l - 1074 + 1) := by
  obtain ⟨hx, hxsize⟩ := hx
  obtain ⟨hy, hysize⟩ := hy
  cases x with
  | finite a m u =>
    cases y with
    | finite b n v =>
      rw [natAbs_scaled] at hxsize hysize
      show IsWithin _ (if m * n = 0 then _ else _)
      generalize hunit : 1074 = unit
      split_ifs
      · exact isWithin_zero _ _
      · exact isWithin_roundUnits _ (div_lt_of_lt hxsize hysize (by omega)) (by omega) (by omega)
    | _ => exact absurd hy Bool.false_ne_true
  | _ => exact absurd hx Bool.false_ne_true

/-! ## Measures -/

/-- Says that a number is finite, not below zero and below `2 ^ k` least units. -/
structure IsMeasure (k : Nat) (x : Binary64) : Prop where
  within : x.IsWithin k
  isNegative : x.isNegative = false

theorem isNegative_roundUnits (negative : Bool) (num den : Nat) :
    (roundUnits negative num den).isNegative = negative := by
  unfold roundUnits
  dsimp only
  split_ifs <;> rfl

theorem isMeasure_roundUnits (h : num / den < 2 ^ k) (hlow : 53 ≤ k) (hhigh : k ≤ 2097) :
    (roundUnits false num den).IsMeasure (k + 1) :=
  ⟨isWithin_roundUnits false h hlow hhigh, isNegative_roundUnits false num den⟩

/-- A measure is a count of least units. -/
theorem IsMeasure.exists_scaled (h : x.IsMeasure k) : ∃ n : Nat, x.scaled = n ∧ n < 2 ^ k := by
  obtain ⟨⟨hfinite, hsize⟩, hsign⟩ := h
  cases x with
  | finite a m u =>
    obtain rfl : a = false := hsign
    exact ⟨m * Nat.pow 2 u, rfl, hsize⟩
  | _ => exact absurd hfinite Bool.false_ne_true

theorem IsMeasure.mul (hx : x.IsMeasure k) (hy : y.IsMeasure l) (hlow : 1127 ≤ k + l)
    (hhigh : k + l ≤ 3171) : (x.mul y).IsMeasure (k + l - 1074 + 1) := by
  refine ⟨hx.within.mul hy.within hlow hhigh, ?_⟩
  obtain ⟨⟨hxfinite, -⟩, hxsign⟩ := hx
  obtain ⟨⟨hyfinite, -⟩, hysign⟩ := hy
  cases x with
  | finite a m u =>
    obtain rfl : a = false := hxsign
    cases y with
    | finite b n v =>
      obtain rfl : b = false := hysign
      show (if m * n = 0 then zero false else roundUnits false _ _).isNegative = false
      split_ifs
      · rfl
      · exact isNegative_roundUnits _ _ _
    | _ => exact absurd hyfinite Bool.false_ne_true
  | _ => exact absurd hxfinite Bool.false_ne_true

theorem mul_pow_div_one_lt {n : Nat} (h : n < 2 ^ k) (l : Nat) :
    n * Nat.pow 2 l / 1 < 2 ^ (k + l) := by
  rw [Nat.div_one, Nat.pow_add]
  exact Nat.mul_lt_mul_of_pos_right h (Nat.two_pow_pos l)

theorem div_pow_lt {n : Nat} (h : n < 2 ^ (k + l)) : n / Nat.pow 2 l < 2 ^ k := by
  refine Nat.div_lt_of_lt_mul ?_
  rwa [Nat.pow_eq, ← Nat.pow_add, Nat.add_comm]

theorem isMeasure_ofNat {n : Nat} (h : n < 2 ^ k) (hhigh : k ≤ 1023) :
    (ofNat n).IsMeasure (k + 1074 + 1) := by
  unfold ofNat round
  generalize hunit : 1074 = unit
  exact isMeasure_roundUnits (mul_pow_div_one_lt h unit) (by omega) (by omega)

theorem IsMeasure.mul_ofNat {n : Nat} (hx : x.IsMeasure k) (hn : n < 2 ^ l) (hlow : 52 ≤ k)
    (hhigh : k + l ≤ 2096) (hl : l ≤ 1023) : (x.mul (ofNat n)).IsMeasure (k + l + 2) := by
  have hproduct := hx.mul (isMeasure_ofNat hn hl) (by omega) (by omega)
  rwa [show k + (l + 1074 + 1) - 1074 + 1 = k + l + 2 by omega] at hproduct

/-- The whole part of a measure. -/
theorem IsMeasure.exists_truncate (h : x.IsMeasure (k + 1074)) :
    ∃ n : Nat, x.truncate = n ∧ n < 2 ^ k := by
  obtain ⟨n, hn, hlt⟩ := h.exists_scaled
  unfold truncate
  generalize 1074 = unit at hlt ⊢
  refine ⟨n / Nat.pow 2 unit, ?_, div_pow_lt hlt⟩
  rw [hn]
  exact Int.ofNat_tdiv n _

/-- A measure is rounded to a whole number that is not below zero. -/
theorem IsMeasure.exists_nearestInt (h : x.IsMeasure (k + 1074)) :
    ∃ n : Nat, x.nearestInt = n ∧ n ≤ 2 ^ k := by
  obtain ⟨n, hn, hlt⟩ := h.exists_scaled
  unfold nearestInt
  generalize 1074 = unit at hlt ⊢
  refine ⟨roundDiv n (Nat.pow 2 unit), ?_, (roundDiv_le _ _).trans (div_pow_lt hlt)⟩
  rw [hn, h.isNegative]
  rfl

/-- The part of a measure behind the point is a measure. -/
theorem IsMeasure.fraction (h : x.IsMeasure k) : x.fraction.IsMeasure 1075 := by
  obtain ⟨n, hn, -⟩ := h.exists_scaled
  unfold Binary64.fraction truncate
  generalize hunit : 1074 = unit
  have hrest : x.scaled - x.scaled.tdiv (Nat.pow 2 unit) * Nat.pow 2 unit =
      (n % Nat.pow 2 unit : Nat) := by
    rw [hn, Int.tdiv_eq_ediv_of_nonneg (Int.natCast_nonneg n), Int.natCast_mod, Int.emod_def,
      Int.mul_comm]
  rw [hrest, ofScaled]
  split_ifs
  · exact ⟨isWithin_zero _ _, h.isNegative⟩
  · rw [decide_eq_false (Int.not_lt.mpr (Int.natCast_nonneg _)), Int.natAbs_natCast]
    have hlt : n % Nat.pow 2 unit / 1 < 2 ^ unit := by
      rw [Nat.div_one]
      exact Nat.mod_lt n (Nat.two_pow_pos unit)
    have hmeasure := isMeasure_roundUnits hlt (by omega) (by omega)
    rwa [show unit + 1 = 1075 by omega] at hmeasure

end Binary64
end QueryDesk
