import QueryDesk.Proofs.Number.Decimal
import QueryDesk.Proofs.Sorting.Stable
import QueryDesk.Proofs.Value.Stored

/-!
# Values by rank

Among timestamps, and among whole numbers that are not too long, a value has a rank: the instant it
denotes, or itself.  Two such values are compared as their ranks are (`order_timestamp`,
`order_whole`). A sort by rank puts values without one last, in either direction (`rankLe`).
-/

set_option autoImplicit false

namespace QueryDesk
namespace Value

/-- The rank of a value among its like. -/
def rank? : Value → Option Int
  | timestamp t => some t.instant
  | whole n => some n
  | _ => none

/-- Says that a value is a timestamp, if it is given. -/
def IsMoment : Value → Prop
  | null | timestamp _ => True
  | _ => False

variable {v w : Value} {m n : Int}

theorem order_timestamp (s t : Timestamp) :
    (timestamp s).order (timestamp t) = .ok (compare s.instant t.instant) := rfl

theorem order_whole (hm : Number.isTooLong m = false) (hn : Number.isTooLong n = false) :
    (whole m).order (whole n) = .ok (compare m n) := by
  have hleft : (whole m).number? = .ok (some (.ofInt m)) := by
    rw [number?, hm, if_neg Bool.false_ne_true]
  have hright : (whole n).number? = .ok (some (.ofInt n)) := by
    rw [number?, hn, if_neg Bool.false_ne_true]
  show ((whole m).number? >>= fun x => (whole n).number? >>= fun y => _) = _
  rw [hleft, hright]
  show Except.ok ((Decimal.ofInt m).order (.ofInt n)) = _
  rw [Decimal.order, Decimal.compare?_ofInt]
  rfl

/-- Timestamps that are given are compared by rank. -/
theorem IsMoment.order_eq (hv : v.IsMoment) (hw : w.IsMoment) (hv₀ : v ≠ null) (hw₀ : w ≠ null) :
    ∃ m n, v.rank? = some m ∧ w.rank? = some n ∧ v.order w = .ok (compare m n) := by
  cases v with
  | null => exact absurd rfl hv₀
  | timestamp s =>
    cases w with
    | null => exact absurd rfl hw₀
    | timestamp t => exact ⟨_, _, rfl, rfl, order_timestamp s t⟩
    | _ => exact hw.elim
  | _ => exact hv.elim

/-- Counts that are given and can be written are compared by rank. -/
theorem IsCount.order_eq (hv : v.IsCount ∧ v.IsStored) (hw : w.IsCount ∧ w.IsStored)
    (hv₀ : v ≠ null) (hw₀ : w ≠ null) :
    ∃ m n, v.rank? = some m ∧ w.rank? = some n ∧ v.order w = .ok (compare m n) := by
  cases v with
  | null => exact absurd rfl hv₀
  | whole m =>
    cases w with
    | null => exact absurd rfl hw₀
    | whole n => exact ⟨_, _, rfl, rfl, order_whole hv.2 hw.2⟩
    | _ => exact hw.1.elim
  | _ => exact hv.1.elim

theorem atMost_whole (m n : Int) : (whole m).atMost (whole n) = .ok (decide (m ≤ n)) := by
  show sizeAtMost false (.ofInt m) (.ofInt n) = _
  rw [sizeAtMost, Decimal.compare?_ofInt]
  rcases lt_trichotomy m n with h | rfl | h
  · rw [compare_lt_iff_lt.mpr h, decide_eq_true h.le]
    rfl
  · rw [compare_eq_iff_eq.mpr rfl, decide_eq_true (le_refl m)]
    rfl
  · rw [compare_gt_iff_gt.mpr h, decide_eq_false h.not_ge]
    rfl

/-- Tests that a value of one rank may stand in front of a value of another; without a rank it goes
last in either direction. -/
def rankLe (descending : Bool) : Option Int → Option Int → Bool
  | _, none => true
  | none, some _ => false
  | some m, some n => if descending then n ≤ m else m ≤ n

theorem rankLe_trans {descending : Bool} {a b c : Option Int} (hab : rankLe descending a b)
    (hbc : rankLe descending b c) : rankLe descending a c := by
  cases c with
  | none => cases a <;> rfl
  | some n =>
    cases b with
    | none => exact absurd hbc Bool.false_ne_true
    | some m =>
      cases a with
      | none => exact absurd hab Bool.false_ne_true
      | some l =>
        cases descending <;> simp only [rankLe, if_true, Bool.false_eq_true, if_false,
          decide_eq_true_eq] at hab hbc ⊢ <;> omega

theorem rankLe_total (descending : Bool) (a b : Option Int) :
    rankLe descending a b || rankLe descending b a := by
  cases a <;> cases b <;> cases descending <;> simp [rankLe, Int.le_total]

/-- Ranks stand in an order, by whatever they are the ranks of. -/
theorem isOrder_rankLe {α : Type} (descending : Bool) (key : α → Option Int) :
    Sorting.IsOrder fun a b => rankLe descending (key a) (key b) where
  trans _ _ _ := rankLe_trans
  total _ _ := rankLe_total descending _ _

end Value

end QueryDesk
