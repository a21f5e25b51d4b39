import QueryDesk.Business.Records
import QueryDesk.Proofs.Sorting.Arranged
import QueryDesk.Proofs.Value.Ranked
import QueryDesk.Table.Execute

/-!
# Sorting rows by rank

In a column of timestamps, or of whole numbers, rows are compared by the ranks of their values, and
rows without one go last.  So a sort by such a column is the stable sort by rank (`sort_eq`).  What
a plan makes of the rows of some records can then be said of the records: those that are kept, in
the order of a key, and cut (`apply_map`).
-/

set_option autoImplicit false

namespace QueryDesk
namespace Table

open Value

/-- Says that the values of a column have ranks, where they are given: all are timestamps, or all
are whole numbers that are not too long. -/
inductive IsRanked (column : Text) (rows : List Row) : Prop
  | moments (h : ∀ row ∈ rows, (field row column).IsMoment)
  | counts (h : ∀ row ∈ rows, (field row column).IsCount ∧ (field row column).IsStored)

variable {key : SortKey} {rows : List Row} {a b : Row}

theorem IsRanked.of_subset {column : Text} {kept : List Row} (h : IsRanked column rows)
    (hkept : kept ⊆ rows) : IsRanked column kept := by
  cases h with
  | moments h => exact .moments fun row hrow => h row (hkept hrow)
  | counts h => exact .counts fun row hrow => h row (hkept hrow)

theorem IsRanked.order_eq {column : Text} (h : IsRanked column rows) (ha : a ∈ rows) (hb : b ∈ rows)
    (ha₀ : field a column ≠ .null) (hb₀ : field b column ≠ .null) :
    ∃ m n, (field a column).rank? = some m ∧ (field b column).rank? = some n ∧
      (field a column).order (field b column) = .ok (compare m n) := by
  cases h with
  | moments h => exact (h a ha).order_eq (h b hb) ha₀ hb₀
  | counts h => exact IsCount.order_eq (h a ha) (h b hb) ha₀ hb₀

theorem IsRanked.exists_rank {column : Text} (h : IsRanked column rows) (ha : a ∈ rows)
    (ha₀ : field a column ≠ .null) : ∃ m, (field a column).rank? = some m := by
  obtain ⟨m, -, hm, -⟩ := h.order_eq ha ha ha₀ ha₀
  exact ⟨m, hm⟩

/-- Tests that a row may stand in front of another in a sort by rank. -/
def rowLe (key : SortKey) (a b : Row) : Bool :=
  rankLe key.descending (field a key.column).rank? (field b key.column).rank?

/-- Whole numbers stand to each other as a sort by rank has it, in either direction. -/
theorem compare_lt_eq (descending : Bool) (m n : Int) :
    ((if descending then (compare m n).swap else compare m n) == .lt) =
      !rankLe descending (some n) (some m) := by
  rcases lt_trichotomy m n with h | rfl | h
  · cases descending <;> simp [rankLe, compare_lt_iff_lt.mpr h, h, h.le]
  · cases descending <;> simp [rankLe]
  · cases descending <;> simp [rankLe, compare_gt_iff_gt.mpr h, h, h.le]

/-- A row goes before another in a ranked column if its rank says so. -/
theorem IsRanked.compareRows_eq (h : IsRanked key.column rows) (ha : a ∈ rows) (hb : b ∈ rows) :
    (compareRows key a b).map (· == .lt) = .ok (!rowLe key b a) := by
  unfold compareRows rowLe
  split
  · next ha₀ hb₀ =>
    rw [ha₀, hb₀]
    rfl
  · next ha₀ hb₀ =>
    obtain ⟨n, hn⟩ := h.exists_rank hb hb₀
    rw [ha₀, hn]
    rfl
  · next hb₀ ha₀ =>
    obtain ⟨m, hm⟩ := h.exists_rank ha ha₀
    rw [hb₀, hm]
    rfl
  · next ha₀ hb₀ _ =>
    obtain ⟨m, n, hm, hn, horder⟩ := h.order_eq ha hb ha₀ hb₀
    rw [horder, hm, hn, ← compare_lt_eq]
    rfl

/-- **A sort by a ranked column is the stable sort by rank.** -/
theorem IsRanked.sort_eq (h : IsRanked key.column rows) :
    sort (some key) rows = .ok (rows.mergeSort (rowLe key)) :=
  Sorting.sort_eq_mergeSort (isOrder_rankLe key.descending _)
    fun _ ha _ hb => h.compareRows_eq ha hb

/-! ## Rows of records -/

section Records

variable {α : Type} {row : α → Row} {xs : List α} {now : Timestamp}

/-- Records in the stable order of a key, those without one last, and the first so many of them. -/
def arranged (descending : Bool) (key : α → Option Int) (count : Nat) (xs : List α) : List α :=
  (xs.mergeSort fun a b => rankLe descending (key a) (key b)).take count

/-- Says that a key of records is the rank of their rows in a column. -/
structure RankedBy (column : Text) (row : α → Row) (rank : α → Option Int) (xs : List α) :
    Prop where
  isRanked : IsRanked column (xs.map row)
  rank_eq : ∀ x ∈ xs, (field (row x) column).rank? = rank x

theorem RankedBy.of_timestamps? {column : Text} {t : α → Option Timestamp}
    (h : ∀ x, field (row x) column = .ofTimestamp? (t x)) (xs : List α) :
    RankedBy column row (fun x => (t x).map (·.instant)) xs where
  isRanked := .moments <| List.forall_mem_map.mpr fun x _ => by
    rw [h]
    cases t x <;> trivial
  rank_eq x _ := by
    rw [h]
    cases t x <;> rfl

theorem RankedBy.of_timestamps {column : Text} {t : α → Timestamp}
    (h : ∀ x, field (row x) column = .timestamp (t x)) (xs : List α) :
    RankedBy column row (fun x => some (t x).instant) xs :=
  .of_timestamps? (t := fun x => some (t x)) h xs

theorem RankedBy.of_wholes {column : Text} {n : α → Int}
    (h : ∀ x, field (row x) column = .whole (n x))
    (hn : ∀ x ∈ xs, Number.isTooLong (n x) = false) :
    RankedBy column row (fun x => some (n x)) xs where
  isRanked := .counts <| List.forall_mem_map.mpr fun x hx => by
    rw [h]
    exact ⟨trivial, hn x hx⟩
  rank_eq x _ := by
    rw [h]
    rfl

theorem filter_map {predicates : List Predicate} {keeps : α → Bool}
    (h : ∀ x ∈ xs, Predicate.allHold now (row x) predicates = .ok (keeps x)) :
    filter predicates now (xs.map row) = .ok ((xs.filter keeps).map row) := by
  induction xs with
  | nil => rfl
  | cons x xs ih =>
    obtain ⟨hx, hxs⟩ := List.forall_mem_cons.mp h
    rw [List.map_cons, filter, hx, ih hxs]
    cases hkeep : keeps x <;> simp [hkeep, Except.ok_bind]

/-- **What a plan makes of the rows of some records**: those that meet the conditions, in the order
of their ranks, and cut. -/
theorem apply_map {predicates : List Predicate} {column : Text} {keeps : α → Bool}
    {rank : α → Option Int}
    (hkeeps : ∀ x ∈ xs, Predicate.allHold now (row x) predicates = .ok (keeps x))
    (hrank : RankedBy column row rank xs) (descending : Bool) (count : Nat) (form : LimitForm) :
    apply ⟨predicates, some ⟨column, descending⟩, some ⟨count, form⟩⟩ now (xs.map row) =
      .ok ((arranged descending rank count (xs.filter keeps)).map row) := by
  have hkept : IsRanked column ((xs.filter keeps).map row) :=
    hrank.isRanked.of_subset (List.map_subset row (List.filter_subset_self xs))
  have hsorted : ((xs.filter keeps).mergeSort fun x y => rankLe descending (rank x) (rank y)).map
      row = ((xs.filter keeps).map row).mergeSort (rowLe ⟨column, descending⟩) := by
    refine List.map_mergeSort fun x hx y hy => ?_
    rw [rowLe, hrank.rank_eq x (List.mem_filter.mp hx).1, hrank.rank_eq y (List.mem_filter.mp hy).1]
  have hsort : sort (some ⟨column, descending⟩) ((xs.filter keeps).map row) =
      .ok (((xs.filter keeps).map row).mergeSort (rowLe ⟨column, descending⟩)) := hkept.sort_eq
  rw [apply, filter_map hkeeps, Except.ok_bind, hsort, Except.ok_bind, ← hsorted, arranged,
    List.map_take]
  rfl

/-- Without conditions all records are kept. -/
theorem apply_map_all {column : Text} {rank : α → Option Int}
    (hrank : RankedBy column row rank xs) (descending : Bool) (count : Nat) (form : LimitForm) :
    apply ⟨[], some ⟨column, descending⟩, some ⟨count, form⟩⟩ now (xs.map row) =
      .ok ((arranged descending rank count xs).map row) := by
  have hkeeps : ∀ x ∈ xs, Predicate.allHold now (row x) [] = .ok true := fun _ _ => rfl
  have hall := apply_map hkeeps hrank descending count form
  rwa [List.filter_true] at hall

end Records

end Table
end QueryDesk
