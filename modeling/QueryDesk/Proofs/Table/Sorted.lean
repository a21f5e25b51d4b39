import QueryDesk.Proofs.Sorting.Arranged
import QueryDesk.Proofs.Sorting.Last
import QueryDesk.Proofs.Value.Coherent
import QueryDesk.Table.Execute

/-!
# Sorted rows

Whatever a column holds, a sort by it loses no row and puts the rows without a value last, in their
old order, in either direction (`sort_missing_last`).

The other rows are in order if the values of the column are coherent.  Then every two rows stand as
they should, and what comes out does not depend, up to ties, on how the rows stood
(`sort_of_coherent`).  On a column of instants, of numbers or of texts a sort is stable as well, in
either direction (`sort_of_reading`).
-/

set_option autoImplicit false

namespace QueryDesk
namespace Table

open Value

variable {key : SortKey} {rows out : List Row} {a b c : Row}

/-! ## Rows without a value -/

/-- Tests that a row has no value in a column: the field is null or there is none. -/
def isMissing (column : Text) (row : Row) : Bool :=
  match field row column with
  | .null => true
  | _ => false

/-- Rows without a value stand behind all others; two rows with values stand as these do, or the
other way round. -/
theorem compareRows_eq (key : SortKey) (a b : Row) : compareRows key a b =
    if isMissing key.column a then .ok (if isMissing key.column b then .eq else .gt)
    else if isMissing key.column b then .ok .lt
    else ((field a key.column).order (field b key.column)).map
      fun o => if key.descending then o.swap else o := by
  unfold compareRows isMissing
  split <;> simp_all
  rfl

theorem compareRows_of_missing (h : isMissing key.column a = true) (b : Row) :
    compareRows key a b = .ok (if isMissing key.column b then .eq else .gt) := by
  simp [compareRows_eq, h]

theorem compareRows_of_missing_right (ha : isMissing key.column a = false)
    (hb : isMissing key.column b = true) : compareRows key a b = .ok .lt := by
  simp [compareRows_eq, ha, hb]

theorem compareRows_of_given (ha : isMissing key.column a = false)
    (hb : isMissing key.column b = false) :
    compareRows key a b = ((field a key.column).order (field b key.column)).map
      fun o => if key.descending then o.swap else o := by
  simp [compareRows_eq, ha, hb]

/-- A sort test sends rows without a value behind all others. -/
theorem sinks_missing (key : SortKey) :
    Sorting.Sinks (fun a b => (compareRows key a b).map (· == .lt)) (isMissing key.column) where
  stays h b := by
    rw [compareRows_of_missing h]
    split <;> rfl
  rises ha hb := by
    rw [compareRows_of_missing_right ha hb]
    rfl

/-! ## Rows that can be compared -/

/-- The values that rows have in a column. -/
def givenValues (column : Text) (rows : List Row) : List Value :=
  (rows.filter (!isMissing column ·)).map (field · column)

theorem mem_givenValues {column : Text} (ha : a ∈ rows) (h : isMissing column a = false) :
    field a column ∈ givenValues column rows :=
  List.mem_map_of_mem (List.mem_filter.mpr ⟨ha, by simp [h]⟩)

/-- Rows can be compared where their values can be. -/
theorem exists_compareRows_of_comparable (h : AreComparable (givenValues key.column rows))
    (ha : a ∈ rows) (hb : b ∈ rows) : ∃ o, compareRows key a b = .ok o := by
  by_cases ha₀ : isMissing key.column a = true
  · exact ⟨_, compareRows_of_missing ha₀ b⟩
  rw [Bool.not_eq_true] at ha₀
  by_cases hb₀ : isMissing key.column b = true
  · exact ⟨_, compareRows_of_missing_right ha₀ hb₀⟩
  rw [Bool.not_eq_true] at hb₀
  obtain ⟨o, ho⟩ := h _ (mem_givenValues ha ha₀) _ (mem_givenValues hb hb₀)
  exact ⟨_, by rw [compareRows_of_given ha₀ hb₀, ho]; rfl⟩

/-- Rows whose values can be compared can be sorted. -/
theorem exists_sort_of_comparable (h : AreComparable (givenValues key.column rows)) :
    ∃ out, sort (some key) rows = .ok out := by
  have hdecides : Sorting.Decides (fun a b => (compareRows key a b).map (· == .lt)) rows := by
    intro a ha b hb
    obtain ⟨o, ho⟩ := exists_compareRows_of_comparable h ha hb
    exact ⟨o == .lt, congrArg (Except.map (· == .lt)) ho⟩
  obtain ⟨out, hout, -⟩ := Sorting.exists_sort hdecides
  exact ⟨out, hout⟩

/-- **A sort loses no row and puts the rows without a value last**, in their old order, in either
direction and whatever the column holds. -/
theorem sort_missing_last (h : sort (some key) rows = .ok out) :
    out.Perm rows ∧ ∃ given, (∀ row ∈ given, isMissing key.column row = false) ∧
      out = given ++ rows.filter (isMissing key.column) :=
  ⟨Sorting.perm_of_sort h, Sorting.sort_eq_append_heavy (sinks_missing key) h⟩

/-- A text among numbers, so that they stand in no order, and two rows without a value. -/
theorem sort_missing_last_nine_ten :
    let rows : List Row := [[(Text.of "size", .null)], [(Text.of "size", .text (Text.of "9"))], [],
      [(Text.of "size", .text (Text.of "10"))], [(Text.of "size", .text (Text.of "1a"))]]
    ∃ out, sort (some ⟨Text.of "size", true⟩) rows = .ok out ∧
      ∃ given, out = given ++ [[(Text.of "size", .null)], []] := by
  intro rows
  have hcomparable : AreComparable (givenValues (Text.of "size") rows) :=
    areComparable_of_wholes (by decide +kernel)
  obtain ⟨out, hout⟩ := @exists_sort_of_comparable ⟨Text.of "size", true⟩ rows hcomparable
  obtain ⟨-, given, -, hgiven⟩ := sort_missing_last hout
  exact ⟨out, hout, given, hgiven⟩

/-! ## Rows in order -/

/-- Rows that are compared the other way round stand the other way round. -/
theorem compareRows_swap {o : Ordering} (h : compareRows key a b = .ok o) :
    compareRows key b a = .ok o.swap := by
  rw [compareRows_eq] at h ⊢
  by_cases ha : isMissing key.column a = true
  · by_cases hb : isMissing key.column b = true <;> simp only [ha, hb] at h ⊢ <;> cases h <;> rfl
  · by_cases hb : isMissing key.column b = true
    · simp only [ha, hb] at h ⊢
      cases h
      rfl
    · simp only [ha, hb] at h ⊢
      cases horder : (field a key.column).order (field b key.column) with
      | error e =>
        rw [horder] at h
        cases h
      | ok o' =>
        rw [horder] at h
        cases h
        rw [order_swap horder]
        cases key.descending <;> rfl

/-- Tests that a row can be compared with another and does not stand behind it. -/
def notBehind (key : SortKey) (a b : Row) : Bool :=
  match compareRows key a b with
  | .ok o => o.isLE
  | .error _ => false

/-- Tests that two rows compare equal. -/
def alike (key : SortKey) (a b : Row) : Bool :=
  match compareRows key a b with
  | .ok .eq => true
  | _ => false

theorem notBehind_iff_compareRows :
    notBehind key a b = true ↔ ∃ o, compareRows key a b = .ok o ∧ o ≠ .gt := by
  unfold notBehind
  split <;> simp [*, Ordering.isLE_iff_ne_gt]

theorem alike_iff : alike key a b = true ↔ compareRows key a b = .ok .eq := by
  unfold alike
  split <;> simp_all

/-- Rows compare equal if neither stands behind the other. -/
theorem tied_notBehind (key : SortKey) : Sorting.tied (notBehind key) = alike key := by
  funext a b
  unfold Sorting.tied
  cases h : compareRows key a b with
  | error e => simp [notBehind, alike, h]
  | ok o =>
    simp only [notBehind, alike, h, compareRows_swap h]
    cases o <;> rfl

/-- Of two rows with values the first does not stand behind if its value does not, or if the other
value does not in a sort that descends. -/
theorem notBehind_iff_of_given (ha : isMissing key.column a = false)
    (hb : isMissing key.column b = false) :
    notBehind key a b = true ↔
      if key.descending then (field b key.column).NotBehind (field a key.column)
      else (field a key.column).NotBehind (field b key.column) := by
  rw [notBehind_iff_compareRows, compareRows_of_given ha hb, notBehind_iff_swap, NotBehind]
  cases (field a key.column).order (field b key.column) with
  | error e => simp [Except.map]
  | ok o => cases key.descending <;> cases o <;> simp [Except.map]

/-- A row without a value stands in front of such rows only. -/
theorem notBehind_of_missing (hb : isMissing key.column b = true) : notBehind key a b = true := by
  rw [notBehind_iff_compareRows]
  by_cases ha : isMissing key.column a = true
  · exact ⟨.eq, by rw [compareRows_of_missing ha, if_pos hb], by simp⟩
  · exact ⟨.lt, compareRows_of_missing_right (Bool.eq_false_iff.mpr ha) hb, by simp⟩

theorem isMissing_of_notBehind (h : notBehind key a b = true)
    (ha : isMissing key.column a = true) : isMissing key.column b = true := by
  by_contra hb
  rw [notBehind_iff_compareRows, compareRows_of_missing ha, if_neg hb] at h
  simp at h

/-! ## Columns in which rows stand in order -/

/-- Says that the values of a column can be compared with each other and make sense together. -/
structure IsOrdered (column : Text) (rows : List Row) : Prop where
  comparable : AreComparable (givenValues column rows)
  coherent : IsCoherent (givenValues column rows)

theorem IsOrdered.notBehind_trans (h : IsOrdered key.column rows) (ha : a ∈ rows) (hb : b ∈ rows)
    (hc : c ∈ rows) (hab : notBehind key a b = true) (hbc : notBehind key b c = true) :
    notBehind key a c = true := by
  by_cases hc₀ : isMissing key.column c = true
  · exact notBehind_of_missing hc₀
  have hb₀ : isMissing key.column b = false :=
    Bool.eq_false_iff.mpr fun hb₀ => hc₀ (isMissing_of_notBehind hbc hb₀)
  have ha₀ : isMissing key.column a = false :=
    Bool.eq_false_iff.mpr fun ha₀ =>
      Bool.eq_false_iff.mp hb₀ (isMissing_of_notBehind hab ha₀)
  rw [Bool.not_eq_true] at hc₀
  have hav := mem_givenValues ha ha₀
  have hbv := mem_givenValues hb hb₀
  have hcv := mem_givenValues hc hc₀
  rw [notBehind_iff_of_given ha₀ hb₀] at hab
  rw [notBehind_iff_of_given hb₀ hc₀] at hbc
  rw [notBehind_iff_of_given ha₀ hc₀]
  split at hab
  · next hd =>
    rw [if_pos hd] at hbc ⊢
    exact h.coherent.notBehind_trans hcv hbv hav hbc hab
  · next hd =>
    rw [if_neg hd] at hbc ⊢
    exact h.coherent.notBehind_trans hav hbv hcv hab hbc

/-- In such a column rows stand in an order. -/
theorem IsOrdered.isOrderOn (h : IsOrdered key.column rows) :
    Sorting.IsOrderOn (notBehind key) rows where
  trans a ha b hb c hc := h.notBehind_trans ha hb hc
  total a ha b hb := by
    obtain ⟨o, ho⟩ := exists_compareRows_of_comparable h.comparable ha hb
    simp only [notBehind, ho, compareRows_swap ho]
    cases o <;> rfl

/-- The test of a sort tells that order. -/
theorem IsOrdered.tells (h : IsOrdered key.column rows) :
    Sorting.Tells (fun a b => (compareRows key a b).map (· == .lt)) (notBehind key) rows := by
  intro a ha b hb
  obtain ⟨o, ho⟩ := exists_compareRows_of_comparable h.comparable ha hb
  simp only [notBehind, ho, compareRows_swap ho]
  cases o <;> rfl

theorem IsOrdered.exists_sort (h : IsOrdered key.column rows) :
    ∃ out, sort (some key) rows = .ok out ∧ out.Pairwise (fun a b => notBehind key a b = true) ∧
      ∀ a ∈ rows, out.filter (alike key a) = rows.filter (alike key a) := by
  rw [← tied_notBehind]
  exact Sorting.exists_sort_arranged h.isOrderOn h.tells

theorem IsOrdered.of_perm {column : Text} {rows' : List Row} (h : IsOrdered column rows)
    (hperm : rows'.Perm rows) : IsOrdered column rows' := by
  have hsub : ∀ v ∈ givenValues column rows', v ∈ givenValues column rows := fun v hv =>
    ((hperm.filter _).map _).subset hv
  exact ⟨fun v hv w hw => h.comparable v (hsub v hv) w (hsub w hw),
    fun v hv w hw hkind z hz => h.coherent v (hsub v hv) w (hsub w hw) hkind z (hsub z hz)⟩

/-- **On coherent values a sort puts every two rows in order**, and up to ties its result does not
depend on how the rows stood; and the values on which the order is transitive are the coherent
ones. -/
theorem sort_of_coherent :
    (∀ values : List Value, (∀ x ∈ values, ∀ y ∈ values, ∀ z ∈ values,
        x.NotBehind y → y.NotBehind z → x.NotBehind z) ↔ IsCoherent values) ∧
      ∀ key rows, IsOrdered key.column rows →
        ∃ out, sort (some key) rows = .ok out ∧
          out.Pairwise (fun a b => ∃ o, compareRows key a b = .ok o ∧ o ≠ .gt) ∧
          ∀ rows' : List Row, rows'.Perm rows → ∃ out', sort (some key) rows' = .ok out' ∧
            List.Forall₂ (fun a b => compareRows key a b = .ok .eq) out out' := by
  refine ⟨fun _ => notBehind_trans_iff, fun key rows h => ?_⟩
  obtain ⟨out, hsort, hpair, -⟩ := h.exists_sort
  refine ⟨out, hsort, hpair.imp notBehind_iff_compareRows.mp, fun rows' hperm => ?_⟩
  obtain ⟨out', hsort', hpair', -⟩ := (h.of_perm hperm).exists_sort
  have hout := Sorting.perm_of_sort hsort
  have hout' := (Sorting.perm_of_sort hsort').trans hperm
  refine ⟨out', hsort', ?_⟩
  refine (Sorting.forall₂_tied_of_pairwise h.isOrderOn hout.subset (hout.trans hout'.symm) hpair
    hpair').imp fun a b hab => ?_
  rwa [tied_notBehind, alike_iff] at hab

/-- A column of days and instants with a text behind them all, and a row without a value. -/
theorem sort_of_coherent_to_be_set :
    let rows : List Row := [[(Text.of "due", .text (Text.of "to be set"))],
      [(Text.of "due", .text (Text.of "2024-03-01"))], [], [(Text.of "due", .date ⟨2024, 2, 1⟩)],
      [(Text.of "due", .text (Text.of "2024-02-01T00:00:00Z"))]]
    IsOrdered (Text.of "due") rows ∧
      ∃ out out', sort (some ⟨Text.of "due", false⟩) rows = .ok out ∧
        sort (some ⟨Text.of "due", false⟩) rows.reverse = .ok out' ∧
        List.Forall₂ (fun a b => compareRows ⟨Text.of "due", false⟩ a b = .ok .eq) out out' := by
  intro rows
  have hordered : IsOrdered (Text.of "due") rows :=
    ⟨areComparable_of_wholes (by decide +kernel), by decide +kernel⟩
  obtain ⟨out, hout, -, hperm⟩ := sort_of_coherent.2 ⟨Text.of "due", false⟩ rows hordered
  obtain ⟨out', hout', htied⟩ := hperm rows.reverse (List.reverse_perm rows)
  exact ⟨hordered, out, out', hout, hout', htied⟩

/-- **The order of values is not transitive**: of two numbers the smaller one stands behind a text
that the greater one stands in front of. -/
theorem nine_stands_behind :
    (Value.text (Text.of "9")).NotBehind (.text (Text.of "10")) ∧
      (Value.text (Text.of "10")).NotBehind (.text (Text.of "1a")) ∧
      ¬ (Value.text (Text.of "9")).NotBehind (.text (Text.of "1a")) := by
  decide +kernel

/-! ## Columns of one kind -/

/-- **On a column of instants, of numbers or of texts a sort is a stable one**, in either
direction: every two rows with values stand in order, and rows that compare equal stay as they
stood. -/
theorem sort_of_reading {reading : Reading}
    (hshort : ∀ v ∈ givenValues key.column rows, ∀ n ∈ v.wholes, Number.isTooLong n = false)
    (hreading : ∀ v ∈ givenValues key.column rows, v.reading = reading) :
    ∃ out, sort (some key) rows = .ok out ∧ out.Perm rows ∧
      out.Pairwise (fun a b =>
        isMissing key.column a = false → isMissing key.column b = false →
          ∃ o, (field a key.column).order (field b key.column) = .ok o ∧
            if key.descending then o ≠ .lt else o ≠ .gt) ∧
      ∀ a ∈ rows, out.filter (alike key a) = rows.filter (alike key a) := by
  have hordered : IsOrdered key.column rows :=
    ⟨areComparable_of_wholes hshort, isCoherent_of_reading hreading⟩
  obtain ⟨out, hsort, hpair, hties⟩ := hordered.exists_sort
  refine ⟨out, hsort, Sorting.perm_of_sort hsort, hpair.imp fun {a b} hab ha hb => ?_, hties⟩
  rw [notBehind_iff_of_given ha hb] at hab
  split at hab
  · next hd =>
    simp only [hd, if_true]
    exact notBehind_iff_swap.mp hab
  · next hd =>
    simp only [hd]
    exact hab

/-- Numbers of three kinds, two of them of one size, in a sort that descends. -/
theorem sort_of_reading_ten :
    let rows : List Row := [[(Text.of "size", .text (Text.of "9.5"))],
      [(Text.of "size", .whole 10)], [(Text.of "size", .null)],
      [(Text.of "size", .decimal (.finite false 100 (-1)))]]
    (∀ v ∈ givenValues (Text.of "size") rows, ∀ n ∈ v.wholes, Number.isTooLong n = false) ∧
      (∀ v ∈ givenValues (Text.of "size") rows, v.reading = .number) ∧
      ∃ out, sort (some ⟨Text.of "size", true⟩) rows = .ok out ∧ out.Perm rows ∧
        ∀ a ∈ rows, out.filter (alike ⟨Text.of "size", true⟩ a) =
          rows.filter (alike ⟨Text.of "size", true⟩ a) := by
  intro rows
  have hshort : ∀ v ∈ givenValues (Text.of "size") rows, ∀ n ∈ v.wholes,
      Number.isTooLong n = false := by decide +kernel
  have hreading : ∀ v ∈ givenValues (Text.of "size") rows, v.reading = .number := by
    decide +kernel
  obtain ⟨out, hout, hperm, -, hties⟩ := @sort_of_reading ⟨Text.of "size", true⟩ rows .number
    hshort hreading
  exact ⟨hshort, hreading, out, hout, hperm, hties⟩

end Table
end QueryDesk
