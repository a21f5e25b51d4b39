import QueryDesk.Proofs.Statement.Limit
import QueryDesk.Proofs.Table.Filter

/-!
# When a statement fails

On a typed dataset the text of a statement alone decides whether it fails, and how: a statement that
does not begin with `SELECT` is refused, then one that names no table, and then one whose row limit
has a value that is no row count.  Every other statement gives rows (`execute_failures`).  In
particular nothing ever goes wrong while rows are filtered or sorted.
-/

set_option autoImplicit false

namespace QueryDesk

namespace Text

theorem occursIn_iff {part t : Text} : part.occursIn t = true ↔ part <:+: t := by
  induction t with
  | nil => rw [occursIn, List.isEmpty_iff, List.infix_nil]
  | cons g rest ih => rw [occursIn, Bool.or_eq_true, List.isPrefixOf_iff_prefix, ih,
      List.infix_cons_iff]

end Text

namespace Statement

/-- Says that a statement begins with `SELECT`, in any case and behind blanks. -/
def BeginsWithSelect (statement : Text) : Prop := Text.of "select" <+: statement.trim.lower

/-- Says that the name of a table occurs in a statement, in any case. -/
def NamesTable (statement : Text) : Prop := ∃ name ∈ tableNames, name <:+: statement.lower

/-- Says that the row limit of a statement has a value that is no row count. -/
def HasBadLimit (statement : Text) : Prop :=
  ∃ raw, limitText? statement = some raw ∧ ¬ IsRowCount raw

variable {statement : Text}

instance : Decidable (BeginsWithSelect statement) := inferInstanceAs (Decidable (_ <+: _))

instance : Decidable (NamesTable statement) :=
  decidable_of_iff ((tableNames.any fun name => name.occursIn statement.lower) = true) <| by
    simp only [List.any_eq_true, Text.occursIn_iff]
    rfl

instance : Decidable (HasBadLimit statement) :=
  decidable_of_iff (((limitText? statement).any fun raw => !decide (IsRowCount raw)) = true) <| by
    simp only [Option.any_eq_true, Bool.not_eq_true', decide_eq_false_iff_not]
    rfl

theorem isSelect_iff : isSelect statement = true ↔ BeginsWithSelect statement :=
  List.isPrefixOf_iff_prefix

theorem target_of_not_select (h : ¬ BeginsWithSelect statement) :
    target statement = .error .notSelect := by
  rw [target, if_neg (isSelect_iff.not.mpr h)]

theorem target_of_not_table (h : BeginsWithSelect statement) (hnone : ¬ NamesTable statement) :
    target statement = .error (.noTable tableNames) := by
  have hfind : (tableNames.find? fun name => name.occursIn statement.lower) = none := by
    rw [List.find?_eq_none]
    exact fun name hname hoccurs => hnone ⟨name, hname, Text.occursIn_iff.mp hoccurs⟩
  rw [target, if_pos (isSelect_iff.mpr h), table, hfind]

theorem exists_target (h : BeginsWithSelect statement) (hsome : NamesTable statement) :
    ∃ name, target statement = .ok name := by
  obtain ⟨name, hname, hoccurs⟩ := hsome
  have hfind : (tableNames.find? fun name => name.occursIn statement.lower).isSome := by
    rw [List.find?_isSome]
    exact ⟨name, hname, Text.occursIn_iff.mpr hoccurs⟩
  obtain ⟨first, hfirst⟩ := Option.isSome_iff_exists.mp hfind
  rw [target, if_pos (isSelect_iff.mpr h), table, hfirst]
  exact ⟨first, rfl⟩

theorem exists_rowLimit_iff_not : (∃ limit, rowLimit statement = .ok limit) ↔
    ¬ HasBadLimit statement := by
  rw [exists_rowLimit_iff, HasBadLimit]
  push Not
  rfl

end Statement

namespace Table

open Statement

variable {statement : Text} {d : Dataset} {now : Timestamp}

theorem select_of_badLimit {cause : Fault} (h : rowLimit statement = .error cause) (table : Text)
    (rows : List Row) (now : Timestamp) :
    select statement table rows now = .error (.execution table cause) := by
  rw [select, Statement.plan, h]
  rfl

theorem select_of_rowLimit {limit : Option RowLimit} (h : rowLimit statement = .ok limit)
    (table : Text) (rows : List Row) (now : Timestamp) :
    select statement table rows now
      = (apply ⟨predicates statement, sort? statement, limit⟩ now.asUniversal rows).mapError
        (.execution table) := by
  rw [select, Statement.plan, h]
  rfl

/-- **A statement whose row limit can be read gives rows of a table of typed rows.** -/
theorem exists_select {rows : List Row} (hrows : ∀ row ∈ rows, row.IsTyped)
    (hnow : now.HasQuarterBehind) {limit : Option RowLimit} (h : rowLimit statement = .ok limit)
    (table : Text) : ∃ selected, select statement table rows now = .ok selected := by
  have hp : ∀ p ∈ predicates statement, p.IsKnown := fun p => isKnown_of_mem_predicates
  have hquarter : now.asUniversal.HasQuarterBehind := ⟨hnow.isDay, hnow.later⟩
  obtain ⟨kept, hkept, hsub⟩ := exists_filter hp hrows hquarter rfl
  have hkeptTyped : ∀ row ∈ kept, row.IsTyped := fun row hr => hrows row (hsub.subset hr)
  obtain ⟨sorted, hsorted, -⟩ := exists_sort hkeptTyped (sort? statement)
  have happly : apply ⟨predicates statement, sort? statement, limit⟩ now.asUniversal rows
      = .ok (cut (limit.map (·.count)) sorted) := by
    rw [apply, hkept]
    show (sort (sort? statement) kept >>= fun rows => .ok (cut (limit.map (·.count)) rows)) = _
    rw [hsorted]
    rfl
  rw [select_of_rowLimit h, happly]
  exact ⟨_, rfl⟩

/-- **What running a statement on a typed dataset comes to**, by the text of the statement: a
statement that is no `SELECT`, one that names no table, one with a bad row limit, and any other,
which gives rows. -/
theorem execute_failures (hd : d.IsTyped) (hnow : now.HasQuarterBehind) (statement : Text) :
    (execute d.tables statement now = .error .notSelect ↔ ¬ BeginsWithSelect statement) ∧
    (execute d.tables statement now = .error (.noTable tableNames) ↔
      BeginsWithSelect statement ∧ ¬ NamesTable statement) ∧
    ((∃ table cause, execute d.tables statement now = .error (.execution table cause)) ↔
      BeginsWithSelect statement ∧ NamesTable statement ∧ HasBadLimit statement) ∧
    ((∃ rows, execute d.tables statement now = .ok rows) ↔
      BeginsWithSelect statement ∧ NamesTable statement ∧ ¬ HasBadLimit statement) ∧
    (∀ table cause, execute d.tables statement now = .error (.execution table cause) →
      rowLimit statement = .error cause) := by
  by_cases hselect : BeginsWithSelect statement
  · by_cases htable : NamesTable statement
    · obtain ⟨name, hname⟩ := exists_target hselect htable
      have hexecute : execute d.tables statement now
          = select statement name (rowsOf d.tables name) now := by
        rw [execute, hname]
        rfl
      by_cases hbad : HasBadLimit statement
      · obtain ⟨cause, hcause⟩ : ∃ cause, rowLimit statement = .error cause := by
          cases hlimit : rowLimit statement with
          | error cause => exact ⟨cause, rfl⟩
          | ok limit => exact absurd hbad (exists_rowLimit_iff_not.mp ⟨limit, hlimit⟩)
        rw [hexecute, select_of_badLimit hcause]
        simp [hselect, htable, hbad, hcause]
      · obtain ⟨limit, hlimit⟩ := exists_rowLimit_iff_not.mpr hbad
        obtain ⟨rows, hrows⟩ := exists_select (fun row hr => hd.isTyped_of_mem hr) hnow hlimit name
        rw [hexecute, hrows]
        simp [hselect, htable, hbad]
    · have hexecute : execute d.tables statement now = .error (.noTable tableNames) := by
        rw [execute, target_of_not_table hselect htable]
        rfl
      rw [hexecute]
      simp [hselect, htable]
  · have hexecute : execute d.tables statement now = .error .notSelect := by
      rw [execute, target_of_not_select hselect]
      rfl
    rw [hexecute]
    simp [hselect]

/-- Orders whose amounts are a number, a day and neither. -/
def mixedOrders : Dataset :=
  let order (amount : String) : SalesOrder :=
    ⟨Text.of "1", Text.of "SO-1", Text.of "Contoso", ⟨⟨2024, 2, 29⟩, 9, 0, 0, 0, none⟩,
      .text (Text.of amount), Text.of "pending", some (Text.of "North"), none⟩
  { Dataset.empty with salesOrders := [order "1e3", order "2024-02-30", order "2024-02-28"] }

/-- Amounts of all kinds can be sorted, on the first day that has a quarter behind it, and a row
limit with a sign is refused. -/
theorem execute_mixedOrders :
    (∃ rows, execute mixedOrders.tables (Text.of
        "SELECT * FROM sales_orders WHERE region = 'North' ORDER BY total_amount DESC LIMIT 2")
        ⟨⟨1, 4, 1⟩, 0, 0, 0, 0, none⟩ = .ok rows) ∧
    (∃ table cause, execute mixedOrders.tables (Text.of
        "SELECT TOP -1 * FROM sales_orders") ⟨⟨1, 4, 1⟩, 0, 0, 0, 0, none⟩
        = .error (.execution table cause)) := by
  have htyped : mixedOrders.IsTyped := by
    refine ⟨?_, by simp [mixedOrders, Dataset.empty], by simp [mixedOrders, Dataset.empty]⟩
    simp [mixedOrders]
  have hnow : Timestamp.HasQuarterBehind ⟨⟨1, 4, 1⟩, 0, 0, 0, 0, none⟩ := ⟨by decide, by decide⟩
  refine ⟨(execute_failures htyped hnow _).2.2.2.1.mpr ?_,
    (execute_failures htyped hnow _).2.2.1.mpr ?_⟩
  · decide +kernel
  · decide +kernel

end Table
end QueryDesk
