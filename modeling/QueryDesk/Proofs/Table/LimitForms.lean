import QueryDesk.Proofs.Business.Typed
import QueryDesk.Proofs.Calendar.Months
import QueryDesk.Proofs.Statement.Tails
import QueryDesk.Proofs.Table.Failures

/-!
# Row limits only cut

A row limit in any of its three spellings leaves all else that a statement asks for as it is: the
table, the conditions and the order.  So the spellings come to the same rows, and if the statement
had no row limit before, these are the first of the rows that it had (`execute_limit_forms`).

What `SELECT TOP` takes for its value need not stand apart from it, so a column whose name begins
with `top` is read as a row limit.  The rest of the name may be a row count, which then cuts the
rows; or it is none, and the statement fails though it does not with a `LIMIT` behind it.
-/

set_option autoImplicit false

namespace QueryDesk

/-! ## Texts that occur between blanks -/

namespace Text

variable {part : Text}

theorem isPrefixOf_append_blank (h : .char ' ' ∉ part) (t u : Text) :
    part.isPrefixOf (t ++ .char ' ' :: u) = part.isPrefixOf t := by
  induction part generalizing t with
  | nil => cases t <;> rfl
  | cons g part ih =>
    rw [List.mem_cons, not_or] at h
    cases t with
    | nil =>
      show (g == .char ' ' && _) = false
      rw [beq_eq_false_iff_ne.mpr (Ne.symm h.1), Bool.false_and]
    | cons a t => rw [List.cons_append, List.isPrefixOf, List.isPrefixOf, ih h.2]

/-- A text without blanks occurs in front of a blank or behind it. -/
theorem occursIn_append_blank (hne : part ≠ []) (h : .char ' ' ∉ part) (t u : Text) :
    part.occursIn (t ++ .char ' ' :: u) = (part.occursIn t || part.occursIn u) := by
  have hprefix := isPrefixOf_append_blank h
  induction t with
  | nil =>
    have hempty : part.isEmpty = false := List.isEmpty_eq_false_iff.mpr hne
    have hnil : part.isPrefixOf (.char ' ' :: u) = false := by
      rw [← List.nil_append (Glyph.char ' ' :: u), hprefix]
      cases part with
      | nil => exact absurd rfl hne
      | cons g part => rfl
    rw [List.nil_append, occursIn, occursIn, hnil, hempty]
  | cons a t ih =>
    have hcons := hprefix (a :: t) u
    rw [List.cons_append] at hcons ⊢
    rw [occursIn, occursIn, hcons, ih, Bool.or_assoc]

end Text

namespace Statement

variable {r n : Text} {spelling : Text × Text}

/-! ## The table -/

/-- A name of a table stands between blanks. -/
theorem occursIn_lower_append_blank {name : Text} (h : name ∈ tableNames) (t u : Text) :
    name.occursIn (Text.lower (t ++ .char ' ' :: u)) =
      (name.occursIn t.lower || name.occursIn u.lower) := by
  have hname : ∀ name ∈ tableNames, name ≠ [] ∧ .char ' ' ∉ name := by decide
  have hlower : Text.lower (t ++ .char ' ' :: u) = t.lower ++ .char ' ' :: u.lower :=
    List.flatMap_append
  rw [hlower, Text.occursIn_append_blank (hname name h).1 (hname name h).2]

/-- No name of a table occurs in a row limit. -/
theorem occursIn_lower_eq_false {name t : Text} (h : name ∈ tableNames)
    (ht : ∀ g ∈ t, g ∈ Text.of "LIMTOP()0123456789") : name.occursIn t.lower = false := by
  have hname : ∀ name ∈ tableNames, .char 'e' ∈ name := by decide
  have hglyph : ∀ g ∈ Text.of "LIMTOP()0123456789", .char 'e' ∉ g.lower := by decide
  rw [← Bool.not_eq_true, Text.occursIn_iff]
  intro hwithin
  obtain ⟨g, hg, hmem⟩ := List.mem_flatMap.mp (hwithin.subset (hname name h))
  exact hglyph g (ht g hg) hmem

theorem isSelect_select (t : Text) : isSelect (Text.of "SELECT " ++ t) = true := by
  have hstart : Text.trimStart (Text.of "SELECT " ++ t) =
      Text.of "SELEC" ++ .char 'T' :: (.char ' ' :: t) := rfl
  rw [isSelect, Text.trim, hstart, Text.trimEnd, Text.dropEndWhile_append_cons (by decide)]
  rfl

theorem target_eq_of_occursIn {t u : Text}
    (h : ∀ name ∈ tableNames, name.occursIn (Text.lower (Text.of "SELECT " ++ t)) =
      name.occursIn (Text.lower (Text.of "SELECT " ++ u))) :
    target (Text.of "SELECT " ++ t) = target (Text.of "SELECT " ++ u) := by
  have hfind := congrArg List.head? (List.filter_congr h)
  rw [List.head?_filter, List.head?_filter] at hfind
  rw [target, target, isSelect_select, isSelect_select, table, table, hfind]

theorem mem_of_isRowCount (hn : IsRowCount n) : ∀ g ∈ n, g ∈ Text.of "LIMTOP()0123456789" := by
  have hdigits : ∀ g ∈ Text.of "0123456789", g ∈ Text.of "LIMTOP()0123456789" := by decide
  exact fun g hg => hdigits g (Glyph.mem_of_isAsciiDigit (hn.2.2 g hg))

/-- A row limit at the end names no table. -/
theorem target_tail (hn : IsRowCount n) (r : Text) :
    target (Text.of "SELECT " ++ (r ++ limitTail n)) = target (Text.of "SELECT " ++ r) := by
  refine target_eq_of_occursIn fun name hname => ?_
  have hlimit := occursIn_lower_eq_false hname (t := Text.of "LIMIT") (by decide)
  have hcount := occursIn_lower_eq_false hname (mem_of_isRowCount hn)
  show name.occursIn (Text.lower (Text.of "SELECT" ++ .char ' ' ::
    (r ++ .char ' ' :: (Text.of "LIMIT" ++ .char ' ' :: n)))) =
      name.occursIn (Text.lower (Text.of "SELECT" ++ .char ' ' :: r))
  simp only [occursIn_lower_append_blank hname, hlimit, hcount, Bool.or_false]

/-- A `SELECT TOP` is followed by blanks around its row count. -/
theorem exists_top_eq (h : spelling ∈ topSpellings) (hn : IsRowCount n) (r : Text) :
    ∃ count : Text, (∀ g ∈ count, g ∈ Text.of "LIMTOP()0123456789") ∧
      spelling.1 ++ (n ++ spelling.2) ++ r =
        Text.of "SELECT " ++ (Text.of "TOP" ++ .char ' ' :: (count ++ .char ' ' :: r)) := by
  simp only [topSpellings, List.mem_cons, List.not_mem_nil, or_false] at h
  rcases h with rfl | rfl
  · refine ⟨n, mem_of_isRowCount hn, ?_⟩
    rw [List.append_assoc, List.append_assoc]
    rfl
  · refine ⟨.char '(' :: (n ++ [.char ')']), fun g hg => ?_, ?_⟩
    · rcases List.mem_cons.mp hg with rfl | hg
      · decide
      · rcases List.mem_append.mp hg with hg | hg
        · exact mem_of_isRowCount hn g hg
        · rw [List.mem_singleton.mp hg]
          decide
    · rw [List.append_assoc, List.append_assoc, List.cons_append, List.append_assoc]
      rfl

/-- A `SELECT TOP` names no table. -/
theorem target_top (h : spelling ∈ topSpellings) (hn : IsRowCount n) (r : Text) :
    target (spelling.1 ++ (n ++ spelling.2) ++ r) = target (Text.of "SELECT " ++ r) := by
  obtain ⟨count, hcount, heq⟩ := exists_top_eq h hn r
  rw [heq]
  refine target_eq_of_occursIn fun name hname => ?_
  have htop := occursIn_lower_eq_false hname (t := Text.of "TOP") (by decide)
  have hnone := occursIn_lower_eq_false hname hcount
  show name.occursIn (Text.lower (Text.of "SELECT" ++ .char ' ' ::
    (Text.of "TOP" ++ .char ' ' :: (count ++ .char ' ' :: r)))) =
      name.occursIn (Text.lower (Text.of "SELECT" ++ .char ' ' :: r))
  simp only [occursIn_lower_append_blank hname, htop, hnone, Bool.false_or]

end Statement

namespace Table

open Statement

variable {s s' : Text} {rows : List Row} {now : Timestamp}

/-! ## Rows in order -/

/-- The rows that meet the conditions of a statement, in its sort order. -/
def ordered (statement : Text) (now : Timestamp) (rows : List Row) : Except Fault (List Row) := do
  let kept ← filter (predicates statement) now rows
  sort (sort? statement) kept

/-- **A row limit cuts the rows when they are in order.** -/
theorem select_eq_cut {limit : Option RowLimit} (h : rowLimit s = .ok limit) (table : Text)
    (rows : List Row) (now : Timestamp) :
    select s table rows now =
      ((ordered s now.asUniversal rows).map (cut (limit.map (·.count)))).mapError
        (.execution table) := by
  rw [select_of_rowLimit h, apply, ordered]
  congr 1
  cases filter (predicates s) now.asUniversal rows with
  | error cause => rfl
  | ok kept =>
    show (sort (sort? s) kept >>= fun sorted => .ok _) = (sort (sort? s) kept).map _
    cases sort (sort? s) kept <;> rfl

/-- Sorting by a column that no row has leaves the rows as they are. -/
theorem sort_of_null {key : SortKey} (h : ∀ row ∈ rows, Value.field row key.column = .null) :
    sort (some key) rows = .ok rows := by
  refine Sorting.sort_of_pairwise (List.pairwise_of_forall_mem_list fun a ha b hb => ?_)
  rw [compareRows, h b hb, h a ha]
  rfl

/-- No table has a column with the name of the keyword. -/
theorem field_limit {d : Dataset} {name : Text} {row : Row} (h : row ∈ rowsOf d.tables name) :
    Value.field row (Text.of "LIMIT") = .null := by
  obtain ⟨table, htable, hrow⟩ := exists_mem_of_mem_rowsOf h
  simp only [Dataset.tables, List.mem_cons, List.not_mem_nil, or_false] at htable
  rcases htable with rfl | rfl | rfl | rfl <;> obtain ⟨o, -, rfl⟩ := List.mem_map.mp hrow
  · rw [SalesOrder.row, Value.field_of]
    rfl
  · rw [WorkOrder.row, Value.field_of]
    rfl
  · rw [Invoice.row, Value.field_of]
    rfl
  · rw [InventoryItem.row, Value.field_of]
    rfl

/-- A row limit at the end changes neither which rows are kept nor their order. -/
theorem ordered_tail {r n name : Text} (hclosed : Literal.behind none r = none)
    (hn : IsRowCount n) (d : Dataset) (now : Timestamp) :
    ordered (Text.of "SELECT " ++ (r ++ limitTail n)) now (rowsOf d.tables name) =
      ordered (Text.of "SELECT " ++ r) now (rowsOf d.tables name) := by
  rw [ordered, ordered, predicates_tail isFront_select hclosed hn]
  rcases sort?_tail isFront_select hclosed hn with hsame | ⟨hnone, key, hkey, hcolumn⟩
  · rw [hsame]
  -- The sort order takes the keyword for its column, which is missing in every row.
  · cases hkept : filter (predicates (Text.of "SELECT " ++ r)) now (rowsOf d.tables name) with
    | error cause => rfl
    | ok kept =>
      have hnull : ∀ row ∈ kept, Value.field row key.column = .null := fun row hrow =>
        hcolumn ▸ field_limit ((sublist_of_filter hkept).subset hrow)
      show sort (sort? _) kept = sort (sort? _) kept
      rw [hkey, hnone, sort_of_null hnull]
      rfl

theorem ordered_top {spelling : Text × Text} {n : Text} (h : spelling ∈ topSpellings)
    (hn : IsRowCount n) (r : Text) (now : Timestamp) (rows : List Row) :
    ordered (spelling.1 ++ (n ++ spelling.2) ++ r) now rows =
      ordered (Text.of "SELECT " ++ r) now rows := by
  rw [ordered, ordered, (isFront_top h hn).predicates_eq isFront_select,
    (isFront_top h hn).sort?_eq isFront_select]

/-! ## The spellings -/

variable {r n : Text}

theorem execute_top {spelling : Text × Text} (h : spelling ∈ topSpellings)
    (hclosed : Literal.behind none r = none) (hlimit : ¬ HoldsWord "limit" r) (hn : IsRowCount n)
    (d : Dataset) (now : Timestamp) :
    execute d.tables (spelling.1 ++ (n ++ spelling.2) ++ r) now =
      execute d.tables (Text.of "SELECT " ++ (r ++ limitTail n)) now := by
  have htail := rowLimit_tail isFront_select hclosed hlimit hn
  have htop := rowLimit_top h hn (firstMatch_limit? hlimit)
  rw [execute, execute, target_top h hn, target_tail hn]
  cases target (Text.of "SELECT " ++ r) with
  | error fault => rfl
  | ok name =>
    show select _ name _ now = select _ name _ now
    rw [select_eq_cut htop, select_eq_cut htail, ordered_top h hn, ordered_tail hclosed hn]
    rfl

theorem execute_tail (hclosed : Literal.behind none r = none) (hlimit : ¬ HoldsWord "limit" r)
    (hn : IsRowCount n) (hnone : limitText? (Text.of "SELECT " ++ r) = none) (d : Dataset)
    (now : Timestamp) :
    execute d.tables (Text.of "SELECT " ++ (r ++ limitTail n)) now =
      (execute d.tables (Text.of "SELECT " ++ r) now).map (List.take (rowCount n)) := by
  have htail := rowLimit_tail isFront_select hclosed hlimit hn
  rw [execute, execute, target_tail hn]
  cases target (Text.of "SELECT " ++ r) with
  | error fault => rfl
  | ok name =>
    show select _ name _ now = (select _ name _ now).map _
    rw [select_eq_cut htail, select_eq_cut (rowLimit_eq_none hnone), ordered_tail hclosed hn]
    cases ordered (Text.of "SELECT " ++ r) now.asUniversal (rowsOf d.tables name) <;> rfl

/-- Two row limits cut the same rows, each at its own count. -/
theorem execute_tail_of_isRowCount {raw : Text} (hclosed : Literal.behind none r = none)
    (hlimit : ¬ HoldsWord "limit" r) (hn : IsRowCount n)
    (hraw : limitText? (Text.of "SELECT " ++ r) = some raw) (hcount : IsRowCount raw) (d : Dataset)
    (now : Timestamp) :
    (execute d.tables (Text.of "SELECT " ++ (r ++ limitTail n)) now).map
        (List.take (rowCount raw)) =
      (execute d.tables (Text.of "SELECT " ++ r) now).map (List.take (rowCount n)) := by
  have htail := rowLimit_tail isFront_select hclosed hlimit hn
  obtain ⟨form, hform⟩ := exists_rowLimit_eq hraw hcount
  rw [execute, execute, target_tail hn]
  cases target (Text.of "SELECT " ++ r) with
  | error fault => rfl
  | ok name =>
    show (select _ name _ now).map _ = (select _ name _ now).map _
    rw [select_eq_cut htail, select_eq_cut hform, ordered_tail hclosed hn]
    cases ordered (Text.of "SELECT " ++ r) now.asUniversal (rowsOf d.tables name) with
    | error cause => rfl
    | ok rows =>
      show Except.ok (List.take (rowCount raw) (List.take (rowCount n) rows)) =
        Except.ok (List.take (rowCount n) (List.take (rowCount raw) rows))
      rw [List.take_take, List.take_take, Nat.min_comm]

/-- A statement with a value of a row limit that is no row count fails. -/
theorem exists_error_of_not_isRowCount {raw : Text} (hraw : limitText? s = some raw)
    (hbad : ¬ IsRowCount raw) (tables : Tables) (now : Timestamp) :
    ∃ fault, execute tables s now = .error fault := by
  rw [execute]
  cases target s with
  | error fault => exact ⟨fault, rfl⟩
  | ok name =>
    cases hread : rowLimit s with
    | ok limit => exact absurd ⟨raw, hraw, hbad⟩ (exists_rowLimit_iff_not.mp ⟨limit, hread⟩)
    | error cause => exact ⟨.execution name cause, select_of_badLimit hread name _ now⟩

/-- **The three spellings of a row limit come to the same, and to the first of the rows** that the
statement has without it, unless something behind its `SELECT` is taken for a row limit already.  A
row count there cuts the rows as well, and anything else fails. -/
theorem execute_limit_forms {r n : Text} (hclosed : Literal.behind none r = none)
    (hlimit : ¬ HoldsWord "limit" r) (hn : IsRowCount n) (d : Dataset) (now : Timestamp) :
    let s := Text.of "SELECT " ++ r
    let outcome := execute d.tables (s ++ (Text.of " LIMIT " ++ n)) now
    (∀ spelling ∈ topSpellings,
      execute d.tables (spelling.1 ++ (n ++ spelling.2) ++ r) now = outcome) ∧
    ∃ k : Nat, Number.readWhole n = .read k ∧
      (limitText? s = none → outcome = (execute d.tables s now).map (List.take k)) ∧
      (∀ raw, limitText? s = some raw → IsRowCount raw →
        ∃ m : Nat, Number.readWhole raw = .read m ∧
          outcome.map (List.take m) = (execute d.tables s now).map (List.take k)) ∧
      ∀ raw, limitText? s = some raw → ¬ IsRowCount raw →
        ∃ fault, execute d.tables s now = .error fault := by
  intro s outcome
  have houtcome : outcome = execute d.tables (Text.of "SELECT " ++ (r ++ limitTail n)) now := by
    show execute d.tables (Text.of "SELECT " ++ r ++ (Text.of " LIMIT " ++ n)) now = _
    rw [List.append_assoc]
    rfl
  rw [houtcome]
  refine ⟨fun spelling h => execute_top h hclosed hlimit hn d now, rowCount n,
    readWhole_of_isRowCount hn, fun hnone => ?_, fun raw hraw hcount => ?_, fun raw hraw hbad => ?_⟩
  · exact execute_tail hclosed hlimit hn hnone d now
  · exact ⟨rowCount raw, readWhole_of_isRowCount hcount,
      execute_tail_of_isRowCount hclosed hlimit hn hraw hcount d now⟩
  · exact exists_error_of_not_isRowCount hraw hbad d.tables now

/-- A word in a literal is no row limit, and an `ORDER BY` without a column is no order. -/
theorem execute_limit_forms_vendor_like_a_limit :
    let r := Text.of "* FROM invoices WHERE vendor_name = 'LIMIT 3' ORDER BY"
    let s := Text.of "SELECT " ++ r
    Literal.behind none r = none ∧ ¬ HoldsWord "limit" r ∧ IsRowCount (Text.of "2") ∧
      limitText? s = none ∧ ∀ (d : Dataset) (now : Timestamp),
        (∀ spelling ∈ topSpellings,
          execute d.tables (spelling.1 ++ (Text.of "2" ++ spelling.2) ++ r) now =
            execute d.tables (s ++ Text.of " LIMIT 2") now) ∧
        execute d.tables (s ++ Text.of " LIMIT 2") now =
          (execute d.tables s now).map (List.take 2) := by
  intro r s
  have hclosed : Literal.behind none r = none := by decide +kernel
  have hlimit : ¬ HoldsWord "limit" r := by decide +kernel
  have hn : IsRowCount (Text.of "2") := by decide
  have hnone : limitText? s = none := by decide +kernel
  refine ⟨hclosed, hlimit, hn, hnone, fun d now => ?_⟩
  obtain ⟨hforms, k, hk, hprefix, -⟩ := execute_limit_forms hclosed hlimit hn d now
  cases hk
  exact ⟨hforms, hprefix hnone⟩

/-- One unpaid bill. -/
def oneInvoice : Dataset :=
  { Dataset.empty with invoices := [⟨Text.of "1", Text.of "INV-1", Text.of "Acme",
      ⟨⟨2024, 1, 2⟩, 0, 0, 0, 0, none⟩, ⟨⟨2024, 2, 1⟩, 0, 0, 0, 0, none⟩, Text.of "10.00",
      Text.of "pending", none⟩] }

/-- The column `topic` is read as a row limit of `ic`, which fails without a `LIMIT` only. -/
theorem not_prefix_column_like_a_top :
    let r := Text.of "topic FROM invoices"
    let s := Text.of "SELECT " ++ r
    let now : Timestamp := ⟨⟨2024, 6, 15⟩, 0, 0, 0, 0, some 0⟩
    Literal.behind none r = none ∧ ¬ HoldsWord "limit" r ∧ ¬ HoldsWord "top" r ∧
      target s = .ok (Text.of "invoices") ∧ IsRowCount (Text.of "1") ∧ oneInvoice.IsTyped ∧
      now.HasQuarterBehind ∧ (∃ fault, execute oneInvoice.tables s now = .error fault) ∧
      ∃ row, execute oneInvoice.tables (s ++ Text.of " LIMIT 1") now = .ok [row] := by
  intro r s now
  have hclosed : Literal.behind none r = none := by decide +kernel
  have hlimit : ¬ HoldsWord "limit" r := by decide +kernel
  have htop : ¬ HoldsWord "top" r := by decide +kernel
  have hnone : (execute oneInvoice.tables s now).toOption.map (·.length) = none := by
    decide +kernel
  have hone : (execute oneInvoice.tables (s ++ Text.of " LIMIT 1") now).toOption.map (·.length) =
      some 1 := by
    decide +kernel
  have htyped : oneInvoice.IsTyped := by
    refine ⟨?_, ?_, ?_⟩ <;> simp [oneInvoice, Dataset.empty]
  refine ⟨hclosed, hlimit, htop, rfl, by decide, htyped, ⟨by decide, by decide⟩, ?_, ?_⟩
  · cases hrun : execute oneInvoice.tables s now with
    | error fault => exact ⟨fault, rfl⟩
    | ok rows =>
      rw [hrun] at hnone
      cases hnone
  · cases hrun : execute oneInvoice.tables (s ++ Text.of " LIMIT 1") now with
    | error fault =>
      rw [hrun] at hone
      cases hone
    | ok rows =>
      rw [hrun] at hone
      obtain ⟨row, hrow⟩ := List.length_eq_one_iff.mp (Option.some.inj hone)
      exact ⟨row, by rw [hrow]⟩

end Table
end QueryDesk
