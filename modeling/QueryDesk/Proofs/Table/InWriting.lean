import QueryDesk.Proofs.Calendar.IsoText
import QueryDesk.Proofs.Condition.Forms
import QueryDesk.Proofs.Desk.Written
import QueryDesk.Proofs.Sorting.Mapped
import QueryDesk.Proofs.Table.Filter

/-!
# Statements on rows in writing

Where the dates of a table are texts in the standard form, a statement selects the same rows in the
same order as where they are timestamps, or faults in the same way (`Table.execute_inWriting`).  A
condition that asks for an instant reads it off either (`Predicate.holds_inWriting`), none compares
a date as it is, and a sort by a column of dates compares instants (`Table.compareRows_inWriting`).
-/

set_option autoImplicit false

namespace QueryDesk

open Value

/-! ## Rows -/

/-- Says that a value may stand in a field: a timestamp that a clock can show in a field of a date,
and what is no timestamp in any other. -/
inductive Value.Suits (name : Text) : Value → Prop
  | null : Suits name null
  | date {t : Timestamp} (hname : name ∈ Row.dateFields) (ht : t.IsProper) :
    Suits name (timestamp t)
  | other {v : Value} (hname : name ∉ Row.dateFields) (hv : v.inWriting = v) : Suits name v

/-- In writing a value denotes the instant that it does as it is. -/
theorem Value.Suits.instant?_inWriting {name : Text} {v : Value} (h : v.Suits name) :
    v.inWriting.instant? = v.instant? := by
  cases h with
  | null => rfl
  | date hname ht => exact instant?_written ht
  | other hname hv => rw [hv]

theorem Value.Suits.inWriting_eq {name : Text} {v : Value} (h : v.Suits name)
    (hname : name ∉ Row.dateFields) : v.inWriting = v := by
  cases h with
  | null => rfl
  | date hdate => exact absurd hdate hname
  | other _ hv => exact hv

/-- A row whose dates stand in the fields of dates. -/
def Row.IsDated (row : Row) : Prop := ∀ name, (field row name).Suits name

theorem Row.field_inWriting (row : Row) (name : Text) :
    field row.inWriting name = (field row name).inWriting := by
  induction row with
  | nil => rfl
  | cons f row ih =>
    simp only [field, lookup, inWriting, List.map_cons, List.find?_cons] at ih ⊢
    cases f.1 == name
    · exact ih
    · rfl

theorem Row.IsDated.instant?_field {row : Row} (h : row.IsDated) (name : Text) :
    (field row.inWriting name).instant? = (field row name).instant? := by
  rw [field_inWriting]
  exact (h name).instant?_inWriting

theorem Row.IsDated.field_other {row : Row} (h : row.IsDated) {name : Text}
    (hname : name ∉ dateFields) : field row.inWriting name = field row name := by
  rw [field_inWriting]
  exact (h name).inWriting_eq hname

theorem Row.isDated_of {fields : List (String × Value)}
    (h : ∀ f ∈ fields, f.2.Suits (Text.of f.1)) : (Row.of fields).IsDated := by
  intro name
  unfold field lookup
  cases hf : (Row.of fields).find? (·.1 == name) with
  | none => exact .null
  | some f =>
    obtain ⟨g, hg, rfl⟩ := List.mem_map.mp (List.mem_of_find?_eq_some hf)
    have hname : Text.of g.1 = name := by simpa using List.find?_some hf
    exact hname ▸ h g hg

/-! ## Conditions -/

variable {predicates : List Predicate} {now : Timestamp}

/-- Rows in writing meet the conditions that the rows meet. -/
theorem Predicate.holds_inWriting {predicate : Predicate} {row : Row} (h : row.IsDated)
    (hp : ∀ field ∈ predicate.comparedFields, field ∉ Row.dateFields) :
    predicate.holds row.inWriting now = predicate.holds row now := by
  cases predicate with
  | equals name value => rw [holds, holds, h.field_other (hp name (by simp [comparedFields]))]
  | beforeNow name => rw [holds, holds, h.instant?_field]
  | lowStock quantity reorder =>
    rw [holds, holds, h.field_other (hp quantity (by simp [comparedFields])),
      h.field_other (hp reorder (by simp [comparedFields]))]
  | withinMonths name months => rw [holds, holds, h.instant?_field]
  | delayedOrOverdue status schedule =>
    rw [holds, holds, h.field_other (hp status (by simp [comparedFields])), h.instant?_field]
  | unknown given => rfl

theorem Predicate.allHold_inWriting {row : Row} (h : row.IsDated)
    (hp : ∀ p ∈ predicates, ∀ field ∈ p.comparedFields, field ∉ Row.dateFields) :
    allHold now row.inWriting predicates = allHold now row predicates := by
  induction predicates with
  | nil => rfl
  | cons p predicates ih =>
    obtain ⟨hp, hrest⟩ := List.forall_mem_cons.mp hp
    rw [allHold, allHold, holds_inWriting h hp, ih hrest]

namespace Table

theorem filter_inWriting {rows : List Row} (h : ∀ row ∈ rows, row.IsDated)
    (hp : ∀ p ∈ predicates, ∀ field ∈ p.comparedFields, field ∉ Row.dateFields) :
    filter predicates now (rows.map Row.inWriting) =
      (filter predicates now rows).map (List.map Row.inWriting) := by
  induction rows with
  | nil => rfl
  | cons row rows ih =>
    obtain ⟨hrow, hrows⟩ := List.forall_mem_cons.mp h
    rw [List.map_cons, filter, filter, Predicate.allHold_inWriting hrow hp]
    refine Except.bind_eq_map_right fun keep => Except.bind_eq_map (ih hrows) fun kept => ?_
    cases keep <;> rfl

/-! ## Order -/

/-- Timestamps in writing stand to each other as the timestamps do. -/
theorem order_written {s t : Timestamp} (hs : s.IsProper) (ht : t.IsProper) :
    (text s.written).order (text t.written) = (timestamp s).order (timestamp t) := by
  rw [order, order, instant?_written hs, instant?_written ht]
  rfl

/-- Rows in writing stand to each other as the rows do. -/
theorem compareRows_inWriting (key : SortKey) {a b : Row} (ha : a.IsDated) (hb : b.IsDated) :
    compareRows key a.inWriting b.inWriting = compareRows key a b := by
  have hv := ha key.column
  have hw := hb key.column
  rw [compareRows, compareRows, Row.field_inWriting, Row.field_inWriting]
  generalize field a key.column = v at hv
  generalize field b key.column = w at hw
  cases hv with
  | null =>
    cases hw with
    | null | date => rfl
    | other _ hw => rw [hw]; rfl
  | date hname hs =>
    cases hw with
    | null => rfl
    | date _ ht => exact congrArg (· >>= _) (order_written hs ht)
    | other hother => exact absurd hname hother
  | other hname hv =>
    cases hw with
    | null => rw [hv]; rfl
    | date hdate => exact absurd hdate hname
    | other _ hw => rw [hv, hw]

theorem sort_inWriting (key : Option SortKey) {rows : List Row} (h : ∀ row ∈ rows, row.IsDated) :
    sort key (rows.map Row.inWriting) = (sort key rows).map (List.map Row.inWriting) := by
  cases key with
  | none => rfl
  | some key =>
    rw [sort, sort, Sorting.sort_map]
    refine congrArg _ (Sorting.sort_congr fun a ha b hb => ?_)
    rw [compareRows_inWriting key (h a ha) (h b hb)]

theorem cut_map (f : Row → Row) (count : Option Int) (rows : List Row) :
    cut count (rows.map f) = (cut count rows).map f := by
  cases count with
  | none => rfl
  | some count =>
    cases count with
    | ofNat n => exact List.map_take.symm
    | negSucc n =>
      show (rows.map f).take ((rows.map f).length - (n + 1)) = _
      rw [List.length_map]
      exact List.map_take.symm

/-! ## Statements -/

theorem apply_inWriting {plan : Plan} {rows : List Row} (h : ∀ row ∈ rows, row.IsDated)
    (hp : ∀ p ∈ plan.predicates, ∀ field ∈ p.comparedFields, field ∉ Row.dateFields) :
    apply plan now (rows.map Row.inWriting) =
      (apply plan now rows).map (List.map Row.inWriting) := by
  unfold apply
  rw [filter_inWriting h hp]
  cases hkept : filter plan.predicates now rows with
  | error fault => rfl
  | ok kept =>
    have hdated : ∀ row ∈ kept, row.IsDated := fun row hrow =>
      h row ((sublist_of_filter hkept).subset hrow)
    show (sort plan.sort (kept.map Row.inWriting) >>= _) = (sort plan.sort kept >>= _).map _
    exact Except.bind_eq_map (sort_inWriting plan.sort hdated) fun sorted =>
      congrArg Except.ok (cut_map _ _ _)

end Table

/-- The tables with their dates in writing. -/
def Tables.inWriting (tables : Tables) : Tables :=
  tables.map fun table => (table.1, table.2.map Row.inWriting)

namespace Table

theorem rowsOf_inWriting (tables : Tables) (name : Text) :
    rowsOf tables.inWriting name = (rowsOf tables name).map Row.inWriting := by
  induction tables with
  | nil => rfl
  | cons table tables ih =>
    simp only [rowsOf, Tables.inWriting, List.map_cons, List.find?_cons] at ih ⊢
    cases table.1 == name
    · exact ih
    · rfl

/-- Of tables in writing a statement selects the rows that it selects of the tables, in writing. -/
theorem execute_inWriting_of_isDated {tables : Tables}
    (h : ∀ name, ∀ row ∈ rowsOf tables name, row.IsDated) (statement : Text) (now : Timestamp) :
    execute tables.inWriting statement now =
      (execute tables statement now).map (List.map Row.inWriting) := by
  refine Except.bind_eq_map_right fun name => ?_
  rw [select, select, rowsOf_inWriting]
  cases hplan : Statement.plan statement with
  | error fault => rfl
  | ok plan =>
    have hp : ∀ p ∈ plan.predicates, ∀ field ∈ p.comparedFields, field ∉ Row.dateFields := by
      intro p hp
      rw [Statement.predicates_of_plan hplan] at hp
      exact fun field => Statement.notMem_dateFields_of_mem_predicates hp
    rw [Except.ok_bind, Except.ok_bind, apply_inWriting (h name) hp]
    exact Except.mapError_map _ _ _

end Table

/-! ## Datasets -/

/-- A dataset whose amounts are texts, and whose timestamps a clock can show. -/
structure Dataset.IsDated (d : Dataset) : Prop where
  amounts : ∀ o ∈ d.salesOrders, ∃ t, o.totalAmount = .text t
  ordered : ∀ o ∈ d.salesOrders, o.orderDate.IsProper
  scheduled : ∀ w ∈ d.workOrders, ∀ t ∈ w.scheduledDate, t.IsProper
  completed : ∀ w ∈ d.workOrders, ∀ t ∈ w.completionDate, t.IsProper
  invoiced : ∀ i ∈ d.invoices, i.invoiceDate.IsProper
  due : ∀ i ∈ d.invoices, i.dueDate.IsProper

namespace Value

variable {name : Text}

theorem suits_ofText? (hname : name ∉ Row.dateFields) (t : Option Text) :
    (ofText? t).Suits name := by
  cases t with
  | none => exact .null
  | some t => exact .other hname rfl

theorem suits_ofWhole? (hname : name ∉ Row.dateFields) (n : Option Int) :
    (ofWhole? n).Suits name := by
  cases n with
  | none => exact .null
  | some n => exact .other hname rfl

theorem suits_ofTimestamp? (hname : name ∈ Row.dateFields) {t : Option Timestamp}
    (ht : ∀ s ∈ t, s.IsProper) : (ofTimestamp? t).Suits name := by
  cases t with
  | none => exact .null
  | some s => exact .date hname (ht s rfl)

end Value

theorem SalesOrder.isDated_row {o : SalesOrder} {amount : Text} (h : o.totalAmount = .text amount)
    (hdate : o.orderDate.IsProper) : o.row.IsDated := by
  have hamount : o.totalAmount.inWriting = o.totalAmount := by rw [h]; rfl
  refine Row.isDated_of ?_
  simp only [List.forall_mem_cons]
  exact ⟨.other (by decide) rfl, .other (by decide) rfl, .other (by decide) rfl,
    .date (by decide) hdate, .other (by decide) hamount, .other (by decide) rfl,
    suits_ofText? (by decide) _, suits_ofText? (by decide) _, by simp⟩

theorem WorkOrder.isDated_row {w : WorkOrder} (hscheduled : ∀ t ∈ w.scheduledDate, t.IsProper)
    (hcompleted : ∀ t ∈ w.completionDate, t.IsProper) : w.row.IsDated := by
  refine Row.isDated_of ?_
  simp only [List.forall_mem_cons]
  exact ⟨.other (by decide) rfl, .other (by decide) rfl, .other (by decide) rfl,
    suits_ofText? (by decide) _, .other (by decide) rfl, .other (by decide) rfl,
    suits_ofTimestamp? (by decide) hscheduled, suits_ofTimestamp? (by decide) hcompleted,
    suits_ofText? (by decide) _, by simp⟩

theorem Invoice.isDated_row {i : Invoice} (hinvoiced : i.invoiceDate.IsProper)
    (hdue : i.dueDate.IsProper) : i.row.IsDated := by
  refine Row.isDated_of ?_
  simp only [List.forall_mem_cons]
  exact ⟨.other (by decide) rfl, .other (by decide) rfl, .other (by decide) rfl,
    .date (by decide) hinvoiced, .date (by decide) hdue, .other (by decide) rfl,
    .other (by decide) rfl, suits_ofText? (by decide) _, by simp⟩

theorem InventoryItem.isDated_row (i : InventoryItem) : i.row.IsDated := by
  refine Row.isDated_of ?_
  simp only [List.forall_mem_cons]
  exact ⟨.other (by decide) rfl, .other (by decide) rfl, .other (by decide) rfl,
    suits_ofText? (by decide) _, .other (by decide) rfl, .other (by decide) rfl,
    suits_ofWhole? (by decide) _, suits_ofText? (by decide) _, by simp⟩

theorem Dataset.IsDated.isDated_of_mem {d : Dataset} (hd : d.IsDated) {name : Text} {row : Row}
    (h : row ∈ Table.rowsOf d.tables name) : row.IsDated := by
  obtain ⟨table, htable, hrow⟩ := Table.exists_mem_of_mem_rowsOf h
  simp only [Dataset.tables, List.mem_cons, List.not_mem_nil, or_false] at htable
  rcases htable with rfl | rfl | rfl | rfl <;> obtain ⟨o, ho, rfl⟩ := List.mem_map.mp hrow
  · obtain ⟨amount, hamount⟩ := hd.amounts o ho
    exact SalesOrder.isDated_row hamount (hd.ordered o ho)
  · exact WorkOrder.isDated_row (hd.scheduled o ho) (hd.completed o ho)
  · exact Invoice.isDated_row (hd.invoiced o ho) (hd.due o ho)
  · exact o.isDated_row

/-- An invoice that fell due in the last microsecond of a leap day, on a clock whose distance from
universal time has seconds and microseconds, and that was written before on a clock of no known
distance. -/
def leapDayInvoice : Invoice where
  invoiceId := Text.of "I1"
  invoiceNumber := Text.of "INV-1"
  vendorName := Text.of "Vendor"
  invoiceDate := ⟨⟨2024, 1, 31⟩, 8, 0, 0, 0, none⟩
  dueDate := ⟨⟨2024, 2, 29⟩, 23, 59, 59, 999999, some (-18001000001)⟩
  amount := Text.of "12.50"
  status := Text.of "pending"
  paymentTerms := none

end QueryDesk
