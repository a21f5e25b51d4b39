import QueryDesk.Business.Metrics
import QueryDesk.Proofs.Table.Reports

/-!
# Key figures and the rows that they count

Three key figures count records, and a statement can be run that selects the rows of these records.
The two ways of counting agree on every dataset whose timestamps have a known distance from
universal time, down to an invoice that is due at this very instant (`Metrics.of_eq_selected`).  So
key figures fail only where the amounts of completed orders cannot be summed.
-/

set_option autoImplicit false

namespace QueryDesk

open Statement Condition

/-- A dataset whose timestamps have known distances from universal time. -/
structure Dataset.IsAware (d : Dataset) : Prop where
  ordered : ∀ o ∈ d.salesOrders, o.orderDate.ahead.isSome
  scheduled : ∀ w ∈ d.workOrders, ∀ t ∈ w.scheduledDate, t.ahead.isSome
  completed : ∀ w ∈ d.workOrders, ∀ t ∈ w.completionDate, t.ahead.isSome
  invoiced : ∀ i ∈ d.invoices, i.invoiceDate.ahead.isSome
  due : ∀ i ∈ d.invoices, i.dueDate.ahead.isSome

variable {d : Dataset} {now : Timestamp}

/-! ## Statements without a row limit -/

namespace Table

/-- Says that a statement selects so many rows. -/
def Selects (tables : Tables) (statement : Text) (now : Timestamp) (n : Nat) : Prop :=
  ∃ rows, execute tables statement now = .ok rows ∧ rows.length = n

variable {α : Type} {row : α → Row} {xs : List α} {keeps : α → Bool} {tables : Tables}
  {statement table : Text} {key : Option SortKey} {c : Tree}

theorem Asks.selects (h : Asks statement table none c) (hrows : rowsOf tables table = xs.map row)
    (hkeeps : ∀ x ∈ xs, Predicate.allHold now.asUniversal (row x) c.denote = .ok (keeps x)) :
    Selects tables statement now (xs.filter keeps).length :=
  ⟨_, h.execute_eq hrows hkeeps, List.length_map _⟩

/-- A sort by a column of ranks does not change the number of rows. -/
theorem Asks.selects_sorted {column : Text} {descending : Bool} {rank : α → Option Int}
    (h : Asks statement table (some ⟨column, descending⟩) c)
    (hrows : rowsOf tables table = xs.map row)
    (hkeeps : ∀ x ∈ xs, Predicate.allHold now.asUniversal (row x) c.denote = .ok (keeps x))
    (hrank : RankedBy column row rank xs) :
    Selects tables statement now (xs.filter keeps).length := by
  have hkept : IsRanked column ((xs.filter keeps).map row) :=
    hrank.isRanked.of_subset (List.map_subset row (List.filter_subset_self xs))
  have hsort : sort (some ⟨column, descending⟩) ((xs.filter keeps).map row) = _ := hkept.sort_eq
  have hexecute : execute tables statement now = _ := h.execute_eq hrows hkeeps
  rw [hsort] at hexecute
  exact ⟨_, hexecute, by rw [List.length_mergeSort, List.length_map]⟩

end Table

/-! ## Counting records -/

namespace Metrics

theorem count_eq {α : Type} {test : α → Except Fault Bool} {keeps : α → Bool} {xs : List α}
    (h : ∀ x ∈ xs, test x = .ok (keeps x)) : count test xs = .ok (xs.filter keeps).length := by
  induction xs with
  | nil => rfl
  | cons x xs ih =>
    obtain ⟨hx, hxs⟩ := List.forall_mem_cons.mp h
    rw [count, hx, Except.ok_bind, ih hxs, Except.ok_bind, List.filter_cons]
    cases keeps x <;> rfl

theorem isOverdue_eq {i : Invoice} (hdue : i.dueDate.ahead.isSome) (hnow : now.ahead.isSome) :
    isOverdue now i =
      .ok (decide (i.status = Text.of "pending") && decide (i.dueDate.instant < now.instant)) := by
  have hbefore := Timestamp.isBefore_eq hdue hnow
  rw [isOverdue]
  by_cases hstatus : i.status = Text.of "pending"
  · rw [if_pos hstatus, decide_eq_true hstatus, Bool.true_and]
    exact hbefore
  · rw [if_neg hstatus, decide_eq_false hstatus, Bool.false_and]

/-! ## Statements of the figures -/

/-- Pending orders. -/
def pendingStatement : Text := Text.of "SELECT * FROM sales_orders WHERE status = 'pending'"

/-- Work in progress. -/
def activeStatement : Text := Text.of "SELECT * FROM work_orders WHERE status = 'in-progress'"

/-- Pending invoices that are past due. -/
def overdueStatement : Text :=
  Text.of "SELECT * FROM invoices WHERE status = 'pending' AND due_date < NOW()"

/-- The statement on overdue invoices without its row limit. -/
def overdueReport : Text :=
  Text.of ("SELECT * FROM invoices WHERE status = 'pending' AND due_date < CURRENT_TIMESTAMP "
    ++ "ORDER BY due_date ASC")

theorem statement_overdueInvoices :
    Topic.overdueInvoices.statement = overdueReport ++ Text.of " LIMIT 20" := by
  decide +kernel

/-- Records of a status. -/
def ofStatus (content : Content) : Tree := .one (.one (.atom (.equals .status content)))

/-- Records of a status that are past due. -/
def ofStatusDue (content : Content) (present : Present) : Tree :=
  .one (.and (.atom (.equals .status content)) (.one (.atom (.beforeNow .dueDate present))))

/-- A text that can stand between quotes. -/
def contentOf (text : Text) (h : text ≠ [] ∧ ∀ g ∈ text, isPlain g = true) : Content :=
  ⟨text, h.1, h.2⟩

def pendingContent : Content := contentOf (Text.of "pending") (by decide)

def inProgressContent : Content := contentOf (Text.of "in-progress") (by decide)

theorem asks_pendingStatement : Table.Asks pendingStatement (Text.of "sales_orders") none
    (ofStatus pendingContent) := by
  constructor <;> decide +kernel

theorem asks_activeStatement : Table.Asks activeStatement (Text.of "work_orders") none
    (ofStatus inProgressContent) := by
  constructor <;> decide +kernel

theorem asks_overdueStatement : Table.Asks overdueStatement (Text.of "invoices") none
    (ofStatusDue pendingContent .now) := by
  constructor <;> decide +kernel

theorem asks_overdueReport : Table.Asks overdueReport (Text.of "invoices")
    (some ⟨Text.of "dueDate", false⟩) (ofStatusDue pendingContent .currentTimestamp) := by
  constructor <;> decide +kernel

/-! ## Agreement -/

/-- **Key figures count the rows that statements select**, and they fail only where the amounts of
completed orders cannot be summed. -/
theorem of_eq_selected (hd : d.IsAware) (hnow : now.ahead.isSome) :
    Topic.overdueInvoices.statement = overdueReport ++ Text.of " LIMIT 20" ∧
    ∃ pending active overdue : Nat,
      Table.Selects d.tables pendingStatement now pending ∧
      Table.Selects d.tables activeStatement now active ∧
      Table.Selects d.tables overdueStatement now overdue ∧
      Table.Selects d.tables overdueReport now overdue ∧
      Metrics.of d now =
        (total (.finite false 0 0) ((d.salesOrders.filter
          (·.status = Text.of "completed")).map (·.totalAmount))).map fun sum =>
            ⟨sum.toBinary64, pending, active, overdue⟩ := by
  have hstatus : ∀ (content : Content) {row : Row} {status : Text},
      Value.field row (Text.of "status") = .text status →
        Predicate.allHold now.asUniversal row (ofStatus content).denote =
          .ok (decide (status = content.text)) := fun content row status h =>
    (Predicate.allHold_cons (Predicate.holds_equals h _) rfl).trans (by simp)
  have hoverdue : ∀ present, ∀ i ∈ d.invoices, Predicate.allHold now.asUniversal i.row
      (ofStatusDue pendingContent present).denote = .ok (decide (i.status = Text.of "pending") &&
        decide (i.dueDate.instant < now.instant)) := fun present i _ =>
    (Predicate.allHold_cons (Predicate.holds_equals i.field_status _)
      (Predicate.allHold_cons (Predicate.holds_beforeNow i.field_dueDate rfl) rfl)).trans
        (by rw [Bool.and_true]; rfl)
  refine ⟨statement_overdueInvoices, _, _, _,
    asks_pendingStatement.selects rfl fun o _ => hstatus pendingContent o.field_status,
    asks_activeStatement.selects rfl fun w _ => hstatus inProgressContent w.field_status,
    asks_overdueStatement.selects rfl (hoverdue .now),
    asks_overdueReport.selects_sorted rfl (hoverdue .currentTimestamp)
      (.of_timestamps Invoice.field_dueDate _), ?_⟩
  have hcount := count_eq fun i hi => isOverdue_eq (hd.due i hi) hnow
  rw [Metrics.of]
  cases total (.finite false 0 0) ((d.salesOrders.filter
      (·.status = Text.of "completed")).map (·.totalAmount)) with
  | error fault => rfl
  | ok sum =>
    rw [Except.ok_bind, hcount]
    rfl

/-- An invoice that is pending and due at a time. -/
def pendingInvoice (due : Timestamp) : Invoice where
  invoiceId := Text.of "I1"
  invoiceNumber := Text.of "INV-1"
  vendorName := Text.of "Vendor"
  invoiceDate := .midnight ⟨2024, 5, 1⟩
  dueDate := due
  amount := Text.of "12.50"
  status := Text.of "pending"
  paymentTerms := none

/-- A completed order with an amount. -/
def completedOrder (amount : Value) : SalesOrder where
  orderId := Text.of "O1"
  orderNumber := Text.of "SO-1"
  customerName := Text.of "Customer"
  orderDate := .midnight ⟨2024, 5, 1⟩
  totalAmount := amount
  status := Text.of "completed"
  region := none
  salesRep := none

/-- Of two invoices one is due at this very instant, on another clock, and one was due an hour ago:
only the second is counted. -/
theorem of_eq_selected_boundary :
    let d : Dataset := ⟨[completedOrder (.text (Text.of "99.50"))], [],
      [pendingInvoice ⟨⟨2024, 6, 15⟩, 2, 0, 0, 0, some 7200000000⟩,
        pendingInvoice ⟨⟨2024, 6, 15⟩, 1, 0, 0, 0, some 7200000000⟩], []⟩
    let now := Timestamp.midnight ⟨2024, 6, 15⟩
    d.IsAware ∧ now.ahead.isSome ∧ (Metrics.of d now).toOption.map (·.overdueInvoices) = some 1 ∧
      Topic.overdueInvoices.statement = overdueReport ++ Text.of " LIMIT 20" ∧
      ∃ pending active overdue : Nat,
        Table.Selects d.tables pendingStatement now pending ∧
        Table.Selects d.tables activeStatement now active ∧
        Table.Selects d.tables overdueStatement now overdue ∧
        Table.Selects d.tables overdueReport now overdue ∧
        Metrics.of d now =
          (total (.finite false 0 0) ((d.salesOrders.filter
            (·.status = Text.of "completed")).map (·.totalAmount))).map fun sum =>
              ⟨sum.toBinary64, pending, active, overdue⟩ := by
  intro d now
  have hd : d.IsAware := by
    constructor <;> simp [d, pendingInvoice, completedOrder, Timestamp.midnight]
  exact ⟨hd, rfl, by decide +kernel, of_eq_selected hd rfl⟩

theorem of_completedOrder_abc :
    Metrics.of ⟨[completedOrder (.text (Text.of "abc"))], [], [], []⟩ (.midnight ⟨2024, 6, 15⟩) =
      .error (.decimal .malformed) := by
  rfl

/-- There are no key figures where the amount of a completed order is a text that is no decimal. -/
theorem not_exists_of_ok : ¬∀ (d : Dataset) (now : Timestamp), d.IsTyped → d.IsAware →
    now.ahead.isSome → ∃ m, Metrics.of d now = .ok m ∧
      Table.Selects d.tables pendingStatement now m.pendingOrders ∧
      Table.Selects d.tables activeStatement now m.activeWorkOrders ∧
      Table.Selects d.tables overdueStatement now m.overdueInvoices ∧
      Table.Selects d.tables overdueReport now m.overdueInvoices := by
  intro h
  have htyped : Dataset.IsTyped ⟨[completedOrder (.text (Text.of "abc"))], [], [], []⟩ := by
    constructor <;> simp [completedOrder]
  have haware : Dataset.IsAware ⟨[completedOrder (.text (Text.of "abc"))], [], [], []⟩ := by
    constructor <;> simp [completedOrder, Timestamp.midnight]
  obtain ⟨m, hm, -⟩ := h _ (.midnight ⟨2024, 6, 15⟩) htyped haware rfl
  rw [of_completedOrder_abc] at hm
  cases hm

end Metrics

end QueryDesk
