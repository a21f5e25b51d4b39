import QueryDesk.Business.Records

/-!
# Key figures

Four figures of a dataset: the sum of all completed sales, and the counts of pending sales orders,
of work orders in progress, and of pending invoices that are past due.  Amounts are summed as
decimals from the first order to the last, and the sum is rounded to a binary number at the end.
-/

set_option autoImplicit false

namespace QueryDesk

/-- The key figures of a dataset. -/
structure Metrics where
  totalSales : Binary64
  pendingOrders : Nat
  activeWorkOrders : Nat
  overdueInvoices : Nat

namespace Metrics

/-- The decimal of an amount. -/
def amount : Value → Except Fault Decimal
  | .text t => (Decimal.read t).mapError .decimal
  | .whole n => .ok (.ofInt n)
  | .flag b => .ok (.ofInt b.toNat)
  | .real x => .ok (.exactly x)
  | .decimal d => .ok d
  | v => .error (.decimalFromKind v.shortKindName)

/-- The sum of amounts, from a decimal on. -/
def total (sum : Decimal) : List Value → Except Fault Decimal
  | [] => .ok sum
  | v :: rest => do
    let d ← amount v
    let sum ← (sum.add d).mapError .decimal
    total sum rest

/-- Counts the items of a list that satisfy a test, which may fault. -/
def count {α : Type} (test : α → Except Fault Bool) : List α → Except Fault Nat
  | [] => .ok 0
  | x :: rest => do
    let counted ← test x
    let n ← count test rest
    .ok (if counted then n + 1 else n)

/-- Tests that an invoice is pending and due before a time. -/
def isOverdue (now : Timestamp) (i : Invoice) : Except Fault Bool :=
  if i.status = Text.of "pending" then
    match i.dueDate.compare? now with
    | some o => .ok (o == .lt)
    | none => .error .mixedClocks
  else .ok false

/-- The key figures at a time. -/
def of (d : Dataset) (now : Timestamp) : Except Fault Metrics := do
  let completed := d.salesOrders.filter (·.status = Text.of "completed")
  let sum ← total (.finite false 0 0) (completed.map (·.totalAmount))
  let overdue ← count (isOverdue now) d.invoices
  .ok {
    totalSales := sum.toBinary64
    pendingOrders := (d.salesOrders.filter (·.status = Text.of "pending")).length
    activeWorkOrders := (d.workOrders.filter (·.status = Text.of "in-progress")).length
    overdueInvoices := overdue }

/-- The key figures as named values. -/
def value (m : Metrics) : Value :=
  .record (Row.of [("totalSales", .real m.totalSales), ("pendingOrders", .whole m.pendingOrders),
    ("activeWorkOrders", .whole m.activeWorkOrders),
    ("overdueInvoices", .whole m.overdueInvoices)])

end Metrics
end QueryDesk
