import QueryDesk.Proofs.Query.Topics
import QueryDesk.Proofs.Table.Instants

/-!
# The statements of the rules, run on a dataset

The statement of each rule selects from a typed dataset the rows that its topic shows
(`Topic.execute_statement`).  What the statement says is settled in its text alone
(`Topic.plan_statement`); what that comes to is said of the records, by the fields that their rows
give to conditions and to sorts.  A statement of any other text can be run in the same way once it is known
what the text asks for (`Table.Asks.execute_eq`).
-/

set_option autoImplicit false

namespace QueryDesk

open Value Statement Condition

/-! ## Fields of records -/

section Fields

variable (o : SalesOrder) (w : WorkOrder) (i : Invoice) (a : InventoryItem)

theorem SalesOrder.field_orderDate :
    field o.row (Text.of "orderDate") = .timestamp o.orderDate := by
  rw [row, field_of]
  rfl

theorem SalesOrder.field_status : field o.row (Text.of "status") = .text o.status := by
  rw [row, field_of]
  rfl

theorem WorkOrder.field_status : field w.row (Text.of "status") = .text w.status := by
  rw [row, field_of]
  rfl

theorem WorkOrder.field_scheduledDate :
    field w.row (Text.of "scheduledDate") = .ofTimestamp? w.scheduledDate := by
  rw [row, field_of]
  rfl

theorem Invoice.field_status : field i.row (Text.of "status") = .text i.status := by
  rw [row, field_of]
  rfl

theorem Invoice.field_dueDate : field i.row (Text.of "dueDate") = .timestamp i.dueDate := by
  rw [row, field_of]
  rfl

theorem Invoice.field_invoiceDate :
    field i.row (Text.of "invoiceDate") = .timestamp i.invoiceDate := by
  rw [row, field_of]
  rfl

theorem InventoryItem.field_quantityOnHand :
    field a.row (Text.of "quantityOnHand") = .whole a.quantityOnHand := by
  rw [row, field_of]
  rfl

theorem InventoryItem.field_reorderLevel :
    field a.row (Text.of "reorderLevel") = .ofWhole? a.reorderLevel := by
  rw [row, field_of]
  rfl

end Fields

variable {d : Dataset} {now : Timestamp}

/-! ## Conditions on records -/

namespace Predicate

variable {row : Row} {predicate : Predicate} {rest : List Predicate} {b c : Bool}

theorem allHold_cons (hp : predicate.holds row now = .ok b) (hrest : allHold now row rest = .ok c) :
    allHold now row (predicate :: rest) = .ok (b && c) := by
  rw [allHold, hp, Except.ok_bind]
  cases b
  · rfl
  · exact hrest

theorem holds_equals {name : Text} {s : Text} (h : field row name = .text s) (t : Text) :
    (equals name (.text t)).holds row now = .ok (decide (s = t)) := by
  rw [holds, h]
  exact congrArg Except.ok (Bool.beq_eq_decide_eq s t)

theorem holds_beforeNow {name : Text} {t : Timestamp} (h : field row name = .timestamp t)
    (hnow : now.ahead.isSome) :
    (beforeNow name).holds row now = .ok (decide (t.instant < now.instant)) := by
  rw [holds, h]
  exact Timestamp.isBefore_eq rfl hnow

theorem holds_stockBelowReorder {m : Int} {level : Option Int}
    (hquantity : field row (Text.of "quantityOnHand") = .whole m)
    (hlevel : field row (Text.of "reorderLevel") = .ofWhole? level) :
    stockBelowReorder.holds row now = .ok (level.all (m ≤ ·)) := by
  rw [stockBelowReorder, holds, hquantity, hlevel]
  cases level with
  | none => rfl
  | some n => exact atMost_whole m n

end Predicate

/-! ## Statements without a row limit -/

namespace Table

/-- What is known of a statement from its text alone: its table, its sort order and its condition;
it has no row limit. -/
structure Asks (statement table : Text) (key : Option SortKey) (c : Tree) : Prop where
  named : (target statement).toOption = some table
  unlimited : (rowLimit statement).toOption = some none
  ordered : sort? statement = key
  asked : whereText? statement = some c.render

/-- A statement selects the rows of the records that meet its condition, in its order. -/
theorem Asks.execute_eq {α : Type} {row : α → Row} {xs : List α} {keeps : α → Bool}
    {tables : Tables} {statement table : Text} {key : Option SortKey} {c : Tree}
    (h : Asks statement table key c) (hrows : rowsOf tables table = xs.map row)
    (hkeeps : ∀ x ∈ xs, Predicate.allHold now.asUniversal (row x) c.denote = .ok (keeps x)) :
    execute tables statement now =
      (sort key ((xs.filter keeps).map row)).mapError (.execution table) := by
  have hpredicates : predicates statement = c.denote := by
    rw [predicates, h.asked]
    exact c.read_render
  have hplan : plan statement = .ok ⟨c.denote, key, none⟩ := by
    rw [plan, Except.ok_of_toOption h.unlimited, Except.ok_bind, hpredicates, h.ordered]
  rw [execute, Except.ok_of_toOption h.named, Except.ok_bind, select, hplan, Except.ok_bind, hrows,
    apply, filter_map hkeeps, Except.ok_bind]
  cases sort key ((xs.filter keeps).map row) <;> rfl

end Table

/-! ## Topics -/

namespace Topic

/-- What a statement asks of a row on a topic. -/
def predicates (topic : Topic) : List Predicate := topic.condition?.elim [] Conjunction.denote

theorem predicates_statement (topic : Topic) :
    Statement.predicates topic.statement = topic.predicates := by
  obtain ⟨-, -, -, hwhere⟩ := facts_statement topic
  rw [Statement.predicates, hwhere, predicates]
  cases topic.condition? with
  | none => rfl
  | some k => exact k.read_render

theorem plan_statement (topic : Topic) : plan topic.statement =
    .ok ⟨topic.predicates, some topic.sortKey, some ⟨topic.count, .limit⟩⟩ := by
  obtain ⟨-, hlimit, hsort, -⟩ := facts_statement topic
  rw [plan, Except.ok_of_toOption hlimit, Except.ok_bind, predicates_statement, hsort]

/-- What the plan of a topic makes of its table is what the topic shows. -/
theorem apply_rows (hd : d.IsTyped) (now : Timestamp) (topic : Topic) :
    Table.apply ⟨topic.predicates, some topic.sortKey, some ⟨topic.count, .limit⟩⟩ now.asUniversal
      (Table.rowsOf d.tables topic.table) = .ok (topic.rows d now) := by
  have horderDate : Table.RankedBy (Text.of "orderDate") (·.row) _ d.salesOrders :=
    .of_timestamps SalesOrder.field_orderDate _
  have hscheduledDate : Table.RankedBy (Text.of "scheduledDate") (·.row) _ d.workOrders :=
    .of_timestamps? WorkOrder.field_scheduledDate _
  have hdueDate : Table.RankedBy (Text.of "dueDate") (·.row) _ d.invoices :=
    .of_timestamps Invoice.field_dueDate _
  have hinvoiceDate : Table.RankedBy (Text.of "invoiceDate") (·.row) _ d.invoices :=
    .of_timestamps Invoice.field_invoiceDate _
  have hquantity : Table.RankedBy (Text.of "quantityOnHand") (·.row) _ d.inventoryItems :=
    .of_wholes InventoryItem.field_quantityOnHand hd.quantities
  cases topic with
  | pendingSales =>
    refine Table.apply_map (fun o _ => ?_) horderDate _ _ _
    exact (Predicate.allHold_cons (Predicate.holds_equals o.field_status _) rfl).trans (by simp)
  | delayedWork =>
    refine Table.apply_map (fun w _ => ?_) hscheduledDate _ _ _
    exact (Predicate.allHold_cons (Predicate.holds_equals w.field_status _) rfl).trans (by simp)
  | overdueInvoices =>
    refine Table.apply_map (fun i _ => ?_) hdueDate _ _ _
    have hdue : (Predicate.beforeNow (Text.of "dueDate")).holds i.row now.asUniversal =
        .ok (decide (i.dueDate.instant < now.instant)) :=
      Predicate.holds_beforeNow i.field_dueDate rfl
    exact (Predicate.allHold_cons (Predicate.holds_equals i.field_status _)
      (Predicate.allHold_cons hdue rfl)).trans (by simp)
  | lowInventory =>
    refine Table.apply_map (fun i _ => ?_) hquantity _ _ _
    exact (Predicate.allHold_cons (Predicate.holds_stockBelowReorder i.field_quantityOnHand
      i.field_reorderLevel) rfl).trans (by simp)
  | sales | other => exact Table.apply_map_all horderDate _ _ _
  | work => exact Table.apply_map_all hscheduledDate _ _ _
  | invoices => exact Table.apply_map_all hinvoiceDate _ _ _
  | inventory => exact Table.apply_map_all hquantity _ _ _

/-- **The statement of a topic selects what the topic shows.** -/
theorem execute_statement (hd : d.IsTyped) (now : Timestamp) (topic : Topic) :
    Table.execute d.tables topic.statement now = .ok (topic.rows d now) := by
  rw [Table.execute, Except.ok_of_toOption (facts_statement topic).1, Except.ok_bind, Table.select,
    plan_statement, Except.ok_bind, apply_rows hd]
  rfl

/-- What a topic shows are rows of its table. -/
theorem rows_subset (hd : d.IsTyped) (now : Timestamp) (topic : Topic) :
    topic.rows d now ⊆ Table.rowsOf d.tables topic.table :=
  Table.subset_of_apply (apply_rows hd now topic)

end Topic
end QueryDesk
