import QueryDesk.Proofs.Condition.Reading
import QueryDesk.Proofs.Model.Answer
import QueryDesk.Proofs.Table.Failures
import QueryDesk.Proofs.Table.Ranked

/-!
# What the rules show

Each rule is for a topic (`Topic`), and what it shows of a dataset can be said without a statement
(`Topic.rows`): which records are kept, the key that they are ordered by, and how many are shown.
-/

set_option autoImplicit false

/-! ## Statements of the rules

A question without a model is answered by one of a few rules (`FallbackRule.choose_mem`).  What
holds for the statements of all rules is checked rule by rule: they begin with `SELECT` in upper and
in lower case, and each has a confidence between zero and one.
-/

namespace QueryDesk

open Statement

namespace FallbackRule

/-- All rules, the one for questions that no other rule is for among them. -/
def rules : List FallbackRule := otherwise :: all

/-- The rule for a question is one of the rules. -/
theorem choose_mem (question : Text) : choose question ∈ rules := by
  rw [choose]
  cases hfind : all.find? fun rule => rule.applies question.lower with
  | none => exact List.mem_cons_self
  | some rule => exact List.mem_cons_of_mem _ (List.mem_of_find?_eq_some hfind)

theorem facts_of_mem_rules : ∀ rule ∈ rules, BeginsWithSelect rule.generation.statement ∧
    Text.of "SELECT" <+: rule.generation.statement.upper ∧ rule.generation.confidence.IsShare := by
  decide +kernel

variable (question : Text)

theorem beginsWithSelect_choose : BeginsWithSelect (choose question).generation.statement :=
  (facts_of_mem_rules _ (choose_mem question)).1

theorem prefix_upper_choose : Text.of "SELECT" <+: (choose question).generation.statement.upper :=
  (facts_of_mem_rules _ (choose_mem question)).2.1

theorem isShare_choose : (choose question).generation.confidence.IsShare :=
  (facts_of_mem_rules _ (choose_mem question)).2.2

end FallbackRule
end QueryDesk

namespace QueryDesk

open Statement Condition

/-- What a question may be about. -/
inductive Topic
  | pendingSales
  | delayedWork
  | overdueInvoices
  | lowInventory
  | sales
  | work
  | invoices
  | inventory
  /-- Anything else. -/
  | other
  deriving DecidableEq

namespace Topic

/-! ## Topics of questions -/

/-- The topics, in the order in which a question is tried for them. -/
def ordered : List Topic :=
  [pendingSales, delayedWork, overdueInvoices, lowInventory, sales, work, invoices, inventory]

/-- The words that a question on a topic holds. -/
def keywords : Topic → List String
  | pendingSales => ["pending", "sales"]
  | delayedWork => ["delayed", "work"]
  | overdueInvoices => ["overdue", "invoice"]
  | lowInventory => ["low", "inventory"]
  | sales => ["sales"]
  | work => ["work"]
  | invoices => ["invoice"]
  | inventory => ["inventory"]
  | other => []

/-- The topic of a question: the first one all of whose words occur in it, in any mixture of
cases. -/
def of (question : Text) : Topic :=
  (ordered.find? fun topic =>
    topic.keywords.all fun word => (Text.of word).occursIn question.lower).getD other

/-! ## Rows of topics -/

/-- How many records are shown on a topic. -/
def count : Topic → Nat
  | other => 10
  | _ => 20

/-- The rows of a dataset that are shown on a topic at a time. -/
def rows (d : Dataset) (now : Timestamp) (topic : Topic) : List Row :=
  match topic with
  | pendingSales =>
    (Table.arranged true (fun o => some o.orderDate.instant) topic.count
      (d.salesOrders.filter fun o => o.status = Text.of "pending")).map (·.row)
  | delayedWork =>
    (Table.arranged false (fun w => w.scheduledDate.map (·.instant)) topic.count
      (d.workOrders.filter fun w => w.status = Text.of "delayed")).map (·.row)
  | overdueInvoices =>
    (Table.arranged false (fun i => some i.dueDate.instant) topic.count
      (d.invoices.filter fun i =>
        i.status = Text.of "pending" ∧ i.dueDate.instant < now.instant)).map (·.row)
  | lowInventory =>
    (Table.arranged false (fun i => some i.quantityOnHand) topic.count
      (d.inventoryItems.filter fun i => i.reorderLevel.all (i.quantityOnHand ≤ ·))).map (·.row)
  | sales | other =>
    (Table.arranged true (fun o => some o.orderDate.instant) topic.count d.salesOrders).map (·.row)
  | work =>
    (Table.arranged true (fun w => w.scheduledDate.map (·.instant)) topic.count
      d.workOrders).map (·.row)
  | invoices =>
    (Table.arranged true (fun i => some i.invoiceDate.instant) topic.count d.invoices).map (·.row)
  | inventory =>
    (Table.arranged false (fun i => some i.quantityOnHand) topic.count
      d.inventoryItems).map (·.row)

/-! ## Statements of topics -/

/-- The rule for a topic. -/
def rule : Topic → FallbackRule
  | pendingSales => FallbackRule.all[0]
  | delayedWork => FallbackRule.all[1]
  | overdueInvoices => FallbackRule.all[2]
  | lowInventory => FallbackRule.all[3]
  | sales => FallbackRule.all[4]
  | work => FallbackRule.all[5]
  | invoices => FallbackRule.all[6]
  | inventory => FallbackRule.all[7]
  | other => FallbackRule.otherwise

theorem keywords_rule (topic : Topic) : topic.rule.keywords = topic.keywords := by
  cases topic <;> rfl

/-- The rule for a question is the one for its topic. -/
theorem choose_eq (question : Text) : FallbackRule.choose question = (of question).rule := by
  have hall : FallbackRule.all = ordered.map rule := rfl
  have happlies : ((fun r : FallbackRule => r.applies question.lower) ∘ rule) = fun topic =>
      topic.keywords.all fun word => (Text.of word).occursIn question.lower := by
    funext topic
    rw [Function.comp_apply, FallbackRule.applies, keywords_rule]
  rw [FallbackRule.choose, hall, List.find?_map, happlies, of]
  cases ordered.find? _ <;> rfl

/-- The table that is asked on a topic. -/
def table : Topic → Text
  | pendingSales | sales | other => Text.of "sales_orders"
  | delayedWork | work => Text.of "work_orders"
  | overdueInvoices | invoices => Text.of "invoices"
  | lowInventory | inventory => Text.of "inventory_items"

/-- What is asked of a row on a topic. -/
def condition? : Topic → Option Conjunction
  | pendingSales => some (.one (.atom (.equals .status ⟨Text.of "pending", by decide, by decide⟩)))
  | delayedWork => some (.one (.atom (.equals .status ⟨Text.of "delayed", by decide, by decide⟩)))
  | overdueInvoices =>
    some (.and (.atom (.equals .status ⟨Text.of "pending", by decide, by decide⟩))
      (.one (.atom (.beforeNow .dueDate .currentTimestamp))))
  | lowInventory => some (.one (.atom .lowStock))
  | _ => none

/-- The order of rows on a topic. -/
def sortKey : Topic → SortKey
  | pendingSales | sales | other => ⟨Text.of "orderDate", true⟩
  | delayedWork => ⟨Text.of "scheduledDate", false⟩
  | overdueInvoices => ⟨Text.of "dueDate", false⟩
  | lowInventory | inventory => ⟨Text.of "quantityOnHand", false⟩
  | work => ⟨Text.of "scheduledDate", true⟩
  | invoices => ⟨Text.of "invoiceDate", true⟩

/-- The statement of a topic. -/
def statement (topic : Topic) : Text := Text.of topic.rule.statement

theorem facts_statement (topic : Topic) :
    (target topic.statement).toOption = some topic.table ∧
      (rowLimit topic.statement).toOption = some (some ⟨topic.count, .limit⟩) ∧
      sort? topic.statement = some topic.sortKey ∧
      whereText? topic.statement = topic.condition?.map Conjunction.render := by
  cases topic <;> decide +kernel

end Topic
end QueryDesk
