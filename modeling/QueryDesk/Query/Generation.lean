import QueryDesk.Business.Records
import QueryDesk.Text.Casing

/-!
# Statements from questions

What an agent makes of a question: a statement, an interpretation in words, and how sure the agent
is.  Without a language model the statement comes from a list of rules.  Each rule asks for some
keywords in the question, in any mixture of cases, and the first rule whose keywords all occur is
taken.
-/

set_option autoImplicit false

namespace QueryDesk

/-- Who made a statement. -/
inductive Origin
  | model
  | fallback
  deriving DecidableEq, Repr

/-- The name of an origin. -/
def Origin.name : Origin → Text
  | .model => Text.of "llm"
  | .fallback => Text.of "fallback"

/-- What an agent makes of a question. -/
structure Generation where
  statement : Text
  interpretation : Text
  confidence : Binary64
  origin : Origin

/-- The fields of a generation. -/
def Generation.row (g : Generation) : Row :=
  Row.of [("sql", .text g.statement), ("interpretation", .text g.interpretation),
    ("confidence", .real g.confidence), ("origin", .text g.origin.name)]

/-! ## Rules -/

/-- A statement for questions with certain keywords. -/
structure FallbackRule where
  keywords : List String
  statement : String
  interpretation : String
  /-- The confidence in hundredths. -/
  hundredths : Nat

namespace FallbackRule

/-- Tests that all keywords occur in a question in lower case. -/
def applies (rule : FallbackRule) (lowered : Text) : Bool :=
  rule.keywords.all fun keyword => (Text.of keyword).occursIn lowered

/-- The generation of a rule. -/
def generation (rule : FallbackRule) : Generation :=
  ⟨Text.of rule.statement, Text.of rule.interpretation, .round false rule.hundredths 100,
    .fallback⟩

/-- The rules, in the order in which they are tried. -/
def all : List FallbackRule :=
  [⟨["pending", "sales"],
      "SELECT * FROM sales_orders WHERE status = 'pending' ORDER BY order_date DESC LIMIT 20",
      "Showing all pending sales orders, ordered by date (newest first), limited to 20 results",
      85⟩,
    ⟨["delayed", "work"],
      "SELECT * FROM work_orders WHERE status = 'delayed' ORDER BY scheduled_date ASC LIMIT 20",
      "Showing all delayed work orders, ordered by scheduled date (oldest first), "
        ++ "limited to 20 results",
      85⟩,
    ⟨["overdue", "invoice"],
      "SELECT * FROM invoices WHERE status = 'pending' AND due_date < CURRENT_TIMESTAMP "
        ++ "ORDER BY due_date ASC LIMIT 20",
      "Showing all overdue invoices (pending invoices past their due date), ordered by "
        ++ "due date (oldest first), limited to 20 results",
      85⟩,
    ⟨["low", "inventory"],
      "SELECT * FROM inventory_items WHERE quantity_on_hand <= reorder_level "
        ++ "ORDER BY quantity_on_hand ASC LIMIT 20",
      "Showing all inventory items below reorder level, ordered by quantity (lowest first), "
        ++ "limited to 20 results",
      85⟩,
    ⟨["sales"], "SELECT * FROM sales_orders ORDER BY order_date DESC LIMIT 20",
      "Showing recent sales orders, ordered by date (newest first), limited to 20 results", 70⟩,
    ⟨["work"], "SELECT * FROM work_orders ORDER BY scheduled_date DESC LIMIT 20",
      "Showing recent work orders, ordered by scheduled date (newest first), "
        ++ "limited to 20 results",
      70⟩,
    ⟨["invoice"], "SELECT * FROM invoices ORDER BY invoice_date DESC LIMIT 20",
      "Showing recent invoices, ordered by date (newest first), limited to 20 results", 70⟩,
    ⟨["inventory"], "SELECT * FROM inventory_items ORDER BY quantity_on_hand ASC LIMIT 20",
      "Showing inventory items, ordered by quantity (lowest first), limited to 20 results", 70⟩]

/-- The rule for questions that no other rule is for. -/
def otherwise : FallbackRule :=
  ⟨[], "SELECT * FROM sales_orders ORDER BY order_date DESC LIMIT 10",
    "Showing recent sales orders as a default query", 50⟩

/-- The rule for a question. -/
def choose (question : Text) : FallbackRule :=
  (all.find? fun rule => rule.applies question.lower).getD otherwise

end FallbackRule

end QueryDesk
