import QueryDesk.Business.Records

/-!
# Query templates

Questions that a front end offers to people who do not know what to ask.
-/

set_option autoImplicit false

namespace QueryDesk

/-- A question to offer. -/
structure QueryTemplate where
  id : String
  category : String
  title : String
  description : String
  exampleQuery : String
  icon : String

namespace QueryTemplate

/-- The template as named values. -/
def value (t : QueryTemplate) : Value :=
  .record (Row.of [("id", .text (Text.of t.id)), ("category", .text (Text.of t.category)),
    ("title", .text (Text.of t.title)), ("description", .text (Text.of t.description)),
    ("exampleQuery", .text (Text.of t.exampleQuery)), ("icon", .text (Text.of t.icon))])

/-- The templates on offer. -/
def all : List QueryTemplate :=
  [⟨"sales-last-quarter", "Sales Analytics", "Last Quarter Sales",
      "View sales performance for the previous quarter",
      "What are our sales figures for the last quarter?", "chart"⟩,
    ⟨"delayed-work-orders", "Work Orders", "Delayed Work Orders",
      "Find all work orders that are behind schedule", "Show me all delayed work orders",
      "alert"⟩,
    ⟨"pending-invoices", "Invoice Processing", "Pending Invoices",
      "List all invoices awaiting payment", "Show all pending invoices", "file"⟩,
    ⟨"low-inventory", "Inventory Status", "Low Stock Items", "Items below reorder level",
      "Which inventory items are running low?", "package"⟩,
    ⟨"top-customers", "Sales Analytics", "Top Customers", "Customers with highest order values",
      "Who are our top 5 customers by total sales?", "users"⟩,
    ⟨"overdue-invoices", "Invoice Processing", "Overdue Invoices",
      "Invoices past their due date", "Show overdue invoices", "alert-circle"⟩]

end QueryTemplate

end QueryDesk
