import QueryDesk.Business.Records

/-!
# The prompt

A language model is told the schema of the tables, up to three earlier questions with their
statements, and the form that its answer should have; the question follows as a message of its own.
-/

set_option autoImplicit false

namespace QueryDesk
namespace Prompt

/-- The tables and how to ask about them. -/
def schema : List String :=
  ["You are an expert SQL generator for Oracle E-Business Suite (EBS) database queries.",
    "",
    "Available Tables and Schemas:",
    "",
    "1. sales_orders",
    "   - order_id (VARCHAR, Primary Key)",
    "   - order_number (VARCHAR)",
    "   - customer_name (TEXT)",
    "   - order_date (TIMESTAMP)",
    "   - total_amount (DECIMAL)",
    "   - status (VARCHAR) - values: 'pending', 'completed', 'cancelled', 'processing'",
    "   - region (VARCHAR) - values: 'North', 'South', 'East', 'West'",
    "   - sales_rep (TEXT)",
    "",
    "2. work_orders",
    "   - work_order_id (VARCHAR, Primary Key)",
    "   - work_order_number (VARCHAR)",
    "   - description (TEXT)",
    "   - assigned_to (TEXT)",
    "   - status (VARCHAR) - values: 'pending', 'in-progress', 'completed', 'delayed', "
      ++ "'cancelled'",
    "   - priority (VARCHAR) - values: 'low', 'medium', 'high', 'urgent'",
    "   - scheduled_date (TIMESTAMP)",
    "   - completion_date (TIMESTAMP, nullable)",
    "   - department (VARCHAR)",
    "",
    "3. invoices",
    "   - invoice_id (VARCHAR, Primary Key)",
    "   - invoice_number (VARCHAR)",
    "   - vendor_name (TEXT)",
    "   - invoice_date (TIMESTAMP)",
    "   - due_date (TIMESTAMP)",
    "   - amount (DECIMAL)",
    "   - status (VARCHAR) - values: 'pending', 'paid', 'overdue', 'cancelled'",
    "   - payment_terms (VARCHAR)",
    "",
    "4. inventory_items",
    "   - item_id (VARCHAR, Primary Key)",
    "   - item_code (VARCHAR)",
    "   - item_name (TEXT)",
    "   - category (VARCHAR)",
    "   - quantity_on_hand (INTEGER)",
    "   - unit_price (DECIMAL)",
    "   - reorder_level (INTEGER)",
    "   - warehouse (VARCHAR)",
    "",
    "Rules:",
    "- Return only SELECT queries (no INSERT, UPDATE, DELETE)",
    "- Use appropriate WHERE clauses for filtering",
    "- Use ORDER BY for sorting results",
    "- Limit results to reasonable numbers (e.g., TOP 10, LIMIT 20)",
    "- For \"last quarter\" use: WHERE order_date >= DATEADD(quarter, -1, GETDATE())",
    "- For \"delayed\" work orders: WHERE status = 'delayed' OR (status = 'in-progress' AND "
      ++ "scheduled_date < GETDATE())",
    "- For \"overdue\" invoices: WHERE status = 'pending' AND due_date < GETDATE()",
    "- For \"low inventory\": WHERE quantity_on_hand <= reorder_level"]

/-- What to do with a question. -/
def task : List String :=
  ["Your task is to:",
    "1. Understand the user's natural language question about Oracle EBS data",
    "2. Generate an accurate SQL query using only the tables and rules above",
    "3. Provide a clear, business-friendly interpretation of what the query does",
    "4. Assess your confidence in the generated query",
    "",
    "Return JSON format:",
    "\x7b",
    "  \"sql\": \"SELECT ... FROM ... WHERE ...\",",
    "  \"interpretation\": \"Clear, business-friendly explanation\",",
    "  \"confidence\": 0.95",
    "\x7d"]

/-- How many earlier questions are quoted. -/
def mostExamples : Nat := 3

/-- The line break between two lines. -/
def lineBreak : Text := Text.of "\n"

/-- The two lines that quote an earlier question. -/
def exampleLines (index : Nat) (past : Text × Text) : List Text :=
  [Number.digits index ++ Text.of ". Question: \"" ++ past.1 ++ Text.of "\"",
    Text.of "   SQL: " ++ past.2]

/-- The earlier questions that are quoted: the first three of those with a statement. -/
def examples (previous : List (Text × Text)) : List (Text × Text) :=
  (previous.filter fun p => !p.2.isEmpty).take mostExamples

/-- The lines that quote earlier questions, if there are any. -/
def contextLines (previous : List (Text × Text)) : List Text :=
  match examples previous with
  | [] => []
  | quoted =>
    [[], Text.of "Recent query patterns for context:"]
      ++ ((quoted.zipIdx 1).map fun p => exampleLines p.2 p.1).flatten

/-- The text of the system message. -/
def instructions (previous : List (Text × Text)) : Text :=
  Text.join lineBreak (schema.map Text.of ++ contextLines previous ++ [[]] ++ task.map Text.of)

/-- A message with a role and a content. -/
def message (role : String) (content : Text) : Row :=
  Row.of [("role", .text (Text.of role)), ("content", .text content)]

/-- The messages for a question. -/
def messages (question : Text) (previous : List (Text × Text)) : List Row :=
  [message "system" (instructions previous), message "user" question]

end Prompt
end QueryDesk
