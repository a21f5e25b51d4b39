import QueryDesk.Front
import QueryDesk.Statement.Clause
import QueryDesk.Sorting.Sort
import QueryDesk.Table.Filter

/-!
# Running a statement on tables

A statement must be a `SELECT` and name one of the known tables; where it names several, the first
in the list of tables is meant.  Its plan is applied in a fixed order: filter, sort, cut.

Rows without a value in the column to sort by go last, in either direction.  Anything that goes
wrong while the plan is read or applied is reported as a fault of the table.
-/

set_option autoImplicit false

namespace QueryDesk

/-- Tables by name. -/
abbrev Tables := List (Text × List Row)

namespace Statement

/-- The known tables, in the order in which they are looked for. -/
def tableNames : List Text :=
  [Text.of "sales_orders", Text.of "work_orders", Text.of "invoices", Text.of "inventory_items"]

/-- The table that a statement names. -/
def table (statement : Text) : Except Fault Text :=
  match tableNames.find? fun name => name.occursIn statement.lower with
  | some name => .ok name
  | none => .error (.noTable tableNames)

/-- Tests for a statement that only reads. -/
def isSelect (statement : Text) : Bool := (Text.of "select").isPrefixOf statement.trim.lower

/-- The table that a statement is to be run on. -/
def target (statement : Text) : Except Fault Text :=
  if isSelect statement then table statement else .error .notSelect

end Statement

namespace Table

/-- Where two rows stand to each other in a sort order. -/
def compareRows (sort : SortKey) (a b : Row) : Except Fault Ordering :=
  match Value.field a sort.column, Value.field b sort.column with
  | .null, .null => .ok .eq
  | .null, _ => .ok .gt
  | _, .null => .ok .lt
  | v, w => do
    let o ← v.order w
    .ok (if sort.descending then o.swap else o)

/-- The rows in a sort order. -/
def sort (key : Option SortKey) (rows : List Row) : Except Fault (List Row) :=
  match key with
  | none => .ok rows
  | some key => Sorting.sort (fun a b => (compareRows key a b).map (· == .lt)) rows

/-- The first rows, so many of them; a negative count drops as many at the end. -/
def cut (count : Option Int) (rows : List Row) : List Row :=
  match count with
  | none => rows
  | some count => takeFront count rows

/-- The rows that a plan makes of the rows of a table. -/
def apply (plan : Plan) (now : Timestamp) (rows : List Row) : Except Fault (List Row) := do
  let kept ← filter plan.predicates now rows
  let sorted ← sort plan.sort kept
  .ok (cut (plan.limit.map (·.count)) sorted)

/-- The rows that a statement selects from the rows of the table it names. -/
def select (statement table : Text) (rows : List Row) (now : Timestamp) :
    Except Fault (List Row) :=
  let result := do
    let plan ← Statement.plan statement
    apply plan now.asUniversal rows
  result.mapError (.execution table)

/-- The rows of a table; a table that is missing has none. -/
def rowsOf (tables : Tables) (name : Text) : List Row :=
  ((tables.find? (·.1 == name)).map (·.2)).getD []

/-- The rows that a statement selects at a given time. -/
def execute (tables : Tables) (statement : Text) (now : Timestamp) : Except Fault (List Row) := do
  let name ← Statement.target statement
  select statement name (rowsOf tables name) now

end Table
end QueryDesk
