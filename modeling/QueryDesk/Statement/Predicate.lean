import QueryDesk.Value.Basic
import QueryDesk.Text.Casing

/-!
# Predicates, sort orders and row limits

What a statement may ask of a table.  The conditions on rows come in five forms; each names the
fields that it reads.  A plan is a list of conditions that a row must meet together, a column to
sort by, and a count of rows to keep.

`column` gives the field of a row that a column of a statement stands for.
-/

set_option autoImplicit false

namespace QueryDesk

/-- A condition on a row. -/
inductive Predicate
  /-- The field holds exactly this value. -/
  | equals (field : Text) (value : Value)
  /-- The field holds an instant before the present. -/
  | beforeNow (field : Text)
  /-- The quantity is at or below the level at which to order again. -/
  | lowStock (quantity reorder : Text)
  /-- The field holds an instant no further back than so many months. -/
  | withinMonths (field : Text) (months : Int)
  /-- The status is `delayed`, or work is in progress and past its schedule. -/
  | delayedOrOverdue (status schedule : Text)
  /-- Something that is no condition; no row can be tested for it. -/
  | unknown (given : Value)
  deriving Repr

namespace Predicate

/-- The condition on stock of the fields that hold stock. -/
def stockBelowReorder : Predicate :=
  .lowStock (Text.of "quantityOnHand") (Text.of "reorderLevel")

/-- The condition that an order is no older than a quarter. -/
def orderedLastQuarter : Predicate := .withinMonths (Text.of "orderDate") 3

/-- The condition that a work order is late. -/
def lateWork : Predicate := .delayedOrOverdue (Text.of "status") (Text.of "scheduledDate")

end Predicate

/-- A column to sort by. -/
structure SortKey where
  column : Text
  descending : Bool
  deriving DecidableEq, Repr

/-- The two ways to write a row limit. -/
inductive LimitForm
  | limit
  | top
  deriving DecidableEq, Repr

/-- The keyword of a form. -/
def LimitForm.keyword : LimitForm → Text
  | .limit => Text.of "LIMIT"
  | .top => Text.of "TOP"

/-- A count of rows to keep. -/
structure RowLimit where
  count : Int
  form : LimitForm
  deriving DecidableEq, Repr

/-- What a statement asks of a table. -/
structure Plan where
  predicates : List Predicate
  sort : Option SortKey
  limit : Option RowLimit

namespace Statement

/-- The columns whose fields have another name. -/
def columns : List (String × String) :=
  [("order_id", "orderId"), ("order_number", "orderNumber"), ("customer_name", "customerName"),
    ("order_date", "orderDate"), ("total_amount", "totalAmount"), ("sales_rep", "salesRep"),
    ("work_order_id", "workOrderId"), ("work_order_number", "workOrderNumber"),
    ("assigned_to", "assignedTo"), ("scheduled_date", "scheduledDate"),
    ("completion_date", "completionDate"), ("invoice_id", "invoiceId"),
    ("invoice_number", "invoiceNumber"), ("vendor_name", "vendorName"),
    ("invoice_date", "invoiceDate"), ("due_date", "dueDate"), ("payment_terms", "paymentTerms"),
    ("item_id", "itemId"), ("item_code", "itemCode"), ("item_name", "itemName"),
    ("quantity_on_hand", "quantityOnHand"), ("unit_price", "unitPrice"),
    ("reorder_level", "reorderLevel")]

/-- The field that a column stands for; a column that is not known stands for itself. -/
def column (token : Text) : Text :=
  match columns.find? fun c => Text.of c.1 == token.lower with
  | some (_, field) => Text.of field
  | none => token

end Statement

end QueryDesk
