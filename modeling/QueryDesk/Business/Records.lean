import QueryDesk.Value.Basic

/-!
# Business records

The four kinds of record that questions are about, and the row of each: its fields by name, in a
fixed order.  A dataset is a list of each kind.
-/

set_option autoImplicit false

namespace QueryDesk

namespace Value

/-- A text that may be missing. -/
def ofText? : Option Text → Value
  | some t => text t
  | none => null

/-- A timestamp that may be missing. -/
def ofTimestamp? : Option Timestamp → Value
  | some t => timestamp t
  | none => null

/-- A whole number that may be missing. -/
def ofWhole? : Option Int → Value
  | some n => whole n
  | none => null

end Value

/-- An order of a customer. -/
structure SalesOrder where
  orderId : Text
  orderNumber : Text
  customerName : Text
  orderDate : Timestamp
  /-- The amount, as a rule a text that spells a decimal. -/
  totalAmount : Value
  status : Text
  region : Option Text
  salesRep : Option Text

/-- Work that is scheduled for a team. -/
structure WorkOrder where
  workOrderId : Text
  workOrderNumber : Text
  description : Text
  assignedTo : Option Text
  status : Text
  priority : Text
  scheduledDate : Option Timestamp
  completionDate : Option Timestamp
  department : Option Text

/-- A bill of a vendor. -/
structure Invoice where
  invoiceId : Text
  invoiceNumber : Text
  vendorName : Text
  invoiceDate : Timestamp
  dueDate : Timestamp
  amount : Text
  status : Text
  paymentTerms : Option Text

/-- An article in stock. -/
structure InventoryItem where
  itemId : Text
  itemCode : Text
  itemName : Text
  category : Option Text
  quantityOnHand : Int
  unitPrice : Text
  reorderLevel : Option Int
  warehouse : Option Text

/-- A row from names and values. -/
def Row.of (fields : List (String × Value)) : Row := fields.map fun f => (Text.of f.1, f.2)

/-- The row of a sales order. -/
def SalesOrder.row (o : SalesOrder) : Row :=
  Row.of [("orderId", .text o.orderId), ("orderNumber", .text o.orderNumber),
    ("customerName", .text o.customerName), ("orderDate", .timestamp o.orderDate),
    ("totalAmount", o.totalAmount), ("status", .text o.status), ("region", .ofText? o.region),
    ("salesRep", .ofText? o.salesRep)]

/-- The row of a work order. -/
def WorkOrder.row (o : WorkOrder) : Row :=
  Row.of [("workOrderId", .text o.workOrderId), ("workOrderNumber", .text o.workOrderNumber),
    ("description", .text o.description), ("assignedTo", .ofText? o.assignedTo),
    ("status", .text o.status), ("priority", .text o.priority),
    ("scheduledDate", .ofTimestamp? o.scheduledDate),
    ("completionDate", .ofTimestamp? o.completionDate), ("department", .ofText? o.department)]

/-- The row of an invoice. -/
def Invoice.row (i : Invoice) : Row :=
  Row.of [("invoiceId", .text i.invoiceId), ("invoiceNumber", .text i.invoiceNumber),
    ("vendorName", .text i.vendorName), ("invoiceDate", .timestamp i.invoiceDate),
    ("dueDate", .timestamp i.dueDate), ("amount", .text i.amount), ("status", .text i.status),
    ("paymentTerms", .ofText? i.paymentTerms)]

/-- The row of an article. -/
def InventoryItem.row (i : InventoryItem) : Row :=
  Row.of [("itemId", .text i.itemId), ("itemCode", .text i.itemCode),
    ("itemName", .text i.itemName), ("category", .ofText? i.category),
    ("quantityOnHand", .whole i.quantityOnHand), ("unitPrice", .text i.unitPrice),
    ("reorderLevel", .ofWhole? i.reorderLevel), ("warehouse", .ofText? i.warehouse)]

/-- The business records of a desk. -/
structure Dataset where
  salesOrders : List SalesOrder
  workOrders : List WorkOrder
  invoices : List Invoice
  inventoryItems : List InventoryItem

namespace Dataset

/-- No records. -/
def empty : Dataset := ⟨[], [], [], []⟩

/-- The rows of all tables by name. -/
def tables (d : Dataset) : List (Text × List Row) :=
  [(Text.of "sales_orders", d.salesOrders.map (·.row)),
    (Text.of "work_orders", d.workOrders.map (·.row)),
    (Text.of "invoices", d.invoices.map (·.row)),
    (Text.of "inventory_items", d.inventoryItems.map (·.row))]

/-- The rows of a table. -/
def rows (d : Dataset) (name : Text) : Except Fault (List Row) :=
  match d.tables.find? (·.1 == name) with
  | some found => .ok found.2
  | none => .error (.unknownCollection name)

end Dataset

end QueryDesk
