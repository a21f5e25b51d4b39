import QueryDesk.Business.Records
import QueryDesk.Random.Twister

/-!
# Sample data

Makes up a dataset of any size from a seed.  Records of a kind are numbered from one on, and each
draws its parts in a fixed order from one generator, so a seed and the four counts determine the
dataset.  A count that is not positive gives no records.
-/

set_option autoImplicit false

namespace QueryDesk
namespace Sample

/-- Something made up with the help of a generator. -/
abbrev Draw (α : Type) := StateM Twister α

/-! ## Parts -/

/-- A number below a bound. -/
def number (bound : Nat) : Draw Nat := fun t => t.drawBelow bound

/-- A fraction of one. -/
def fraction : Draw Binary64 := fun t =>
  let (n, t) := t.drawFraction
  (.round false n (Nat.pow 2 53), t)

/-- One of several texts. -/
def oneOf (choices : List String) : Draw Text := do
  let n ← number choices.length
  return Text.of (choices.getD n "")

/-- A fraction of a span of days, in microseconds. -/
def days (span : Nat) : Draw Int := do
  let x ← fraction
  let seconds := (((x.mul (.ofNat span)).mul (.ofNat 24)).mul (.ofNat 60)).mul (.ofNat 60)
  return seconds.truncate * 1000000 + ((Binary64.ofNat 1000000).mul seconds.fraction).nearestInt

/-- An amount between two bounds, with two places. -/
def money (least spread : Nat) : Draw Text := do
  let x ← fraction
  return ((x.mul (.ofNat spread)).add (.ofNat least)).fixed 2

/-- Tells heads from tails. -/
def heads : Draw Bool := do
  let x ← fraction
  return (Binary64.round false 1 2).lt x

/-- The first day of the sample. -/
def start : Timestamp := .midnight ⟨2024, 1, 1⟩

/-! ## Choices -/

def customers : List String :=
  ["Acme Corporation", "TechFlow Industries", "Global Solutions Inc", "Summit Enterprises",
    "Pinnacle Systems", "Vertex Group", "Horizon Technologies", "Meridian Corp",
    "Atlas Industries", "Zenith Solutions"]

def salesReps : List String :=
  ["John Smith", "Sarah Johnson", "Mike Davis", "Emily Chen", "Robert Wilson"]

def departments : List String :=
  ["Manufacturing", "Maintenance", "Quality Control", "Production", "Assembly"]

def assignees : List String :=
  ["Team Alpha", "Team Beta", "Team Gamma", "Team Delta", "Team Epsilon"]

def vendors : List String :=
  ["Office Supplies Co", "Industrial Parts Ltd", "Tech Equipment Inc", "Building Materials Corp",
    "Energy Solutions", "Logistics Partners", "Manufacturing Tools Ltd", "Safety Equipment Co",
    "IT Services Inc"]

def paymentTerms : List String := ["Net 30", "Net 60", "Net 90", "Due on Receipt", "2/10 Net 30"]

def categories : List String :=
  ["Raw Materials", "Finished Goods", "Components", "Tools", "Supplies"]

def warehouses : List String :=
  ["Warehouse A", "Warehouse B", "Warehouse C", "Distribution Center"]

def salesStatuses : List String := ["pending", "completed", "cancelled", "processing"]

def regions : List String := ["North", "South", "East", "West"]

def workStatuses : List String :=
  ["pending", "in-progress", "completed", "delayed", "cancelled"]

def priorities : List String := ["low", "medium", "high", "urgent"]

def invoiceStatuses : List String := ["pending", "paid", "overdue", "cancelled"]

/-! ## Records -/

/-- A key with a running number. -/
def key (lead : String) (n : Nat) : Text := Text.of lead ++ Number.digits n

/-- A code with a running number of four digits at least. -/
def code (lead : String) (n : Nat) : Text := Text.of lead ++ Number.paddedDigits 4 n

/-- The sales order of a running number. -/
def salesOrder (n : Nat) : Draw SalesOrder := do
  let customer ← oneOf customers
  let date ← days 365
  let amount ← money 5000 50000
  let status ← oneOf salesStatuses
  let region ← oneOf regions
  let rep ← oneOf salesReps
  return {
    orderId := key "SO-" (1000 + n), orderNumber := code "ORD-2024-" n, customerName := customer
    orderDate := start.later date, totalAmount := .text amount, status
    region := some region, salesRep := some rep }

/-- The work order of a running number. -/
def workOrder (n : Nat) : Draw WorkOrder := do
  let scheduled := start.later (← days 180)
  let isCompleted ← heads
  let completed ← if isCompleted then (do return some (scheduled.later (← days 30))) else pure none
  let area ← oneOf departments
  let assignee ← oneOf assignees
  let status ← oneOf workStatuses
  let priority ← oneOf priorities
  let department ← oneOf departments
  return {
    workOrderId := key "WO-" (2000 + n), workOrderNumber := code "WRK-2024-" n
    description := Text.of "Work order for " ++ area ++ Text.of " operations"
    assignedTo := some assignee, status, priority
    scheduledDate := some scheduled, completionDate := completed, department := some department }

/-- The microseconds of a count of days. -/
def wholeDays (n : Nat) : Int := n * Timestamp.microsPerDay

/-- The invoice of a running number. -/
def invoice (n : Nat) : Draw Invoice := do
  let date := start.later (← days 300)
  let isShort ← heads
  let vendor ← oneOf vendors
  let amount ← money 1000 25000
  let status ← oneOf invoiceStatuses
  let terms ← oneOf paymentTerms
  return {
    invoiceId := key "INV-" (3000 + n), invoiceNumber := code "IV-2024-" n, vendorName := vendor
    invoiceDate := date, dueDate := date.later (wholeDays (if isShort then 30 else 60)), amount
    status, paymentTerms := some terms }

/-- The article of a running number. -/
def inventoryItem (n : Nat) : Draw InventoryItem := do
  let category ← oneOf categories
  let quantity ← number 1000
  let price ← money 10 500
  let reorder ← number 200
  let warehouse ← oneOf warehouses
  return {
    itemId := key "ITM-" (4000 + n), itemCode := code "ITEM-" n
    itemName := key "Inventory Item " n, category := some category, quantityOnHand := quantity
    unitPrice := price, reorderLevel := some (50 + reorder), warehouse := some warehouse }

/-- Records for the running numbers from one up to a count. -/
def several {α : Type} (make : Nat → Draw α) (count : Int) : Draw (List α) :=
  (List.range' 1 count.toNat).mapM make

/-- How many records of each kind to make up. -/
structure Sizes where
  salesOrders : Int := 50
  workOrders : Int := 40
  invoices : Int := 35
  inventoryItems : Int := 30
  deriving DecidableEq, Repr

/-- The records of all kinds. -/
def records (sizes : Sizes) : Draw Dataset := do
  let salesOrders ← several salesOrder sizes.salesOrders
  let workOrders ← several workOrder sizes.workOrders
  let invoices ← several invoice sizes.invoices
  let inventoryItems ← several inventoryItem sizes.inventoryItems
  return ⟨salesOrders, workOrders, invoices, inventoryItems⟩

/-- The dataset of a seed. -/
def dataset (seed : Int) (sizes : Sizes) : Dataset := (records sizes (.ofSeed seed)).1

end Sample
end QueryDesk
