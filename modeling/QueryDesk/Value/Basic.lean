import QueryDesk.Fault
import QueryDesk.Calendar.Timestamp

/-!
# Values

What a field of a row holds, or a model's answer: one of a few kinds of data, nested to any depth.
A table need not be of one mind about a column, so every operation on values decides by kind and
faults on the pairs of kinds that it does not relate.
-/

set_option autoImplicit false

namespace QueryDesk

/-- A piece of data. -/
inductive Value
  | null
  | flag (b : Bool)
  | whole (n : Int)
  | real (x : Binary64)
  | decimal (d : Decimal)
  | text (t : Text)
  | timestamp (t : Timestamp)
  | date (d : Date)
  | list (items : List Value)
  /-- A list of fixed length. -/
  | tuple (items : List Value)
  /-- Named fields, in order, each name once. -/
  | record (fields : List (Text × Value))
  /-- A thing that is known by its named parts only. -/
  | object (parts : List (Text × Value))
  deriving Repr

instance : Inhabited Value := ⟨.null⟩

/-- A row of a table: its fields, in order. -/
abbrev Row := List (Text × Value)

namespace Value

/-- The name of a kind, as messages about an order give it. -/
def kindName : Value → String
  | null => "NoneType"
  | flag _ => "bool"
  | whole _ => "int"
  | real _ => "float"
  | decimal _ => "decimal.Decimal"
  | text _ => "str"
  | timestamp _ => "datetime.datetime"
  | date _ => "datetime.date"
  | list _ => "list"
  | tuple _ => "tuple"
  | record _ => "dict"
  | object _ => "types.SimpleNamespace"

/-- The name of a kind without the library it belongs to. -/
def shortKindName : Value → String
  | decimal _ => "Decimal"
  | timestamp _ => "datetime"
  | date _ => "date"
  | object _ => "SimpleNamespace"
  | v => v.kindName

/-- Tests that a value counts as given: nulls, zeros and empty things do not. -/
def isGiven : Value → Bool
  | null => false
  | flag b => b
  | whole n => n ≠ 0
  | real (.finite _ significand _) => significand ≠ 0
  | real _ => true
  | decimal (.finite _ coefficient _) => coefficient ≠ 0
  | decimal _ => true
  | text t => !t.isEmpty
  | timestamp _ => true
  | date _ => true
  | list items => !items.isEmpty
  | tuple items => !items.isEmpty
  | record fields => !fields.isEmpty
  | object _ => true

/-- The value itself, if it counts as given. -/
def given? (v : Value) : Option Value := if v.isGiven then some v else none

/-- The value of the first field of a name. -/
def lookup (fields : List (Text × Value)) (name : Text) : Option Value :=
  (fields.find? (·.1 == name)).map (·.2)

/-- The value of a field, null where there is none. -/
def field (fields : List (Text × Value)) (name : Text) : Value := (lookup fields name).getD null

/-- A part of a thing; other values have no parts. -/
def part (v : Value) (name : Text) : Value :=
  match v with
  | object parts => field parts name
  | _ => null

/-- Sets a field: in its old place if there is one, else behind the others. -/
def setField (name : Text) (v : Value) : List (Text × Value) → List (Text × Value)
  | [] => [(name, v)]
  | (n, w) :: rest => if n = name then (n, v) :: rest else (n, w) :: setField name v rest

/-- A record of pairs, the last pair of a name giving the value and the first its place. -/
def recordOf (pairs : List (Text × Value)) : Value :=
  record (pairs.foldl (fun fields p => setField p.1 p.2 fields) [])

/-- The text of a text. -/
def text? : Value → Option Text
  | text t => some t
  | _ => none

end Value

end QueryDesk
