import QueryDesk.Value.Basic

/-!
# Equality and order of values

Numbers of all kinds are compared by size, whatever their kind; texts, timestamps and days among
themselves; lists item by item, the first difference deciding.  Values of different kinds are
unequal and stand in no order, which is a fault where an order is asked for.
-/

set_option autoImplicit false

namespace QueryDesk
namespace Value

/-! ## Numbers -/

/-- A number of any kind as a decimal of equal size; flags count as one and zero. -/
def size? : Value → Option Decimal
  | flag b => some (.ofInt b.toNat)
  | whole n => some (.ofInt n)
  | real x => some (.exactly x)
  | decimal d => some d
  | _ => none

/-- Tests for a value of the decimal kind. -/
def isDecimal : Value → Bool
  | decimal _ => true
  | _ => false

/-- Tests for a decimal that admits no comparison at all. -/
def isSignalling : Decimal → Bool
  | .nan _ signalling _ => signalling
  | _ => false

/-- Tests that two numbers are of equal size. -/
def sameSize (x y : Decimal) : Except Fault Bool :=
  if isSignalling x || isSignalling y then .error (.decimal .invalid)
  else .ok (x.compare? y == some .eq)

/-- Tests that a number is at most another; what is no number is out of order among decimals and
merely not at most anything otherwise. -/
def sizeAtMost (decimals : Bool) (x y : Decimal) : Except Fault Bool :=
  match x.compare? y with
  | some o => .ok (o != .gt)
  | none => if decimals then .error (.decimal .invalid) else .ok false

/-! ## Equality -/

mutual

/-- Tests two values for equality.  Lists of different lengths differ whatever they hold. -/
def same : Value → Value → Except Fault Bool
  | null, null => .ok true
  | text s, text t => .ok (s == t)
  | timestamp s, timestamp t => .ok (s.compare? t == some .eq)
  | date d, date e => .ok (d == e)
  | list xs, list ys => if xs.length = ys.length then sameItems xs ys else .ok false
  | tuple xs, tuple ys => sameItems xs ys
  | record fs, record gs => if fs.length = gs.length then sameFields fs gs else .ok false
  | object fs, object gs => if fs.length = gs.length then sameFields fs gs else .ok false
  | v, w =>
    match v.size?, w.size? with
    | some x, some y => sameSize x y
    | _, _ => .ok false

/-- Tests two lists for equality, item by item. -/
def sameItems : List Value → List Value → Except Fault Bool
  | [], [] => .ok true
  | v :: vs, w :: ws => do if ← same v w then sameItems vs ws else .ok false
  | _, _ => .ok false

/-- Tests that each field has an equal one of its name among others. -/
def sameFields : List (Text × Value) → List (Text × Value) → Except Fault Bool
  | [], _ => .ok true
  | (name, v) :: rest, others =>
    match lookup others name with
    | none => .ok false
    | some w => do if ← same v w then sameFields rest others else .ok false

end

/-! ## Order -/

mutual

/-- Tests that a value is at most another; of two things their fields are asked, which have no
order. -/
def atMost : Value → Value → Except Fault Bool
  | text s, text t => .ok (compare s t != .gt)
  | timestamp s, timestamp t =>
    match s.compare? t with
    | some o => .ok (o != .gt)
    | none => .error .mixedClocks
  | date d, date e => .ok (d.dayNumber ≤ e.dayNumber)
  | timestamp _, date _ => .error .timestampWithDate
  | date _, timestamp _ => .error .timestampWithDate
  | list xs, list ys => itemsAtMost xs ys
  | tuple xs, tuple ys => itemsAtMost xs ys
  | object xs, object ys => .error (.notOrdered (record xs).kindName (record ys).kindName)
  | v, w =>
    match v.size?, w.size? with
    | some x, some y => sizeAtMost (v.isDecimal || w.isDecimal) x y
    | _, _ => .error (.notOrdered v.kindName w.kindName)

/-- Tests that a list is at most another: the first items that differ decide, else the lengths. -/
def itemsAtMost : List Value → List Value → Except Fault Bool
  | [], _ => .ok true
  | _ :: _, [] => .ok false
  | v :: vs, w :: ws => do if ← same v w then itemsAtMost vs ws else atMost v w

end

end Value
end QueryDesk
