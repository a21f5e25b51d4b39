import QueryDesk.Calendar.IsoText
import QueryDesk.Value.Written
import QueryDesk.Text.Casing

/-!
# Values read as instants and as numbers

A column may hold timestamps, days and texts that spell either; all of them denote instants.  In
the same way numbers of all kinds and texts that spell numbers denote decimals.  Two values of a
column are compared as instants if both denote one, else as numbers if both denote one, and else as
texts, without regard to case at first.
-/

set_option autoImplicit false

namespace QueryDesk
namespace Value

/-- Tests that a text begins with a day. -/
def beginsWithDay (t : Text) : Bool :=
  10 ≤ t.length &&
    (List.range 10).all fun i =>
      if i = 4 ∨ i = 7 then Timestamp.standsAt t i '-' else Timestamp.isDigitAt t i

/-- The timestamp that a value denotes, in universal time where nothing else is known. -/
def instant? : Value → Option Timestamp
  | timestamp t => some t.asUniversal
  | date d => some (.midnight d)
  | text t =>
    if beginsWithDay t.trim then (Timestamp.read? t.trim).map Timestamp.asUniversal else none
  | _ => none

/-- A finite decimal. -/
def finite? (d : Decimal) : Option Decimal := if d.isFinite then some d else none

/-- The finite number that a value denotes.  A flag denotes none. -/
def number? : Value → Except Fault (Option Decimal)
  | whole n => if Number.isTooLong n then .error .wholeTooLong else .ok (some (.ofInt n))
  | real x => .ok (finite? (.ofBinary64 x))
  | decimal d => .ok (finite? d)
  | text t =>
    match Decimal.read t with
    | .ok d => .ok (finite? d)
    | .error _ => .ok none
  | _ => .ok none

/-- Where two texts stand to each other: by their folded forms, and by themselves if those are
equal. -/
def compareTexts (s t : Text) : Ordering := (compare s.fold t.fold).then (compare s t)

/-- Where two values stand to each other. -/
def order (v w : Value) : Except Fault Ordering :=
  match v.instant?, w.instant? with
  | some s, some t => .ok (compare s.instant t.instant)
  | _, _ => do
    match ← v.number?, ← w.number? with
    | some x, some y => .ok (x.order y)
    | _, _ => .ok (compareTexts (← v.written) (← w.written))

end Value
end QueryDesk
