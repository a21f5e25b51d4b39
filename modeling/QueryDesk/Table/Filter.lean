import QueryDesk.Statement.Predicate
import QueryDesk.Calendar.Months
import QueryDesk.Value.Order
import QueryDesk.Value.Reading

/-!
# Filtering rows

Tests rows for the conditions of a statement.  A field that is absent or null, and a text that is
no instant, never keep a row out of a date or stock condition; only the form for late work orders
wants its date to be known.
-/

set_option autoImplicit false

namespace QueryDesk

/-- Tests that an instant is before another; both must be known. -/
def Timestamp.isBefore (s t : Timestamp) : Except Fault Bool :=
  match s.compare? t with
  | some o => .ok (o == .lt)
  | none => .error .mixedClocks

namespace Predicate

/-- The statuses of work that the form for late work orders looks at. -/
def delayed : Value := .text (Text.of "delayed")
def inProgress : Value := .text (Text.of "in-progress")

/-- Tests a row for a condition at a given time. -/
def holds (predicate : Predicate) (row : Row) (now : Timestamp) : Except Fault Bool :=
  match predicate with
  | equals field value => (Value.field row field).same value
  | beforeNow field =>
    match (Value.field row field).instant? with
    | none => .ok true
    | some t => t.isBefore now
  | lowStock quantity reorder =>
    match Value.field row quantity, Value.field row reorder with
    | .null, _ => .ok true
    | _, .null => .ok true
    | q, r => q.atMost r
  | withinMonths field months =>
    match (Value.field row field).instant? with
    | none => .ok true
    | some t => do
      let earliest ← now.monthsBefore months
      .ok (!(← t.isBefore earliest))
  | delayedOrOverdue status schedule => do
    let state := Value.field row status
    if ← state.same delayed then .ok true
    else if ← state.same inProgress then
      match (Value.field row schedule).instant? with
      | none => .ok false
      | some t => t.isBefore now
    else .ok false
  | unknown given => do .error (.unsupportedPredicate (← given.shown))

/-- Tests a row for all conditions of a list, in order, up to the first that it fails. -/
def allHold (now : Timestamp) (row : Row) : List Predicate → Except Fault Bool
  | [] => .ok true
  | p :: rest => do if ← p.holds row now then allHold now row rest else .ok false

end Predicate

namespace Table

/-- The rows that meet all conditions, in their order. -/
def filter (predicates : List Predicate) (now : Timestamp) : List Row → Except Fault (List Row)
  | [] => .ok []
  | row :: rows => do
    let keep ← Predicate.allHold now row predicates
    let kept ← filter predicates now rows
    .ok (if keep then row :: kept else kept)

end Table
end QueryDesk
