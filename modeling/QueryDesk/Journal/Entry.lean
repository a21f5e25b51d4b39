import QueryDesk.Query.Record

/-!
# Journal entries

What happens to a question is noted in entries: the question was received, a statement was made by
the model or by a rule, the statement was run, or something failed.  An entry in writing is a record
that begins with the event, the id of the query and the time; payload without a value, and payload
under one of these three names, is left out.
-/

set_option autoImplicit false

namespace QueryDesk

/-- A note about a query. -/
structure Entry where
  queryId : Text
  event : Text
  payload : Row

namespace Entry

/-- The events that an entry may note. -/
def events : List Text :=
  [Text.of "question_received", Text.of "sql_generated", Text.of "sql_fallback_used",
    Text.of "query_executed", Text.of "query_failed"]

/-- The names of the fields that an entry begins with. -/
def reserved : List Text := [Text.of "event", Text.of "query_id", Text.of "timestamp"]

/-- Tests that a field of the payload is written. -/
def isKept (field : Text × Value) : Bool :=
  (match field.2 with
    | .null => false
    | _ => true) && !reserved.contains field.1

/-- The fields of an entry, given its time; an event of another kind is a fault. -/
def row (e : Entry) (time : Text) : Except Fault Row :=
  if events.contains e.event then
    .ok (Row.of [("event", .text e.event), ("query_id", .text e.queryId),
      ("timestamp", .text time)] ++ e.payload.filter isKept)
  else .error (.unknownEvent e.event)

end Entry

end QueryDesk
