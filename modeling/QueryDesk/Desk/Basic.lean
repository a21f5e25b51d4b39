import QueryDesk.Business.Metrics
import QueryDesk.Journal.Journal
import QueryDesk.Query.Store
import QueryDesk.Table.Execute

/-!
# The desk

The desk is where questions are answered.  It holds the business records, the store of queries, the
clocks, what a model is going to reply, and the journal.  An `Action` is a step at the desk: it may
change the desk and it may fault, and what it changed before a fault stays changed.
-/

set_option autoImplicit false

namespace QueryDesk

/-- What a model replies when it is asked: an answer, or a fault. -/
abbrev Reply := Except Fault Value

/-- Everything that an answer depends on. -/
structure Desk where
  dataset : Dataset
  store : Store
  ids : IdSource
  /-- The clock of the desk; without one the clock on the wall serves. -/
  clock : Option (Supply Timestamp)
  /-- A stopwatch, in seconds. -/
  stopwatch : Supply Binary64
  replies : Supply Reply
  /-- What models and agents were asked so far, the earliest first. -/
  asked : List Value
  journal : Journal

/-- A step at the desk. -/
abbrev Action (α : Type) := ExceptT Fault (StateM Desk) α

namespace Action

variable {α : Type}

/-- A step that cannot change the desk. -/
def ofExcept (result : Except Fault α) : Action α := ExceptT.mk (pure result)

/-- A step of the journal, at the desk. -/
def ofNoting (step : Noting α) : Action α := ExceptT.mk fun desk =>
  let (result, journal) := step.run desk.journal
  (result, { desk with journal })

/-- A step whose fault is handed over as its result. -/
def attempted (step : Action α) : Action (Except Fault α) := ExceptT.mk fun desk =>
  let (result, desk) := step.run desk
  (.ok result, desk)

end Action

namespace Desk

/-! ## Clocks -/

/-- The time on the clock of the desk. -/
def now : Action Timestamp := do
  match (← get).clock with
  | none => Action.ofNoting Journal.wallTime
  | some clock =>
    let (time, clock) := clock.take
    modify fun desk => { desk with clock := some clock }
    return time

/-- The reading of the stopwatch. -/
def seconds : Action Binary64 := do
  let (reading, stopwatch) := (← get).stopwatch.take
  modify fun desk => { desk with stopwatch }
  return reading

/-- A number without its places. -/
def wholePart : Binary64 → Except Fault Int
  | .nan => .error .wholeFromUndefined
  | .infinite _ => .error .wholeFromInfinity
  | x => .ok x.truncate

/-- The milliseconds since a reading of the stopwatch. -/
def millisecondsSince (started : Binary64) : Action Int := do
  let stopped ← seconds
  Action.ofExcept (wholePart ((stopped.sub started).mul (.ofNat 1000)))

/-! ## Queries -/

/-- Opens a query for a question. -/
def create (question : Text) : Action QueryRecord := do
  let time ← now
  let desk ← get
  let (id, ids) := desk.ids.fresh desk.store.ids
  let (record, store) := desk.store.add id question time
  set { desk with ids, store }
  return record

/-- Completes a query. -/
def complete (id : Text) (outcome : Outcome) : Action QueryRecord := do
  let (record, store) ← (← get).store.complete id outcome
  modify fun desk => { desk with store }
  return record

/-- The query with an id. -/
def query (id : Text) : Action QueryRecord := do return ← (← get).store.get id

/-- All queries, the newest first. -/
def history : Action (List QueryRecord) := do return ← (← get).store.history

/-- The newest queries, so many of them. -/
def recent (count : Int) : Action (List QueryRecord) := do return ← (← get).store.recent count

/-! ## Business records -/

/-- The rows of one kind of business record. -/
def rows (name : Text) : Action (List Row) := do return ← (← get).dataset.rows name

/-- The key figures, at a given time or at the time on the clock. -/
def metrics (time : Option Timestamp) : Action Metrics := do
  let time ← match time with
    | some t => pure t
    | none => now
  return ← Metrics.of (← get).dataset time

/-! ## Notes -/

/-- Notes what a model or an agent was asked. -/
def noteAsked (v : Value) : Action Unit :=
  modify fun desk => { desk with asked := desk.asked ++ [v] }

/-- Takes the next reply of a model. -/
def reply : Action Value := do
  let (reply, replies) := (← get).replies.take
  modify fun desk => { desk with replies }
  Action.ofExcept reply

/-- Notes an event in the journal, if there is a sink; a fault of the sink is passed over. -/
def note (sink : Option Sink) (queryId : Text) (event : String) (payload : Row) : Action Unit :=
  match sink with
  | none => pure ()
  | some sink => do
    let _ ← (Action.ofNoting (sink ⟨queryId, Text.of event, payload⟩)).attempted

end Desk
end QueryDesk
