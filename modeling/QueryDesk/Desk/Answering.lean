import QueryDesk.Desk.Agent

/-!
# Answering questions

A question is answered in two stages: an agent makes a statement, and the statement is run on the
tables.  A fault of generation, or a fault of the statement, closes the query as failed; any other
fault leaves the query open and goes to the caller.  What happens is noted in the journal.

What runs the statements is an executor.  The office has one of its own, and any other may be put in
its place.
-/

set_option autoImplicit false

namespace QueryDesk

/-- What runs statements. -/
abbrev Executor := Text → Action (List Row)

/-- How questions are answered at a desk. -/
structure Office where
  agent : Agent
  sink : Option Sink
  /-- The tables that statements are run on; without them, those of the desk. -/
  tables : Option Tables
  /-- How many of the newest queries may serve as context for a question. -/
  contextQueries : Int
  /-- How many queries count as recent. -/
  recentLimit : Int

namespace Office

/-- How many queries serve as context, and count as recent, if nothing else is said. -/
def usualCount : Int := 5

variable (office : Office)

/-- Runs a statement, at a given time or at the time on the clock when the table is known. -/
def execute (statement : Text) (time : Option Timestamp) : Action (List Row) := do
  let table ← Action.ofExcept (Statement.target statement)
  let time ← match time with
    | some t => pure t
    | none => Desk.now
  let tables := office.tables.getD (← get).dataset.tables
  Action.ofExcept (Table.select statement table (Table.rowsOf tables table) time)

/-- The executor of the office, which runs statements at the time on the clock. -/
def executor : Executor := fun statement => office.execute statement none

/-- Notes an event of a query. -/
def note (id : Text) (event : String) (payload : List (String × Value)) : Action Unit :=
  Desk.note office.sink id event (Row.of payload)

/-- The recent questions that came to a statement, with their statements. -/
def context : Action (List (Text × Text)) := do
  let records ← Desk.recent office.contextQueries
  return records.filterMap fun r =>
    (r.outcome.statement?.filter (!·.isEmpty)).map fun statement => (r.question, statement)

/-- Closes a query for which no statement was made. -/
def failGeneration (id message : Text) (started : Binary64) : Action QueryRecord := do
  office.note id "query_failed"
    [("stage", .text (Text.of "generation")), ("error", .text message)]
  let elapsed ← Desk.millisecondsSince started
  Desk.complete id (.error message elapsed none none)

/-- Closes a query whose statement could not be run. -/
def failExecution (id : Text) (generation : Generation) (fault : Fault) (started : Binary64) :
    Action QueryRecord := do
  let message := Text.of "Failed to execute query: " ++ fault.message
  office.note id "query_failed"
    [("stage", .text (Text.of "execution")), ("sql", .text generation.statement),
      ("error", .text message)]
  let elapsed ← Desk.millisecondsSince started
  Desk.complete id
    (.error message elapsed (some generation.statement) (some generation.interpretation))

/-- How a value without a JSON form is written in a result: an instant or a day in its standard
form, and nothing else. -/
def resultForm : Json.Fallback
  | .timestamp t => .ok t.written
  | .date d => .ok d.written
  | v => .error (.notSerializable v.shortKindName)

/-- Rows as the JSON text that a query keeps. -/
def resultText (rows : List Row) : Except Fault Text :=
  Json.write resultForm (.list (rows.map .record))

/-- Closes a query whose statement was run. -/
def succeed (id : Text) (generation : Generation) (rows : List Row) (started : Binary64) :
    Action QueryRecord := do
  let elapsed ← Desk.millisecondsSince started
  office.note id "query_executed"
    [("sql", .text generation.statement), ("row_count", .whole rows.length),
      ("execution_time_ms", .whole elapsed)]
  let result ← Action.ofExcept (resultText rows)
  Desk.complete id
    (.success generation.statement (some generation.interpretation) result elapsed)

/-- Has an executor run the statement of a query and closes the query. -/
def runWith (executor : Executor) (id : Text) (generation : Generation) (started : Binary64) :
    Action QueryRecord := do
  match ← (executor generation.statement).attempted with
  | .ok rows => office.succeed id generation rows started
  | .error fault =>
    if fault.isStatementFault then office.failExecution id generation fault started
    else throw fault

/-- Answers the question of an open query with the help of an executor. -/
def processWith (executor : Executor) (id question : Text) : Action QueryRecord := do
  let started ← Desk.seconds
  office.note id "question_received" [("question", .text question)]
  let previous ← office.context
  match ← (office.agent ⟨id, question, previous⟩).attempted with
  | .ok generation => office.runWith executor id generation started
  | .error (.generation message) => office.failGeneration id message started
  | .error fault => throw fault

/-- Answers the question of an open query. -/
def process (id question : Text) : Action QueryRecord :=
  office.processWith office.executor id question

/-- Opens a query for a question and answers it. -/
def submit (question : Text) : Action QueryRecord := do
  let record ← Desk.create question
  office.process record.id question

end Office
end QueryDesk
