import QueryDesk.Conversation.Command
import QueryDesk.Desk.Answering
import QueryDesk.Json.Reader

/-!
# Conversations

A person types lines at a prompt and reads the answers.  What is shown is kept as a list of prompts
and lines; what was shown before a fault stays shown.

An answer shows the state of the query, its interpretation and statement if there are any, and then
either the message of a failure or the rows.  Of many rows only the first are shown, and their
number is told.
-/

set_option autoImplicit false

namespace QueryDesk

/-- Something on the screen. -/
inductive Shown
  /-- A prompt; what is typed stands behind it. -/
  | prompt (t : Text)
  | line (t : Text)
  deriving DecidableEq, Repr

namespace Shown

/-- What is on the screen, as one text without what was typed. -/
def screen (shown : List Shown) : Text :=
  shown.flatMap fun
    | prompt t => t
    | line t => t ++ Text.of "\n"

end Shown

/-- A desk and what was shown so far. -/
structure Session where
  desk : Desk
  shown : List Shown

/-- A step of a conversation, which may fault; what was done before the fault stays done. -/
abbrev Talk (α : Type) := ExceptT Fault (StateM Session) α

namespace Talk

variable {α : Type}

/-- A step at the desk, in a conversation. -/
def ofAction (step : Action α) : Talk α := ExceptT.mk fun session =>
  let (result, desk) := step.run session.desk
  (result, { session with desk })

/-- A step whose fault is handed over as its result. -/
def attempted (step : Talk α) : Talk (Except Fault α) := ExceptT.mk fun session =>
  let (result, session) := step.run session
  (.ok result, session)

/-- Shows something. -/
def put (s : Shown) : Talk Unit := modify fun session =>
  { session with shown := session.shown ++ [s] }

/-- Shows a line. -/
def say (t : Text) : Talk Unit := put (.line t)

/-! ## Rows -/

/-- A value as people read it. -/
def valueText : Value → Except Fault Text
  | .null => .ok (Text.of "-")
  | .timestamp t => .ok t.written
  | .date d => .ok d.written
  | v => v.written

/-- A field as people read it. -/
def fieldText (field : Text × Value) : Except Fault Text :=
  (valueText field.2).map fun t => field.1 ++ Text.of "=" ++ t

/-- A row as people read it. -/
def rowText (row : Row) : Except Fault Text :=
  (row.mapM fieldText).map fun fields => Text.of "  - " ++ Text.join (Text.of ", ") fields

/-- Shows the number of rows and the first of them, so many; a negative number leaves out as many at
the end. -/
def showRows (preview : Int) (rows : List Row) : Talk Unit := do
  say (Text.of "Rows: " ++ Number.digits rows.length)
  for row in Table.cut (some preview) rows do
    say (← rowText row)
  let hidden := rows.length - preview
  if 0 < hidden then
    say (Text.of "  ... " ++ Number.signedDigits hidden ++ Text.of " more row(s)")

/-! ## Answers -/

/-- The row of a value. -/
def rowOf? : Value → Option Row
  | .record fields => some fields
  | _ => none

/-- The rows that a query keeps; a text that is no list of rows keeps none. -/
def keptRows (kept : Text) : List Row :=
  match Json.read kept with
  | .ok (.list rows) => rows.filterMap rowOf?
  | _ => []

/-- Shows a line that a label introduces, if there is anything to show. -/
def sayLabelled (label : String) (t : Option Text) : Talk Unit :=
  match t.filter (!·.isEmpty) with
  | some t => say (Text.of label ++ t)
  | none => pure ()

/-- Shows what has become of a query. -/
def showRecord (preview : Int) (r : QueryRecord) : Talk Unit := do
  say (Text.of "[" ++ r.id ++ Text.of "] status: " ++ r.outcome.status)
  sayLabelled "Interpretation: " r.outcome.interpretation?
  sayLabelled "SQL: " r.outcome.statement?
  match r.outcome with
  | .processing => showRows preview []
  | .error message _ _ _ => say (Text.of "Error: " ++ message)
  | .success _ _ kept milliseconds =>
    showRows preview (keptRows kept)
    say (Text.of "Completed in " ++ Number.signedDigits milliseconds ++ Text.of " ms")

/-! ## The conversation -/

/-- What is said at the beginning. -/
def welcome : Text :=
  Text.of ("Ask questions about sales orders, work orders, invoices or inventory."
    ++ " Use '/sql <statement>' to run SQL directly, and '/exit' to leave.")

/-- Runs a statement and shows its rows or what is wrong with it. -/
def runStatement (office : Office) (preview : Int) (statement : Text) : Talk Unit := do
  match ← (ofAction (office.execute statement none)).attempted with
  | .ok rows => showRows preview rows
  | .error fault =>
    if fault.isStatementFault then say (Text.of "Error: " ++ fault.message) else throw fault

/-- Shows the prompt. -/
def ask : Talk Unit := put (.prompt (Text.of "ebs> "))

/-- Answers a line, and tells whether the conversation goes on. -/
def answerLine (office : Office) (preview : Int) (line : Text) : Talk Bool := do
  match Command.read line with
  | .nothing => return true
  | .leave =>
    say (Text.of "Session ended.")
    return false
  | .noStatement =>
    say (Text.of "Usage: /sql <statement>")
    return true
  | .statement statement =>
    runStatement office preview statement
    return true
  | .question question =>
    showRecord preview (← ofAction (office.submit question))
    return true

/-- Ends a conversation for want of lines. -/
def runOut : Talk Unit := say (Text.of "\nSession ended.")

/-- Answers one line after the other until one ends the conversation or there are no more. -/
def answerLines (office : Office) (preview : Int) : List Text → Talk Unit
  | [] => do
    ask
    runOut
  | line :: rest => do
    ask
    if ← answerLine office preview line then answerLines office preview rest

/-- How many rows of an answer are shown if nothing else is said. -/
def usualPreview : Int := 10

/-- A conversation over the lines that a person types. -/
def converse (office : Office) (preview : Int) (lines : List Text) : Talk Unit := do
  say welcome
  answerLines office preview lines

end Talk
end QueryDesk
