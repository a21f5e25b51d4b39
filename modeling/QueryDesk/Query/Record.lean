import QueryDesk.Business.Records

/-!
# Query records

A query record follows one question from the moment it is asked: it is being processed, and then it
either succeeded, with a statement, an interpretation and rows, or failed, with a message and
whatever was known by then.  What belongs to one outcome only exists in that outcome.
-/

set_option autoImplicit false

namespace QueryDesk

/-- What has become of a question. -/
inductive Outcome
  | processing
  /-- The statement, its interpretation, the rows as JSON and the time it took. -/
  | success (statement : Text) (interpretation : Option Text) (rows : Text) (milliseconds : Int)
  /-- The message, the time it took, and the statement and its interpretation if there were any. -/
  | error (message : Text) (milliseconds : Int) (statement interpretation : Option Text)
  deriving DecidableEq, Repr

namespace Outcome

/-- The name of the state. -/
def status : Outcome → Text
  | processing => Text.of "processing"
  | success .. => Text.of "success"
  | error .. => Text.of "error"

/-- Tests for a question that is not answered yet. -/
def isOpen : Outcome → Bool
  | processing => true
  | _ => false

/-- The statement that was generated. -/
def statement? : Outcome → Option Text
  | processing => none
  | success statement _ _ _ => some statement
  | error _ _ statement _ => statement

/-- The interpretation of the statement. -/
def interpretation? : Outcome → Option Text
  | processing => none
  | success _ interpretation _ _ => interpretation
  | error _ _ _ interpretation => interpretation

/-- The rows as JSON. -/
def rows? : Outcome → Option Text
  | success _ _ rows _ => some rows
  | _ => none

/-- The message of a failure. -/
def message? : Outcome → Option Text
  | error message _ _ _ => some message
  | _ => none

/-- The time that the answer took, in milliseconds. -/
def milliseconds? : Outcome → Option Int
  | processing => none
  | success _ _ _ n => some n
  | error _ n _ _ => some n

end Outcome

/-- One question and what has become of it. -/
structure QueryRecord where
  id : Text
  question : Text
  createdAt : Timestamp
  outcome : Outcome
  deriving DecidableEq, Repr

namespace QueryRecord

/-- The record as named values, with a given form of the time of its creation. -/
def valueWith (created : Text) (r : QueryRecord) : Value :=
  .record (Row.of [("id", .text r.id), ("userQuestion", .text r.question),
    ("generatedSql", .ofText? r.outcome.statement?),
    ("aiInterpretation", .ofText? r.outcome.interpretation?),
    ("resultData", .ofText? r.outcome.rows?), ("status", .text r.outcome.status),
    ("errorMessage", .ofText? r.outcome.message?),
    ("executionTimeMs", .ofWhole? r.outcome.milliseconds?), ("createdAt", .text created)])

/-- The record as named values. -/
def value (r : QueryRecord) : Value := r.valueWith r.createdAt.written

end QueryRecord

end QueryDesk
