import QueryDesk.Json.Reader
import QueryDesk.Value.Written
import QueryDesk.Query.Generation

/-!
# The answer of a model

An answer is a thing of unknown make.  Its texts are collected from the parts where texts are known
to stand, each text once (`texts`); the first text with a JSON object in it gives the statement.
Objects may stand anywhere in a text, with anything around them (`objects`).

A statement must begin with `SELECT`.  A confidence that is no number, or none between zero and
one, is mended rather than refused.
-/

set_option autoImplicit false

namespace QueryDesk
namespace Answer

/-! ## Texts -/

/-- Adds a text without its outer blanks, unless it is empty or already there. -/
def remember (texts : List Text) (v : Value) : List Text :=
  match v with
  | .text t => if t.trim.isEmpty || texts.contains t.trim then texts else texts ++ [t.trim]
  | _ => texts

/-- The values that may hold the texts of one item of an output. -/
def ofItem (item : Value) : List Value :=
  match item.part (Text.of "content") with
  | .null => []
  | .list blocks => blocks.map fun block => block.part (Text.of "text")
  | .record fields =>
    match (Value.field fields (Text.of "text")).given? with
    | some v => [v]
    | none => [Value.field fields (Text.of "output_text")]
  | content => [content.part (Text.of "text")]

/-- The items of an output. -/
def ofOutput (output : Value) : Except Fault (List Value) :=
  match output.given? with
  | none => .ok []
  | some (.list items) => .ok items
  | some (.tuple items) => .ok items
  | some (.text _) => .ok []
  | some (.record _) => .ok []
  | some v => .error (.notIterable v.kindName)

/-- The values that may hold texts beside the output. -/
def ofPart (v : Value) : List Value :=
  match v with
  | .list values => values
  | .tuple values => values
  | v => [v]

/-- The texts of an answer. -/
def texts (answer : Value) : Except Fault (List Text) := do
  let items ← ofOutput (answer.part (Text.of "output"))
  .ok ((items.flatMap ofItem ++ ofPart (answer.part (Text.of "output_text"))
    ++ ofPart (answer.part (Text.of "text"))).foldl remember [])

/-! ## Objects -/

/-- The text without a fence of backquotes around it. -/
def withoutFence (t : Text) : Text :=
  let fence := Text.of "\x60\x60\x60"
  if fence.isPrefixOf t then
    let inside :=
      if (fence ++ Text.of "\n").isPrefixOf t then t.drop 4
      else if (fence ++ Text.of "json\n").isPrefixOf t then t.drop 8
      else t
    if fence.reverse.isPrefixOf inside.reverse then inside.take (inside.length - 3) else inside
  else t

/-- The objects that stand in a text, from left to right.  A brace that begins no object is
skipped; what is inside an object is not looked at again. -/
def scan (t : Text) : Except Fault (List Row) :=
  match t with
  | [] => .ok []
  | g :: rest =>
    if g = .char '\x7b' then
      match Json.readFront (g :: rest) with
      | .error .malformed => scan rest
      | .error (.numeralTooLong count) => .error (.numeralTooLong count)
      | .ok (v, behind) => do
        let more ← if behind.length < (g :: rest).length then scan behind else scan rest
        match v with
        | .record fields => .ok (fields :: more)
        | _ => .ok more
    else scan rest
termination_by t.length
decreasing_by all_goals (simp only [List.length_cons] at *; omega)

/-- The objects of a text. -/
def objects (t : Text) : Except Fault (List Row) := scan (withoutFence t.trim)

/-- The first object of the first text that has one. -/
def firstObject : List Text → Except Fault Row
  | [] => .ok []
  | t :: rest => do
    match ← objects t with
    | found :: _ => .ok found
    | [] => firstObject rest

/-! ## Statements -/

/-- The confidence in an answer that gives none. -/
def usualConfidence : Binary64 := .round false 7 10

/-- A confidence brought between zero and one. -/
def clamp (x : Binary64) : Binary64 :=
  if !x.isFinite then usualConfidence
  else if x.lt (Binary64.zero false) then Binary64.zero false
  else if (Binary64.ofNat 1).lt x then Binary64.ofNat 1
  else x

/-- The confidence that a value stands for. -/
def confidence : Value → Except Fault Binary64
  | .whole n => (Binary64.ofInt? n).elim (.error .wholeTooLargeForReal) fun x => .ok (clamp x)
  | .real x => .ok (clamp x)
  | .text t => .ok ((Binary64.read? t).elim usualConfidence clamp)
  | _ => .ok usualConfidence

/-- A value in writing; the empty text for one that does not count as given. -/
def writtenIfGiven (v : Value) : Except Fault Text := (v.given?).elim (.ok []) Value.written

/-- The message about an answer without a statement. -/
def noStatement : Text :=
  Text.of "AI processing failed: Generated query must be a SELECT statement"

/-- The interpretation of an answer that gives none. -/
def usualInterpretation : Value := .text (Text.of "Generated SQL query based on your question")

/-- Reads an answer. -/
def read (answer : Value) : Except Fault Generation := do
  let fields ← firstObject (← texts answer)
  let statement := (← writtenIfGiven (Value.field fields (Text.of "sql"))).trim
  if (Text.of "SELECT").isPrefixOf statement.upper then
    let given := (Value.field fields (Text.of "interpretation")).given?
    let interpretation ← (given.getD usualInterpretation).written
    let confidence ← confidence (Value.field fields (Text.of "confidence"))
    .ok ⟨statement, interpretation, confidence, .model⟩
  else .error (.generation noStatement)

end Answer
end QueryDesk
