import QueryDesk.Business.Records

/-!
# Requests to a model

A request carries all system messages as one text of instructions and the other messages as turns.
`payload` lays out its fields; those that are not asked for are left out.

A model needs its library and a key from the environment before it takes requests.
-/

set_option autoImplicit false

namespace QueryDesk

/-- What a model is asked. -/
structure ModelRequest where
  messages : List Row
  maxOutputTokens : Option Int
  jsonOutput : Bool

namespace ModelRequest

/-- Tests for a message that gives instructions. -/
def isInstruction (message : Row) : Bool :=
  (Value.field message (Text.of "role")).text? == some (Text.of "system")

/-- The content of a message; the empty text if it has none. -/
def content (message : Row) : Value :=
  (Value.lookup message (Text.of "content")).getD (.text [])

/-- A message as a turn of the conversation; without a role it is the user's. -/
def turn (message : Row) : Value :=
  let role := (Value.field message (Text.of "role")).given?.getD (.text (Text.of "user"))
  .record (Row.of [("role", role), ("content", content message)])

/-- Texts with an empty line between them; a value that is no text is a fault. -/
def joinTexts (index : Nat) : List Value → Except Fault (List Text)
  | [] => .ok []
  | .text t :: rest => do
    let ts ← joinTexts (index + 1) rest
    .ok (t :: ts)
  | v :: _ => .error (.notJoinable index v.kindName)

/-- The fields of a request to a model of some name. -/
def payload (model : Text) (r : ModelRequest) : Except Fault Row := do
  let contents := (r.messages.filter isInstruction).map content
  let turns := (r.messages.filter fun m => !isInstruction m).map turn
  let texts ← joinTexts 0 contents
  let instructions :=
    if texts.isEmpty then []
    else [("instructions", Value.text (Text.join (Text.of "\n\n") texts))]
  let tokens := match r.maxOutputTokens with
    | some n => [("max_output_tokens", Value.whole n)]
    | none => []
  let format :=
    if r.jsonOutput then
      [("text", Value.record (Row.of [("format",
        .record (Row.of [("type", .text (Text.of "json_object"))]))]))]
    else []
  .ok (Row.of ([("model", .text model), ("input", .list turns)] ++ instructions ++ tokens
    ++ format))

/-- The request as named values. -/
def value (r : ModelRequest) : Value :=
  .record (Row.of [("messages", .list (r.messages.map .record)),
    ("max_output_tokens", .ofWhole? r.maxOutputTokens), ("json_output", .flag r.jsonOutput)])

end ModelRequest

/-- What stands around the desk: whether the library of the model is there, and what its
environment sets. -/
structure Surroundings where
  hasModelLibrary : Bool
  environment : List (Text × Text)

/-- How to reach a model. -/
structure ModelAccess where
  keyName : Text
  timeout : Option Value

/-- The terms on which a model is reached: its key, and the timeout if there is one. -/
def ModelAccess.connect (a : ModelAccess) (around : Surroundings) : Except Fault Row :=
  if !around.hasModelLibrary then .error .modelLibraryMissing
  else
    match ((around.environment.find? (·.1 == a.keyName)).map (·.2)).filter (!·.isEmpty) with
    | none => .error (.modelKeyMissing a.keyName)
    | some key =>
      .ok (Row.of ([("api_key", .text key)] ++ (a.timeout.map fun t => ("timeout", t)).toList))

end QueryDesk
