import QueryDesk.Desk.Basic
import QueryDesk.Model.Answer
import QueryDesk.Model.Prompt
import QueryDesk.Model.Request

/-!
# Agents

An agent makes a statement of a question.  The main one asks a model; it turns to the rules when
there is no model or when the model's quota is used up, and any other fault of the model becomes a
fault of generation.

Beside it stand agents that look at nothing: one always makes the same statement, one always
faults, and one closes the query behind the desk's back before it asks another agent.
-/

set_option autoImplicit false

namespace QueryDesk

/-- What an agent is asked. -/
structure Inquiry where
  queryId : Text
  question : Text
  /-- Earlier questions with their statements, the newest first. -/
  previous : List (Text × Text)

/-- What makes a statement of a question. -/
abbrev Agent := Inquiry → Action Generation

/-- A way to ask a model. -/
abbrev ModelClient := ModelRequest → Action Value

/-! ## Models -/

namespace ModelClient

/-- Hands a request over as it is. -/
def direct : ModelClient := fun request => do
  Desk.noteAsked request.value
  Desk.reply

/-- Lays a request out for a model of some name. -/
def named (model : Text) : ModelClient := fun request => do
  Desk.noteAsked (.record (← Action.ofExcept (request.payload model)))
  Desk.reply

end ModelClient

/-! ## The main agent -/

namespace Fault

/-- The phrases by which a message tells that a quota is used up. -/
def quotaMarks : List Text := [Text.of "429", Text.of "quota", Text.of "rate limit"]

/-- The name of the kind of faults that tell of a rate limit, whatever their message. -/
def rateLimitKind : Text := Text.of "RateLimitError"

/-- Tests for a fault that tells of a quota that is used up. -/
def isQuota (fault : Fault) : Bool :=
  (match fault with
    | foreign kind _ => kind == rateLimitKind
    | _ => false)
    || quotaMarks.any fun mark => mark.occursIn fault.message.lower

end Fault

namespace Agent

/-- The most tokens that a model may use for an answer. -/
def usualTokens : Int := 2048

/-- Makes a statement by the rules, for a reason. -/
def byRules (sink : Option Sink) (reason : String) : Agent := fun inquiry => do
  let generation := (FallbackRule.choose inquiry.question).generation
  Desk.note sink inquiry.queryId "sql_fallback_used"
    (Row.of [("reason", .text (Text.of reason))] ++ generation.row)
  return generation

/-- Makes a statement by asking a model. -/
def byModel (client : ModelClient) (sink : Option Sink) (tokens : Int) : Agent := fun inquiry => do
  let request : ModelRequest :=
    ⟨Prompt.messages inquiry.question inquiry.previous, some tokens, true⟩
  match ← (client request).attempted with
  | .error fault =>
    if fault.isDemandToStop then throw fault
    else if fault.isQuota then byRules sink "quota" inquiry
    else throw (.generation (Text.of "AI processing failed: " ++ fault.message))
  | .ok answer =>
    let generation ← Action.ofExcept (Answer.read answer)
    Desk.note sink inquiry.queryId "sql_generated" generation.row
    return generation

/-- Makes a statement with a model if there is one, and by the rules otherwise. -/
def main (client : Option ModelClient) (sink : Option Sink) (tokens : Int) : Agent :=
  match client with
  | none => byRules sink "no_client"
  | some client => byModel client sink tokens

/-! ## Agents that look at nothing -/

/-- Always makes the same statement. -/
def constant (generation : Generation) : Agent := fun _ => pure generation

/-- Always faults. -/
def failing (fault : Fault) : Agent := fun _ => throw fault

/-- Closes the query as failed and then asks another agent. -/
def meddling (agent : Agent) : Agent := fun inquiry => do
  let _ ← Desk.complete inquiry.queryId (.error (Text.of "meddled") 0 none none)
  agent inquiry

/-- Notes what it is asked and then asks another agent. -/
def noted (agent : Agent) : Agent := fun inquiry => do
  Desk.noteAsked (.record (Row.of [("query_id", .text inquiry.queryId),
    ("question", .text inquiry.question),
    ("previous", .list (inquiry.previous.map fun p => .list [.text p.1, .text p.2]))]))
  agent inquiry

end Agent
end QueryDesk
