import QueryDesk.Desk.Answering
import QueryDesk.Query.Template
import QueryDesk.Web.Address
import QueryDesk.Web.Route
import QueryDesk.Web.Submission

/-!
# The web front end

Answers requests at a desk.  A question that is submitted is answered with its open query at once,
and the query is completed behind that answer: whatever goes wrong then closes the query as failed,
unless somebody else has closed it already.  Every fault in front of an answer makes it the answer
500, and what was done before the fault stays done.

Statements are run by an executor, usually that of the office.
-/

set_option autoImplicit false

namespace QueryDesk

/-- A request. -/
structure Request where
  method : Text
  address : Text
  /-- The body; empty if there is none. -/
  body : Text

/-- An answer: its status and its body.  The particulars of a refusal are left open. -/
structure Response where
  status : Nat
  body : Value

namespace Response

/-- An answer as it was asked for. -/
def ok (body : Value) : Response := ⟨200, body⟩

/-- An answer that gives a reason. -/
def because (status : Nat) (detail : Text) : Response :=
  ⟨status, .record (Row.of [("detail", .text detail)])⟩

/-- The answer to a request that met a fault. -/
def failed : Response := ⟨500, .text (Text.of "Internal Server Error")⟩

/-- The answer to a submission that is not taken. -/
def refused : Refusal → Response
  | .unreadable => because 400 (Text.of "There was an error parsing the body")
  | .invalid => ⟨422, .null⟩
  | .unquotable => failed

/-- The answer without its body, for requests that want none. -/
def withoutBody (r : Response) : Response := { r with body := .text [] }

end Response

namespace Server

/-- A query record as a body holds it. -/
def recordValue (r : QueryRecord) : Value := r.valueWith r.createdAt.shortWritten

/-- An answer that holds a value. -/
def present (v : Value) : Action Response := do
  return Response.ok (← Action.ofExcept (Body.ofValue v))

/-- The names under which the collections of business records are asked for. -/
def collections : List (Text × Text) :=
  [(Text.of "sales-orders", Text.of "sales_orders"),
    (Text.of "work-orders", Text.of "work_orders"), (Text.of "invoices", Text.of "invoices"),
    (Text.of "inventory", Text.of "inventory_items")]

/-- Answers with the rows of a collection. -/
def rows (name : Text) : Action Response :=
  match (collections.find? (·.1 == name)).map (·.2) with
  | some table => do
    let rows ← Desk.rows table
    present (.list (rows.map .record))
  | none =>
    return .because 404 (Text.of "Unknown EBS table '" ++ name ++ Text.of "'")

/-- Answers with the query that has an id. -/
def query (id : Text) : Action Response := do
  match ← (Desk.query id).attempted with
  | .ok r => present (recordValue r)
  | .error _ => return .because 404 (Text.of "Query not found")

/-- The message of a query that was given up, when the fault has none. -/
def noMessage : Text := Text.of "Failed to process query"

section

variable (office : Office) (executor : Executor)

/-- Completes a query behind its answer. -/
def finish (id question : Text) : Action Unit := do
  match ← (office.processWith executor id question).attempted with
  | .ok _ => return
  | .error (.alreadyFinished ..) => return
  | .error fault =>
    if fault.isDemandToStop then return
    let message := if fault.message.isEmpty then noMessage else fault.message
    let _ ← (Desk.complete id (.error message 0 none none)).attempted

/-- Answers a submission. -/
def submit (body : Text) : Action Response := do
  match Submission.read body with
  | .error refusal => return .refused refusal
  | .ok question =>
    let r ← Desk.create question
    let response ← present (recordValue r)
    finish office executor r.id question
    return response

/-- Answers with what a route stands for. -/
def follow (body : Text) : Route → Action Response
  | .health => present (.record (Row.of [("status", .text (Text.of "ok"))]))
  | .metrics => do present (← Desk.metrics none).value
  | .templates => present (.list (QueryTemplate.all.map (·.value)))
  | .recent => do present (.list ((← Desk.recent office.recentLimit).map recordValue))
  | .history => do present (.list ((← Desk.history).map recordValue))
  | .query id => query id
  | .submission => submit office executor body
  | .collection name => rows name

end

/-- The path at which a request arrives, after it was sent elsewhere so many times at most. -/
def arrival (path : Text) : Nat → Text
  | 0 => path
  | times + 1 =>
    match Route.elsewhere? path with
    | none => path
    | some other => arrival (Address.path other) times

/-- How often a request may be sent elsewhere. -/
def mostJourneys : Nat := 20

/-- Answers a request that arrives at a path; a fault goes to the caller. -/
def attend (office : Office) (executor : Executor) (method body path : Text) :
    Action Response := do
  let routes := Route.all path
  match routes.find? (·.method == method) with
  | some route => follow office executor body route
  | none =>
    if routes.isEmpty then return .because 404 (Text.of "Not Found")
    else return .because 405 (Text.of "Method Not Allowed")

/-- Answers a request with the help of an executor. -/
def answerWith (office : Office) (executor : Executor) (request : Request) : Action Response := do
  let method := request.method.upper
  let path := arrival (Address.path request.address) mostJourneys
  let response := match ← (attend office executor method request.body path).attempted with
    | .ok response => response
    | .error _ => .failed
  return if method = Text.of "HEAD" then response.withoutBody else response

/-- Answers a request. -/
def answer (office : Office) (request : Request) : Action Response :=
  answerWith office office.executor request

end Server
end QueryDesk
