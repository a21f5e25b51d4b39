import QueryDesk.Json.Reader
import QueryDesk.Web.Body

/-!
# Submitted questions

A question is submitted as a JSON object with the field `userQuestion`; `user_question` serves in
its place if that is missing.  The question is a text of one glyph at least.

A submission that says something else is refused, and the refusal quotes what it objects to.  So a
refusal itself fails when it would have to quote what no body can hold.
-/

set_option autoImplicit false

namespace QueryDesk

/-- Why a submission is not taken. -/
inductive Refusal
  /-- The body is too much to read. -/
  | unreadable
  | invalid
  /-- What is invalid cannot even be quoted. -/
  | unquotable
  deriving DecidableEq, Repr

namespace Submission

/-- The refusal that objects to a value. -/
def objection (v : Value) : Refusal :=
  match Body.ofValue v with
  | .ok _ => .invalid
  | .error _ => .unquotable

/-- The names of the field that holds the question, the first choice first. -/
def names : List Text := [Text.of "userQuestion", Text.of "user_question"]

/-- The question in the fields of a submission. -/
def ofFields (fields : Row) : Except Refusal Text :=
  match names.findSome? (Value.lookup fields) with
  | none => .error (objection (.record fields))
  | some (.text t) =>
    if t.isEmpty || t.any Glyph.isLone then .error (objection (.text t)) else .ok t
  | some v => .error (objection v)

/-- The body without a byte order mark. -/
def withoutMark : Text → Text
  | .char '\uFEFF' :: rest => rest
  | t => t

/-- The question in a body. -/
def read (body : Text) : Except Refusal Text :=
  match Json.read (withoutMark body) with
  | .error .malformed => .error .invalid
  | .error (.numeralTooLong _) => .error .unreadable
  | .ok (.record fields) => ofFields fields
  | .ok v => .error (objection v)

end Submission
end QueryDesk
