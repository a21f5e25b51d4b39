import QueryDesk.Value.Basic

/-!
# Values in writing

Two ways to write a value for people.  `shown` is unambiguous, so texts are quoted; `written`
writes a text as it is and a timestamp with a blank between day and time, and everything inside
lists and records is shown.  A whole number that is too long cannot be written.
-/

set_option autoImplicit false

namespace QueryDesk
namespace Value

/-- A whole number in digits. -/
def writeWhole (n : Int) : Except Fault Text :=
  if Number.isTooLong n then .error .wholeTooLong else .ok (Number.signedDigits n)

/-- A distance between instants, shown by its days, seconds and microseconds. -/
def shownDistance (micros : Int) : Text :=
  let days := micros / Timestamp.microsPerDay
  let rest := (micros % Timestamp.microsPerDay).toNat
  let part (name : String) (n : Int) : List Text :=
    if n = 0 then [] else [Text.of name ++ .char '=' :: Number.signedDigits n]
  let parts := part "days" days ++ part "seconds" (rest / 1000000)
    ++ part "microseconds" ((rest % 1000000 : Nat) : Int)
  Text.of "datetime.timedelta("
    ++ (if parts.isEmpty then Text.of "0" else Text.join (Text.of ", ") parts) ++ Text.of ")"

/-- A timestamp, shown by its parts. -/
def shownTimestamp (t : Timestamp) : Text :=
  let parts := [t.date.year, t.date.month, t.date.day, t.hour, t.minute]
    ++ (if t.second = 0 ∧ t.micro = 0 then [] else [t.second])
    ++ (if t.micro = 0 then [] else [t.micro])
  let zone := match t.ahead with
    | none => []
    | some 0 => [Text.of "tzinfo=datetime.timezone.utc"]
    | some ahead =>
      [Text.of "tzinfo=datetime.timezone(" ++ shownDistance ahead ++ Text.of ")"]
  Text.of "datetime.datetime("
    ++ Text.join (Text.of ", ") (parts.map Number.digits ++ zone) ++ Text.of ")"

/-- A day, shown by its parts. -/
def shownDate (d : Date) : Text :=
  Text.of "datetime.date("
    ++ Text.join (Text.of ", ") ([d.year, d.month, d.day].map Number.digits) ++ Text.of ")"

/-- Parts with commas between them and brackets around. -/
def bracketed (opening closing : String) (parts : List Text) : Text :=
  Text.of opening ++ Text.join (Text.of ", ") parts ++ Text.of closing

mutual

/-- A value, shown without ambiguity. -/
def shown : Value → Except Fault Text
  | null => .ok (Text.of "None")
  | flag b => .ok (Text.of (if b then "True" else "False"))
  | whole n => writeWhole n
  | real x => .ok x.written
  | decimal d => .ok (Text.of "Decimal('" ++ d.written ++ Text.of "')")
  | text t => .ok t.quoted
  | timestamp t => .ok (shownTimestamp t)
  | date d => .ok (shownDate d)
  | list items => (shownItems items).map (bracketed "[" "]")
  | tuple [item] => (shown item).map fun t => bracketed "(" ",)" [t]
  | tuple items => (shownItems items).map (bracketed "(" ")")
  | record fields => (shownFields fields).map (bracketed "\x7b" "\x7d")
  | object parts => (shownParts parts).map (bracketed "namespace(" ")")

/-- The items of a list, shown. -/
def shownItems : List Value → Except Fault (List Text)
  | [] => .ok []
  | item :: rest => do
    let t ← shown item
    let ts ← shownItems rest
    .ok (t :: ts)

/-- The fields of a record, shown. -/
def shownFields : List (Text × Value) → Except Fault (List Text)
  | [] => .ok []
  | (name, v) :: rest => do
    let t ← shown v
    let ts ← shownFields rest
    .ok ((name.quoted ++ Text.of ": " ++ t) :: ts)

/-- The parts of a thing, shown. -/
def shownParts : List (Text × Value) → Except Fault (List Text)
  | [] => .ok []
  | (name, v) :: rest => do
    let t ← shown v
    let ts ← shownParts rest
    .ok ((name ++ .char '=' :: t) :: ts)

end

/-- A value as people see it on its own. -/
def written : Value → Except Fault Text
  | text t => .ok t
  | decimal d => .ok d.written
  | timestamp t => .ok (t.writtenWith ' ')
  | date d => .ok d.written
  | v => v.shown

end Value
end QueryDesk
