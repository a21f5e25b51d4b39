import QueryDesk.Journal.Folder
import QueryDesk.Value.Basic

/-!
# Values in bodies

The JSON body of an answer holds nulls, flags, texts and finite numbers.  Decimals, days and
instants become texts (`ofValue`).  An instant is written to the minute of its distance from
universal time, with `Z` for no distance at all.  A lone half of a surrogate pair, a number that is
not finite and a thing of unknown make keep a body from being written.
-/

set_option autoImplicit false

namespace QueryDesk

namespace Timestamp

/-- A distance from universal time in microseconds, in whole seconds; a half goes away from zero. -/
def aheadSeconds (ahead : Int) : Int :=
  if 0 ≤ ahead then (ahead + 500000) / 1000000 else -((500000 - ahead) / 1000000)

/-- A distance from universal time as `+HH:MM`, or `Z` for none; seconds are left out. -/
def shortAheadText (ahead : Int) : Text :=
  let seconds := aheadSeconds ahead
  if seconds = 0 then Text.of "Z"
  else
    let minutes := seconds.natAbs / 60
    (if seconds ≤ -60 then Glyph.char '-' else .char '+')
      :: Number.paddedDigits 2 (minutes / 60) ++ .char ':' :: Number.paddedDigits 2 (minutes % 60)

/-- The timestamp as a body writes it. -/
def shortWritten (t : Timestamp) : Text :=
  { t with ahead := none }.written ++ (t.ahead.map shortAheadText).getD []

end Timestamp

namespace Body

/-- A text that can be written as bytes. -/
def ofText (t : Text) : Except Fault Text :=
  match FileTree.unwritable? t with
  | none => .ok t
  | some fault => .error fault

mutual

/-- The value as a body holds it. -/
def ofValue : Value → Except Fault Value
  | .null => .ok .null
  | .flag b => .ok (.flag b)
  | .whole n => if Number.isTooLong n then .error .wholeTooLong else .ok (.whole n)
  | .real x => if x.isFinite then .ok (.real x) else .error .notFinite
  | .decimal d => .ok (.text d.written)
  | .text t => do .ok (.text (← ofText t))
  | .timestamp t => .ok (.text t.shortWritten)
  | .date d => .ok (.text d.written)
  | .list items => do .ok (.list (← ofItems items))
  | .tuple items => do .ok (.list (← ofItems items))
  | .record fields => do .ok (.record (← ofFields fields))
  | .object parts => .error (.notSerializable (Value.object parts).shortKindName)

/-- The items of a list as a body holds them. -/
def ofItems : List Value → Except Fault (List Value)
  | [] => .ok []
  | v :: vs => do .ok ((← ofValue v) :: (← ofItems vs))

/-- The fields of a record as a body holds them. -/
def ofFields : List (Text × Value) → Except Fault (List (Text × Value))
  | [] => .ok []
  | (name, v) :: fields => do .ok ((← ofText name, ← ofValue v) :: (← ofFields fields))

end

end Body
end QueryDesk
