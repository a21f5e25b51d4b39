import QueryDesk.Calendar.IsoText
import QueryDesk.Value.Written

/-!
# Dates and times of YAML

A date is written `YYYY-MM-DD`; with a time of day behind it, month, day and hour may have a single
digit, and the time may be followed by the distance from universal time.
-/

set_option autoImplicit false

namespace QueryDesk
namespace Yaml

/-- The time of day of a form. -/
structure ClockForm where
  hour : Nat
  minute : Nat
  second : Nat
  micro : Nat
  /-- How many minutes the clock is ahead of universal time, if that is given. -/
  ahead : Option Int

/-- The parts of a date, with the time of day if there is one; they need not exist. -/
structure TimeForm where
  year : Nat
  month : Nat
  day : Nat
  clock : Option ClockForm

namespace TimeForm

open Timestamp (takeNumber?)

/-- Takes a number of one or two digits. -/
def takeShort? (t : Text) : Option (Nat × Text) :=
  (takeNumber? 2 t).or (takeNumber? 1 t)

/-- Takes a sign. -/
def takeSign? (signs : List Char) : Text → Option Text
  | g :: rest => if g.isOneOf signs then some rest else none
  | [] => none

/-- The text without spaces and tabs at its front. -/
def dropSpace (t : Text) : Text := t.dropWhile (·.isOneOf [' ', '\t'])

/-- Takes what stands between a date and a time: a letter or space. -/
def takeJoint? (t : Text) : Option Text :=
  (takeSign? ['T', 't'] t).or ((takeSign? [' ', '\t'] t).map dropSpace)

/-- The microseconds that places of a second stand for; those beyond the sixth are dropped. -/
def microseconds (places : Text) : Nat :=
  let digits : Text := (places ++ List.replicate 6 (Glyph.char '0')).take 6
  Number.ofDigitValues (digits.map fun g => g.code - 48)

/-- Takes places of a second, if there are any. -/
def takePlaces (t : Text) : Nat × Text :=
  match takeSign? ['.'] t with
  | none => (0, t)
  | some rest =>
    (microseconds (rest.takeWhile Glyph.isAsciiDigit), rest.dropWhile Glyph.isAsciiDigit)

/-- Reads the minutes of a distance from universal time, up to the end. -/
def readMinutes? : Text → Option Nat
  | [] => some 0
  | t => do
    let (n, rest) ← takeNumber? 2 (← takeSign? [':'] t)
    if rest.isEmpty then some n else none

/-- Reads the distance from universal time, up to the end. -/
def readAhead? (t : Text) : Option (Option Int) :=
  match dropSpace t with
  | [] => some none
  | g :: rest =>
    if g = .char 'Z' then (if rest.isEmpty then some (some 0) else none)
    else if g.isOneOf ['+', '-'] then do
      let (hours, rest) ← takeShort? rest
      let minutes ← readMinutes? rest
      let ahead : Int := hours * 60 + minutes
      some (some (if g = .char '-' then -ahead else ahead))
    else none

/-- Reads a time of day, up to the end. -/
def readClock? (t : Text) : Option ClockForm := do
  let (hour, rest) ← takeShort? (← takeJoint? t)
  let (minute, rest) ← takeNumber? 2 (← takeSign? [':'] rest)
  let (second, rest) ← takeNumber? 2 (← takeSign? [':'] rest)
  let (micro, rest) := takePlaces rest
  let ahead ← readAhead? rest
  some ⟨hour, minute, second, micro, ahead⟩

/-- Reads a date, perhaps with a time of day. -/
def read? (t : Text) : Option TimeForm := do
  let (year, rest) ← takeNumber? 4 t
  let (month, rest) ← takeShort? (← takeSign? ['-'] rest)
  let (day, rest) ← takeShort? (← takeSign? ['-'] rest)
  if rest.isEmpty then some ⟨year, month, day, none⟩
  else
    let clock ← readClock? rest
    some ⟨year, month, day, some clock⟩

/-- Tests for a date or a time without a tag; a date on its own must have all its digits. -/
def looksTime (t : Text) : Bool :=
  match read? t with
  | some form => form.clock.isSome || t.length == 10
  | none => false

/-- Requires a part to lie within bounds. -/
def inBounds (part : String) (least most n : Nat) : Except Fault Unit :=
  if least ≤ n ∧ n ≤ most then .ok () else .error (.timePartOutOfRange part least most)

/-- The day of a form. -/
def date (form : TimeForm) : Except Fault Date := do
  if form.year = 0 then .error (.yearOutOfRange 0)
  else
    inBounds "month" 1 12 form.month
    match Date.ofParts? form.year form.month form.day with
    | some d => .ok d
    | none => .error .dayOutOfRange

/-- The distance from universal time of a form, in microseconds; it is less than a day. -/
def aheadMicros (minutes : Int) : Except Fault Int :=
  let micros := minutes * 60000000
  if minutes.natAbs < 1440 then .ok micros
  else .error (.aheadOutOfRange (Value.shownDistance micros))

/-- The value of a form: a day or a timestamp. -/
def value (form : TimeForm) : Except Fault Value :=
  match form.clock with
  | none => form.date.map .date
  | some clock => do
    let ahead ← clock.ahead.mapM aheadMicros
    let date ← form.date
    inBounds "hour" 0 23 clock.hour
    inBounds "minute" 0 59 clock.minute
    inBounds "second" 0 59 clock.second
    .ok (.timestamp ⟨date, clock.hour, clock.minute, clock.second, clock.micro, ahead⟩)

end TimeForm
end Yaml
end QueryDesk
