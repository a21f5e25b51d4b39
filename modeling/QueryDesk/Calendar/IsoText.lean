import QueryDesk.Calendar.Timestamp

/-!
# Timestamps from text

Reads the forms of ISO 8601 with four-digit years: `YYYY-MM-DD`, `YYYYMMDD` and the week forms for
the day, then any one sign, then the time with or without colons, then the distance from universal
time.  The day must exist, the time must be below 24:00, and the distance below 24 hours.

A few forms beyond the standard are admitted too, because the reader works from left to right and
looks at a sign only when it needs it.  Digits of a fraction beyond the sixth are dropped, a
fraction may follow the minutes, and one sign that is not needed may stand before the distance.
-/

set_option autoImplicit false

namespace QueryDesk
namespace Timestamp

/-- The ASCII digit at the front of a text. -/
def takeDigit? : Text → Option (Nat × Text)
  | .char c :: rest => if c.isDigit then some (c.toNat - 48, rest) else none
  | _ => none

/-- Takes exactly so many ASCII digits from the front of a text. -/
def takeNumber? : Nat → Text → Option (Nat × Text)
  | 0, t => some (0, t)
  | count + 1, t => do
    let (d, rest) ← takeDigit? t
    let (n, rest) ← takeNumber? count rest
    some (d * Nat.pow 10 count + n, rest)

/-- Tests that the glyph at an index is an ASCII digit. -/
def isDigitAt (t : Text) (i : Nat) : Bool := t[i]?.any Glyph.isAsciiDigit

/-- Tests that a character stands at an index. -/
def standsAt (t : Text) (i : Nat) (c : Char) : Bool := t[i]? == some (.char c)

/-! ## The day -/

/-- How many glyphs belong to the day.  The fifth and sixth glyph tell the forms apart; a week
without dashes is followed by an even number of digits of the time. -/
def dayLength (t : Text) : Nat :=
  if t.length = 7 then 7
  else if standsAt t 4 '-' then
    if standsAt t 5 'W' then
      if standsAt t 8 '-' then (if isDigitAt t 10 then 8 else 10) else 8
    else 10
  else if standsAt t 4 'W' then
    let stop := 7 + ((t.drop 7).takeWhile Glyph.isAsciiDigit).length
    if stop < 9 then stop else if stop % 2 = 0 then 7 else 8
  else 8

/-- Steps over a dash, when dashes are in use. -/
def dash? (dashes : Bool) (t : Text) : Option Text :=
  if dashes then
    match t with
    | .char '-' :: rest => some rest
    | _ => none
  else some t

/-- Reads the day. -/
def readDay? (t : Text) : Option Date := do
  let (year, rest) ← takeNumber? 4 t
  let (dashes, rest) := match rest with
    | .char '-' :: more => (true, more)
    | _ => (false, rest)
  match rest with
  | .char 'W' :: rest =>
    let (week, rest) ← takeNumber? 2 rest
    if rest.isEmpty then Date.ofWeek? year week 1
    else
      let rest ← dash? dashes rest
      let (day, _) ← takeNumber? 1 rest
      Date.ofWeek? year week day
  | _ =>
    let (month, rest) ← takeNumber? 2 rest
    let rest ← dash? dashes rest
    let (day, _) ← takeNumber? 2 rest
    Date.ofParts? year month day

/-! ## The time -/

/-- A time of day or a distance, and whether something was left over behind it. -/
structure ClockReading where
  hour : Nat
  minute : Nat
  second : Nat
  micro : Nat
  leftOver : Bool

/-- Tests that a reading may stop in front of a text: at its end, or at a NUL. -/
def stopsAt : Text → Bool
  | [] => true
  | g :: _ => g = .char '\x00'

/-- Reads a fraction of a second, at least one digit.  Six digits count; further ones are
skipped. -/
def readFraction? (t : Text) : Option (Nat × Bool) := do
  let count := min 6 t.length
  let (n, rest) ← takeNumber? count t
  some (n * Nat.pow 10 (6 - count), !stopsAt (rest.dropWhile Glyph.isAsciiDigit))

/-- What follows a pair of digits of a time. -/
inductive AfterPair
  | done (leftOver : Bool)
  | pair (rest : Text)
  | fraction (rest : Text)
  | broken

/-- Decides how a time goes on behind a pair of digits, with or without colons. -/
def afterPair (colons : Bool) (rest : Text) : AfterPair :=
  match rest with
  | [] => .done false
  | g :: more =>
    if more.isEmpty ∧ g.code < 0x80 then .done (g ≠ .char '\x00')
    else if colons ∧ g = .char ':' then .pair more
    else if g.isOneOf ['.', ','] then .fraction more
    else if colons then .broken
    else .pair rest

/-- Reads hours, minutes, seconds and a fraction, from the hours on each only if there is more. -/
def readClock? (t : Text) : Option ClockReading := do
  let (hour, rest) ← takeNumber? 2 t
  let colons := standsAt rest 0 ':'
  match afterPair colons rest with
  | .broken => none
  | .done leftOver => some ⟨hour, 0, 0, 0, leftOver⟩
  | .fraction rest =>
    let (micro, leftOver) ← readFraction? rest
    some ⟨hour, 0, 0, micro, leftOver⟩
  | .pair rest =>
    let (minute, rest) ← takeNumber? 2 rest
    match afterPair colons rest with
    | .broken => none
    | .done leftOver => some ⟨hour, minute, 0, 0, leftOver⟩
    | .fraction rest =>
      let (micro, leftOver) ← readFraction? rest
      some ⟨hour, minute, 0, micro, leftOver⟩
    | .pair rest =>
      let (second, rest) ← takeNumber? 2 rest
      match afterPair colons rest with
      | .broken => none
      | .done leftOver => some ⟨hour, minute, second, 0, leftOver⟩
      | .fraction rest | .pair rest =>
        let (micro, leftOver) ← readFraction? rest
        some ⟨hour, minute, second, micro, leftOver⟩

/-- The microseconds of a reading. -/
def ClockReading.micros (c : ClockReading) : Nat :=
  ((c.hour * 60 + c.minute) * 60 + c.second) * 1000000 + c.micro

/-- Reads a distance from universal time behind its first sign. -/
def readAhead? (sign : Glyph) (t : Text) : Option Int :=
  if sign = .char 'Z' then (if stopsAt t then some 0 else none)
  else do
    let c ← readClock? t
    if c.leftOver ∨ microsPerDay ≤ c.micros then none
    else some (Number.withSign (sign = .char '-') c.micros)

/-- Tests for the first sign of a distance. -/
def startsAhead (g : Glyph) : Bool := g.isOneOf ['+', '-', 'Z']

/-- Reads a time of day, possibly with a distance. -/
def readTime? (t : Text) : Option (ClockReading × Option Int) := do
  let c ← readClock? (t.takeWhile (!startsAhead ·))
  if 24 ≤ c.hour ∨ 60 ≤ c.minute ∨ 60 ≤ c.second then none
  else
    match t.dropWhile (!startsAhead ·) with
    | [] => if c.leftOver then none else some (c, none)
    | sign :: rest => (readAhead? sign rest).map fun ahead => (c, some ahead)

/-! ## The whole -/

/-- The text with a lone half at a place where the sign before the time may stand replaced. -/
def mendSeparator (t : Text) : Text :=
  match [7, 8, 10].find? fun i => t[i]?.any Glyph.isLone with
  | some i => t.set i (.char 'T')
  | none => t

/-- Reads a timestamp. -/
def read? (text : Text) : Option Timestamp := do
  let t := mendSeparator text
  if t.length < 7 ∨ t.any Glyph.isLone then none
  else
    let length := dayLength t
    let date ← readDay? (t.take length)
    match t.drop length with
    | [] => some ⟨date, 0, 0, 0, 0, none⟩
    | _ :: time =>
      let (c, ahead) ← readTime? time
      some ⟨date, c.hour, c.minute, c.second, c.micro, ahead⟩

end Timestamp
end QueryDesk
