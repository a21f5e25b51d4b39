import QueryDesk.Calendar.Date

/-!
# Timestamps

A timestamp is what a clock shows: a calendar day, a time of day to the microsecond, and the
distance of the clock from universal time, if it is known.  Two timestamps whose distances are
known are compared by the instants that they denote (`instant?`).  A timestamp without a distance
denotes no instant of its own; rows and statements read it as universal time (`asUniversal`).
-/

set_option autoImplicit false

namespace QueryDesk

/-- A reading of a clock. -/
structure Timestamp where
  date : Date
  hour : Nat
  minute : Nat
  second : Nat
  micro : Nat
  /-- How far the clock is ahead of universal time, in microseconds, if that is known. -/
  ahead : Option Int
  deriving DecidableEq, Repr

namespace Timestamp

/-- The microseconds of a day. -/
def microsPerDay : Nat := 86400000000

/-- Midnight of a day, in universal time. -/
def midnight (d : Date) : Timestamp := ⟨d, 0, 0, 0, 0, some 0⟩

/-- The microseconds since midnight. -/
def timeOfDay (t : Timestamp) : Nat :=
  ((t.hour * 60 + t.minute) * 60 + t.second) * 1000000 + t.micro

/-- What the clock shows, as microseconds since the day before 1 January of year 1. -/
def shown (t : Timestamp) : Int := t.date.dayNumber * microsPerDay + t.timeOfDay

/-- The instant that a timestamp denotes, as microseconds of universal time. -/
def instant? (t : Timestamp) : Option Int := t.ahead.map (t.shown - ·)

/-- The timestamp with universal time assumed where nothing is known. -/
def asUniversal (t : Timestamp) : Timestamp := { t with ahead := some (t.ahead.getD 0) }

/-- The instant of a timestamp, read as universal time where nothing is known. -/
def instant (t : Timestamp) : Int := t.shown - t.ahead.getD 0

/-- The timestamp that shows a count of microseconds. -/
def ofShown (n : Int) (ahead : Option Int) : Timestamp :=
  let micros := (n % microsPerDay).toNat
  let seconds := micros / 1000000
  { date := Date.ofDayNumber (n / microsPerDay).toNat
    hour := seconds / 3600, minute := seconds / 60 % 60, second := seconds % 60
    micro := micros % 1000000, ahead }

/-- The same instant on a clock that shows universal time. -/
def toUniversal (t : Timestamp) : Timestamp := ofShown t.instant (some 0)

/-- The timestamp some microseconds later on the same clock. -/
def later (t : Timestamp) (micros : Int) : Timestamp := ofShown (t.shown + micros) t.ahead

/-- Where two timestamps stand to each other: by instant when both denote one, by what they show
when neither does, and nowhere otherwise. -/
def compare? (a b : Timestamp) : Option Ordering :=
  match a.instant?, b.instant? with
  | some i, some j => some (compare i j)
  | none, none => some (compare a.shown b.shown)
  | _, _ => none

/-! ## Writing -/

/-- A distance from universal time as `+HH:MM`, with seconds and microseconds where they count. -/
def aheadText (ahead : Int) : Text :=
  let n := ahead.natAbs
  let seconds := n / 1000000
  let micros := n % 1000000
  let base := Number.paddedDigits 2 (seconds / 3600)
    ++ .char ':' :: Number.paddedDigits 2 (seconds / 60 % 60)
  let fine :=
    if micros ≠ 0 then
      .char ':' :: Number.paddedDigits 2 (seconds % 60) ++ .char '.' :: Number.paddedDigits 6 micros
    else if seconds % 60 ≠ 0 then .char ':' :: Number.paddedDigits 2 (seconds % 60)
    else []
  (if ahead < 0 then Glyph.char '-' else .char '+') :: base ++ fine

/-- The time of day as `HH:MM:SS`. -/
def clockText (t : Timestamp) : Text :=
  Number.paddedDigits 2 t.hour ++ .char ':' :: Number.paddedDigits 2 t.minute
    ++ .char ':' :: Number.paddedDigits 2 t.second

/-- The timestamp with a sign between day and time; microseconds only where they count. -/
def writtenWith (separator : Char) (t : Timestamp) : Text :=
  t.date.written ++ .char separator :: t.clockText
    ++ (if t.micro = 0 then [] else .char '.' :: Number.paddedDigits 6 t.micro)
    ++ (t.ahead.map aheadText).getD []

/-- The timestamp in its standard form, `YYYY-MM-DDTHH:MM:SS` with what else it has. -/
def written (t : Timestamp) : Text := t.writtenWith 'T'

/-- A timestamp in universal time to the millisecond, with `Z` at the end. -/
def writtenToMillisecond (t : Timestamp) : Text :=
  t.date.written ++ .char 'T' :: t.clockText ++ .char '.' :: Number.paddedDigits 3 (t.micro / 1000)
    ++ [.char 'Z']

end Timestamp

end QueryDesk
