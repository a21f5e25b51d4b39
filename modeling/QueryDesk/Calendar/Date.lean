import QueryDesk.Number.Whole

/-!
# Calendar days

Days of the Gregorian calendar, extended to all years, for the years 1 to 9999.  `dayNumber` counts
the days from 1 January of year 1, which is day 1, and `ofDayNumber` undoes it.  Month arithmetic
keeps the day of the month, or takes the last day of a shorter month.
-/

set_option autoImplicit false

namespace QueryDesk

/-- A calendar day. -/
structure Date where
  year : Nat
  month : Nat
  day : Nat
  deriving DecidableEq, Repr

namespace Date

/-- Tests for a leap year. -/
def isLeap (year : Int) : Bool := year % 4 = 0 ∧ (year % 100 ≠ 0 ∨ year % 400 = 0)

/-- The length of a month. -/
def daysInMonth (year : Int) (month : Nat) : Nat :=
  if month = 2 then (if isLeap year then 29 else 28)
  else if month = 4 ∨ month = 6 ∨ month = 9 ∨ month = 11 then 30
  else 31

/-- The days before a year. -/
def daysBeforeYear (year : Nat) : Nat :=
  let y := year - 1
  y * 365 + y / 4 - y / 100 + y / 400

/-- The days of a year before a month. -/
def daysBeforeMonth (year month : Nat) : Nat :=
  (List.range (month - 1)).foldl (fun days m => days + daysInMonth year (m + 1)) 0

/-- The number of a day, counted from 1 January of year 1 as day 1. -/
def dayNumber (d : Date) : Nat := daysBeforeYear d.year + daysBeforeMonth d.year d.month + d.day

/-- The month and day of the `n`-th day of a year, `n` counted from zero. -/
def monthOf (year : Nat) : Nat → Nat → Nat → Nat × Nat
  | 0, month, n => (month, n + 1)
  | tries + 1, month, n =>
    if n < daysInMonth year month then (month, n + 1)
    else monthOf year tries (month + 1) (n - daysInMonth year month)

/-- The day with a number. -/
def ofDayNumber (number : Nat) : Date :=
  let n := number - 1
  let quads := n / 146097
  let n := n % 146097
  let centuries := min (n / 36524) 3
  let n := n - centuries * 36524
  let fours := n / 1461
  let n := n % 1461
  let years := min (n / 365) 3
  let year := quads * 400 + centuries * 100 + fours * 4 + years + 1
  let (month, day) := monthOf year 11 1 (n - years * 365)
  ⟨year, month, day⟩

/-- Tests that a year, a month and a day name a calendar day. -/
def isDay (year month day : Nat) : Bool :=
  1 ≤ year && year ≤ 9999 && 1 ≤ month && month ≤ 12 && 1 ≤ day && day ≤ daysInMonth year month

/-- The calendar day of a year, month and day, if there is one. -/
def ofParts? (year month day : Nat) : Option Date :=
  if isDay year month day then some ⟨year, month, day⟩ else none

/-- The day of the week, from Monday as 0. -/
def weekday (d : Date) : Nat := (d.dayNumber + 6) % 7

/-! ## Weeks -/

/-- The number of the Monday of week 1, which is the week of the first Thursday. -/
def firstMonday (year : Nat) : Nat :=
  let first := dayNumber ⟨year, 1, 1⟩
  let weekday := (first + 6) % 7
  let monday := first - weekday
  if 3 < weekday then monday + 7 else monday

/-- The number of weeks in a year. -/
def weeksIn (year : Nat) : Nat :=
  let first := weekday ⟨year, 1, 1⟩
  if first = 3 ∨ first = 2 ∧ isLeap year then 53 else 52

/-- The calendar day of a year, week and day of the week from Monday as 1, if there is one. -/
def ofWeek? (year week day : Nat) : Option Date :=
  if 1 ≤ year ∧ year ≤ 9999 ∧ 1 ≤ week ∧ week ≤ weeksIn year ∧ 1 ≤ day ∧ day ≤ 7 then
    let d := ofDayNumber (firstMonday year + (week - 1) * 7 + (day - 1))
    ofParts? d.year d.month d.day
  else none

/-! ## Writing -/

/-- The day as `YYYY-MM-DD`. -/
def written (d : Date) : Text :=
  Number.paddedDigits 4 d.year ++ .char '-' :: Number.paddedDigits 2 d.month
    ++ .char '-' :: Number.paddedDigits 2 d.day

end Date

end QueryDesk
