import QueryDesk.Fault
import QueryDesk.Calendar.Timestamp

/-!
# Months back

Shifts a timestamp by calendar months and keeps the day of the month, or takes the last day of a
shorter month.  The year must stay between 1 and 9999.
-/

set_option autoImplicit false

namespace QueryDesk
namespace Timestamp

/-- Tests a year for its range.  Years far outside are told apart by the size of the word that
would hold them. -/
def checkYear (year : Int) : Except Fault Nat :=
  if 1 ≤ year ∧ year ≤ 9999 then .ok year.toNat
  else if Nat.pow 2 63 ≤ year ∨ year < -Nat.pow 2 63 then .error .yearBeyondWords
  else if Nat.pow 2 31 ≤ year then .error .yearAboveWord
  else if year < -Nat.pow 2 31 then .error .yearBelowWord
  else .error (.yearOutOfRange year)

/-- The timestamp so many months earlier. -/
def monthsBefore (t : Timestamp) (months : Int) : Except Fault Timestamp := do
  let index : Int := t.date.year * 12 + (t.date.month - 1) - months
  let month := (index % 12).toNat + 1
  let day := min t.date.day (Date.daysInMonth (index / 12) month)
  let year ← checkYear (index / 12)
  .ok { t with date := ⟨year, month, day⟩ }

end Timestamp
end QueryDesk
