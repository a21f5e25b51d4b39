import Mathlib.Tactic.IntervalCases
import Mathlib.Tactic.Ring
import QueryDesk.Calendar.Months

/-!
# Going back by months

The calendar begins with year 1, so not every timestamp can be shifted back by months.  One whose
day is 1 April of year 1 or later can be shifted by a quarter (`exists_monthsBefore`), and it stays
at the same distance from universal time.

Going back by months is done on the calendar that a clock shows, and months differ in length.  So
how many days it takes depends on the day shown (`Date.daysBack?`), and two clocks that show one
instant on different days may come to different instants.  They come to the same one exactly if
the months take as many days on both days (`instantBack?_eq_iff`).
-/

set_option autoImplicit false

namespace QueryDesk

/-! ## Where the calendar begins -/

/-- In year 1, the days from 1 April on are those of the fourth month and later ones. -/
theorem Date.four_le_month {month day : Nat} (hday : isDay 1 month day = true)
    (hlater : dayNumber ⟨1, 4, 1⟩ ≤ dayNumber ⟨1, month, day⟩) : 4 ≤ month := by
  by_contra hlt
  simp only [isDay, Bool.and_eq_true, decide_eq_true_eq] at hday
  obtain ⟨⟨⟨-, hmonth⟩, -⟩, hlast⟩ := hday
  have hfirst : dayNumber ⟨1, 4, 1⟩ = 91 := by decide
  have hbefore : daysBeforeMonth 1 month + daysInMonth 1 month ≤ 90 := by
    interval_cases month <;> decide
  have hnumber : dayNumber ⟨1, month, day⟩ = daysBeforeMonth 1 month + day := by
    rw [dayNumber, show daysBeforeYear 1 = 0 from rfl, Nat.zero_add]
  rw [hfirst, hnumber] at hlater
  have hlast' : day ≤ daysInMonth 1 month := hlast
  omega

namespace Timestamp

/-- Says that a timestamp shows a calendar day, and that the day is 1 April of year 1 or later. -/
structure HasQuarterBehind (t : Timestamp) : Prop where
  isDay : Date.isDay t.date.year t.date.month t.date.day = true
  later : Date.dayNumber ⟨1, 4, 1⟩ ≤ t.date.dayNumber

theorem checkYear_of_mem {year : Int} (h : 1 ≤ year ∧ year ≤ 9999) :
    checkYear year = .ok year.toNat := by
  rw [checkYear, if_pos h]

/-- **A timestamp from 1 April of year 1 on can be shifted back by a quarter.** -/
theorem HasQuarterBehind.exists_monthsBefore {t : Timestamp} (ht : t.HasQuarterBehind) :
    ∃ u, t.monthsBefore 3 = .ok u ∧ u.ahead = t.ahead := by
  obtain ⟨hday, hlater⟩ := ht
  rcases t with ⟨⟨year, month, day⟩, hour, minute, second, micro, ahead⟩
  have hfirst : year = 1 → 4 ≤ month := by
    rintro rfl
    exact Date.four_le_month hday hlater
  simp only [Date.isDay, Bool.and_eq_true, decide_eq_true_eq] at hday
  have hyear : 1 ≤ ((year : Int) * 12 + ((month : Int) - 1) - 3) / 12
      ∧ ((year : Int) * 12 + ((month : Int) - 1) - 3) / 12 ≤ 9999 := by
    omega
  unfold monthsBefore
  simp only [checkYear_of_mem hyear]
  exact ⟨_, rfl, rfl⟩

end Timestamp

/-! ## How many days months take -/

namespace Date

/-- The day so many months before a day, if the calendar goes back that far. -/
def monthsBefore? (d : Date) (months : Int) : Option Date :=
  ((Timestamp.midnight d).monthsBefore months).toOption.map (·.date)

/-- How many days lie between a day and the day so many months before it. -/
def daysBack? (d : Date) (months : Int) : Option Int :=
  (d.monthsBefore? months).map fun e => d.dayNumber - e.dayNumber

end Date

namespace Timestamp

variable {t u : Timestamp} {months : Int}

/-- The instant so many months earlier, if the calendar goes back that far. -/
def instantBack? (t : Timestamp) (months : Int) : Option Int :=
  (t.monthsBefore months).toOption.map (·.instant)

/-- Going back by months changes the day only. -/
theorem toOption_monthsBefore (t : Timestamp) (months : Int) :
    (t.monthsBefore months).toOption =
      (t.date.monthsBefore? months).map fun e => { t with date := e } := by
  unfold Date.monthsBefore? monthsBefore
  simp only [midnight]
  cases checkYear (((t.date.year : Int) * 12 + ((t.date.month : Int) - 1) - months) / 12) <;> rfl

/-- On another day at the same time of day. -/
theorem instant_of_date (t : Timestamp) (e : Date) :
    ({ t with date := e } : Timestamp).instant =
      t.instant - (t.date.dayNumber - e.dayNumber) * microsPerDay := by
  simp only [instant, shown, timeOfDay]
  ring

/-- The instant so many months earlier lies as many days back as the months take. -/
theorem instantBack?_eq (t : Timestamp) (months : Int) :
    t.instantBack? months =
      (t.date.daysBack? months).map fun days => t.instant - days * microsPerDay := by
  rw [instantBack?, toOption_monthsBefore, Date.daysBack?, Option.map_map, Option.map_map]
  exact congrArg (Option.map · _) (funext fun e => instant_of_date t e)

/-- **Two clocks that show one instant agree on the instant some months earlier exactly if the
months take as many days on the days that they show.** -/
theorem instantBack?_eq_iff (h : t.instant = u.instant) :
    t.instantBack? months = u.instantBack? months ↔
      t.date.daysBack? months = u.date.daysBack? months := by
  have hinj : Function.Injective fun days : Int => u.instant - days * microsPerDay := by
    intro i j hij
    have hday : (microsPerDay : Int) ≠ 0 := by decide
    exact mul_right_cancel₀ hday (sub_right_injective hij)
  rw [instantBack?_eq, instantBack?_eq, h]
  exact (Option.map_injective hinj).eq_iff

end Timestamp

end QueryDesk
