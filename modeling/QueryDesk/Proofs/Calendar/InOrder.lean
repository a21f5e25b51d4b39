import Mathlib.Algebra.Order.Group.Nat
import Mathlib.Tactic.SplitIfs
import QueryDesk.Proofs.Calendar.Months
import QueryDesk.Proofs.Results

/-!
# Months in order

A calendar day is a day of a month, and months can be numbered through all years (`monthIndex`).
Days are numbered in the order of their months and, within a month, of their days of the month
(`IsProper.dayNumber_le_iff`).

Going back by months lowers the number of the month, and cuts the day of the month to the length of
the month that it comes to (`exists_of_monthsBefore`).  So it keeps days in order
(`IsProper.dayNumber_inMonth_le`), but not apart: the last days of a long month may come to one and
the same day of a short one.

Each number from one on is that of one day (`ofDayNumber_spec`).  So a timestamp some microseconds
later is on the calendar, and shows so much more (`Timestamp.shown_later`).
-/

set_option autoImplicit false

namespace QueryDesk
namespace Date

/-- The number of the month of a day, counted through all years. -/
def monthIndex (d : Date) : Nat := d.year * 12 + (d.month - 1)

/-- The number of the last day before a month. -/
def monthStart (index : Nat) : Nat :=
  daysBeforeYear (index / 12) + daysBeforeMonth (index / 12) (index % 12 + 1)

/-- The length of a month. -/
def monthLength (index : Nat) : Nat := daysInMonth (index / 12 : Nat) (index % 12 + 1)

/-- Says that a day is one of the calendar. -/
structure IsProper (d : Date) : Prop where
  month : 1 ≤ d.month ∧ d.month ≤ 12
  day : 1 ≤ d.day ∧ d.day ≤ daysInMonth d.year d.month
  year : 1 ≤ d.year

theorem isProper_of_isDay {d : Date} (h : isDay d.year d.month d.day = true) : d.IsProper := by
  simp only [isDay, Bool.and_eq_true, decide_eq_true_eq] at h
  obtain ⟨⟨⟨⟨⟨hyear, -⟩, hfirst⟩, hlast⟩, hday⟩, hlength⟩ := h
  exact ⟨⟨hfirst, hlast⟩, ⟨hday, hlength⟩, hyear⟩

variable {d e : Date}

theorem IsProper.year_eq (h : d.IsProper) : d.monthIndex / 12 = d.year := by
  have hmonth := h.month
  unfold monthIndex
  omega

theorem IsProper.month_eq (h : d.IsProper) : d.monthIndex % 12 + 1 = d.month := by
  have hmonth := h.month
  unfold monthIndex
  omega

/-- A day is so many days behind the start of its month. -/
theorem IsProper.dayNumber_eq (h : d.IsProper) : d.dayNumber = monthStart d.monthIndex + d.day := by
  rw [monthStart, h.year_eq, h.month_eq, dayNumber]

theorem IsProper.day_le (h : d.IsProper) : d.day ≤ monthLength d.monthIndex := by
  rw [monthLength, h.year_eq, h.month_eq]
  exact h.day.2

/-! ## Days are numbered by months -/

theorem daysBeforeMonth_succ (year : Nat) {month : Nat} (h : 1 ≤ month) :
    daysBeforeMonth year (month + 1) = daysBeforeMonth year month + daysInMonth year month := by
  obtain ⟨m, rfl⟩ : ∃ m, month = m + 1 := ⟨month - 1, by omega⟩
  simp [daysBeforeMonth, List.range_succ]

theorem daysBeforeMonth_thirteen (year : Nat) :
    daysBeforeMonth year 13 = 365 + if isLeap year then 1 else 0 := by
  have hmonths : List.range 12 = [0, 1, 2, 3, 4, 5, 6, 7, 8, 9, 10, 11] := rfl
  by_cases hleap : isLeap year = true <;> simp [daysBeforeMonth, hmonths, daysInMonth, hleap]

theorem isLeap_iff (year : Nat) : isLeap year = true ↔ 4 ∣ year ∧ (¬100 ∣ year ∨ 400 ∣ year) := by
  simp only [isLeap, decide_eq_true_eq]
  omega

/-- A year begins when the twelve months of the one before it are over. -/
theorem daysBeforeYear_succ {year : Nat} (h : 1 ≤ year) :
    daysBeforeYear (year + 1) = daysBeforeYear year + daysBeforeMonth year 13 := by
  obtain ⟨y, rfl⟩ : ∃ y, year = y + 1 := ⟨year - 1, by omega⟩
  have hcenturies : y / 100 ≤ y / 4 := Nat.div_le_div_left (by decide) (by decide)
  have hfour : 100 ∣ y + 1 → 4 ∣ y + 1 := (Nat.dvd_trans (by decide) ·)
  have hhundred : 400 ∣ y + 1 → 100 ∣ y + 1 := (Nat.dvd_trans (by decide) ·)
  have hleap := isLeap_iff (y + 1)
  rw [daysBeforeMonth_thirteen]
  simp only [daysBeforeYear, Nat.add_sub_cancel, Nat.succ_div]
  -- The counts of years that 4 and 100 divide are left as they are.
  generalize y / 4 = fours at *
  generalize y / 100 = centuries at *
  by_cases h4 : 4 ∣ y + 1 <;> by_cases h100 : 100 ∣ y + 1 <;> by_cases h400 : 400 ∣ y + 1 <;>
    simp_all <;> omega

/-- **A month begins when the one before it is over.** -/
theorem monthStart_succ {index : Nat} (h : 12 ≤ index) :
    monthStart (index + 1) = monthStart index + monthLength index := by
  have hmonth : 1 ≤ index % 12 + 1 := by omega
  have hnext := daysBeforeMonth_succ (index / 12) hmonth
  by_cases hlast : index % 12 = 11
  · have hyear : (index + 1) / 12 = index / 12 + 1 := by omega
    have hmonth : (index + 1) % 12 = 0 := by omega
    rw [hlast] at hnext
    rw [monthStart, monthStart, monthLength, hyear, hmonth, hlast, Nat.add_assoc, ← hnext,
      daysBeforeYear_succ (by omega)]
    rfl
  · have hyear : (index + 1) / 12 = index / 12 := by omega
    have hmonth : (index + 1) % 12 = index % 12 + 1 := by omega
    rw [monthStart, monthStart, monthLength, hyear, hmonth, hnext, Nat.add_assoc]

/-- A month is over before a later one begins. -/
theorem monthStart_le {i j : Nat} (hi : 12 ≤ i) (h : i < j) :
    monthStart i + monthLength i ≤ monthStart j := by
  obtain ⟨k, rfl⟩ := Nat.exists_eq_add_of_lt h
  induction k with
  | zero => exact (monthStart_succ hi).ge
  | succ k ih =>
    have hlast : 12 ≤ i + k + 1 := by omega
    have hstep := monthStart_succ hlast
    have hbefore := ih (by omega)
    rw [show i + (k + 1) + 1 = i + k + 1 + 1 by omega, hstep]
    omega

theorem IsProper.twelve_le (h : d.IsProper) : 12 ≤ d.monthIndex := by
  have hyear := h.year
  unfold monthIndex
  omega

/-- A day of an earlier month is an earlier day. -/
theorem IsProper.dayNumber_lt (hd : d.IsProper) (he : e.IsProper)
    (h : d.monthIndex < e.monthIndex) : d.dayNumber < e.dayNumber := by
  have hover := monthStart_le hd.twelve_le h
  have hlast := hd.day_le
  have hfirst := he.day.1
  rw [hd.dayNumber_eq, he.dayNumber_eq]
  omega

/-- **Days are in the order of their months**, and within a month of their days of the month. -/
theorem IsProper.dayNumber_le_iff (hd : d.IsProper) (he : e.IsProper) :
    d.dayNumber ≤ e.dayNumber ↔
      d.monthIndex < e.monthIndex ∨ d.monthIndex = e.monthIndex ∧ d.day ≤ e.day := by
  rcases lt_trichotomy d.monthIndex e.monthIndex with hlt | heq | hgt
  · simp [hlt, (hd.dayNumber_lt he hlt).le]
  · rw [hd.dayNumber_eq, he.dayNumber_eq, heq]
    simp
  · have hlater := he.dayNumber_lt hd hgt
    omega

/-- Days of one number are the same day. -/
theorem IsProper.eq_of_dayNumber_eq (hd : d.IsProper) (he : e.IsProper)
    (h : d.dayNumber = e.dayNumber) : d = e := by
  have hle := (hd.dayNumber_le_iff he).mp h.le
  have hge := (he.dayNumber_le_iff hd).mp h.ge
  have hindex : d.monthIndex = e.monthIndex := by omega
  have hyear : d.year = e.year := by rw [← hd.year_eq, ← he.year_eq, hindex]
  have hmonth : d.month = e.month := by rw [← hd.month_eq, ← he.month_eq, hindex]
  have hday : d.day = e.day := by omega
  rcases d with ⟨year, month, day⟩
  simp_all

/-! ## Going back -/

theorem daysInMonth_pos (year : Int) (month : Nat) : 1 ≤ daysInMonth year month := by
  unfold daysInMonth
  split_ifs <;> decide

theorem daysInMonth_le (year : Int) (month : Nat) : daysInMonth year month ≤ 31 := by
  unfold daysInMonth
  split_ifs <;> decide

/-- The day of a month, or its last day if it has no such day. -/
def inMonth (index day : Nat) : Date := ⟨index / 12, index % 12 + 1, min day (monthLength index)⟩

theorem monthIndex_inMonth (index day : Nat) : (inMonth index day).monthIndex = index := by
  dsimp only [inMonth, monthIndex]
  omega

theorem isProper_inMonth {index day : Nat} (hindex : 12 ≤ index) (hday : 1 ≤ day) :
    (inMonth index day).IsProper where
  month := by
    dsimp only [inMonth]
    omega
  day := ⟨Nat.le_min.mpr ⟨hday, daysInMonth_pos _ _⟩, Nat.min_le_right _ _⟩
  year := by
    dsimp only [inMonth]
    omega

/-- **Going back by months goes back by calendar months**, at the same time of day. -/
theorem exists_of_monthsBefore {t u : Timestamp} {months : Int} (ht : t.date.IsProper)
    (h : t.monthsBefore months = .ok u) : ∃ index : Nat,
      12 ≤ index ∧ (index : Int) = t.date.monthIndex - months ∧
        u = { t with date := inMonth index t.date.day } := by
  have hstart : (t.date.year * 12 + (t.date.month - 1) : Int) = t.date.monthIndex := by
    have hmonth := ht.month
    unfold monthIndex
    omega
  simp only [Timestamp.monthsBefore, hstart] at h
  obtain ⟨year, hyear, hu⟩ := Except.bind_eq_ok_iff.mp h
  obtain rfl := Except.ok.inj hu
  unfold Timestamp.checkYear at hyear
  split_ifs at hyear with hrange
  obtain rfl := Except.ok.inj hyear
  obtain ⟨index, hindex⟩ : ∃ index : Nat, (index : Int) = t.date.monthIndex - months :=
    ⟨(t.date.monthIndex - months).toNat, by omega⟩
  rw [← hindex] at hrange ⊢
  refine ⟨index, by omega, rfl, ?_⟩
  rfl

/-- **Going back by months keeps days in order.** -/
theorem IsProper.dayNumber_inMonth_le {i j : Nat} {months : Int} (hd : d.IsProper) (he : e.IsProper)
    (h : d.dayNumber ≤ e.dayNumber) (hi : (i : Int) = d.monthIndex - months)
    (hj : (j : Int) = e.monthIndex - months) (hfirst : 12 ≤ i) :
    (inMonth i d.day).dayNumber ≤ (inMonth j e.day).dayNumber := by
  have hstart := isProper_inMonth hfirst hd.day.1
  rcases (hd.dayNumber_le_iff he).mp h with hlt | ⟨heq, hday⟩
  · have hlast : 12 ≤ j := by omega
    have hend := isProper_inMonth hlast he.day.1
    refine (hstart.dayNumber_lt hend ?_).le
    rw [monthIndex_inMonth, monthIndex_inMonth]
    omega
  · obtain rfl : i = j := by omega
    refine (hstart.dayNumber_le_iff (isProper_inMonth hfirst he.day.1)).mpr (.inr ⟨?_, ?_⟩)
    · rw [monthIndex_inMonth, monthIndex_inMonth]
    · exact min_le_min_right _ hday

/-! ## Days by number -/

/-- Counting on from the start of a month comes to a day of the year with its number in the year. -/
theorem monthOf_spec {year tries month n : Nat} (hyear : 1 ≤ year) (hmonth : 1 ≤ month)
    (htries : tries + month = 12) (hn : daysBeforeMonth year month + n < daysBeforeMonth year 13) :
    (⟨year, (monthOf year tries month n).1, (monthOf year tries month n).2⟩ : Date).IsProper ∧
      daysBeforeMonth year (monthOf year tries month n).1 + (monthOf year tries month n).2 =
        daysBeforeMonth year month + n + 1 := by
  have hnext := daysBeforeMonth_succ year hmonth
  induction tries generalizing month n with
  | zero =>
    obtain rfl : month = 12 := by omega
    have hlast : n < daysInMonth year 12 := by
      have hyearEnd : daysBeforeMonth year 13 = daysBeforeMonth year 12 + daysInMonth year 12 := hnext
      omega
    exact ⟨⟨⟨hmonth, Nat.le_refl 12⟩, ⟨Nat.succ_pos n, hlast⟩, hyear⟩, rfl⟩
  | succ tries ih =>
    rw [monthOf]
    split_ifs with hlt
    · have hlast : month ≤ 12 := by omega
      exact ⟨⟨⟨hmonth, hlast⟩, ⟨Nat.succ_pos n, hlt⟩, hyear⟩, rfl⟩
    · obtain ⟨hproper, hcount⟩ := @ih (month + 1) (n - daysInMonth year month) (by omega) (by omega)
        (by omega) (daysBeforeMonth_succ year (by omega))
      exact ⟨hproper, by omega⟩

/-- The year that stands so many cycles of 400, 100, 4 and single years behind year 1. -/
def cycleYear (quads centuries fours years : Nat) : Nat :=
  quads * 400 + centuries * 100 + fours * 4 + years + 1

section Cycles

variable {quads centuries fours years : Nat}

theorem daysBeforeYear_cycleYear (hcenturies : centuries ≤ 3) (hfours : fours ≤ 24)
    (hyears : years ≤ 3) : daysBeforeYear (cycleYear quads centuries fours years) =
      quads * 146097 + centuries * 36524 + fours * 1461 + years * 365 := by
  unfold daysBeforeYear cycleYear
  dsimp only
  omega

/-- The fourth year of a cycle is a leap year, but that of the last cycle of a century only if it is
the fourth century. -/
theorem isLeap_cycleYear (hfours : fours ≤ 24)
    (hlast : fours < 24 ∨ centuries = 3) : isLeap (cycleYear quads centuries fours 3) = true := by
  rw [isLeap_iff]
  unfold cycleYear
  omega

end Cycles

/-- **Each number is that of a day of the calendar.** -/
theorem ofDayNumber_spec {number : Nat} (h : 1 ≤ number) :
    (ofDayNumber number).IsProper ∧ (ofDayNumber number).dayNumber = number := by
  obtain ⟨n, rfl⟩ : ∃ n, number = n + 1 := ⟨number - 1, by omega⟩
  unfold ofDayNumber
  simp only [Nat.add_sub_cancel]
  generalize hq : n / 146097 = quads
  generalize hc : min (n % 146097 / 36524) 3 = centuries
  generalize hf : (n % 146097 - centuries * 36524) / 1461 = fours
  generalize hr : (n % 146097 - centuries * 36524) % 1461 = rest
  generalize hy : min (rest / 365) 3 = years
  -- A last century of four may be a day longer, and so may a last year of four.
  have hcount : n = quads * 146097 + centuries * 36524 + fours * 1461 + rest := by omega
  have hcenturies : centuries ≤ 3 := by omega
  have hcentury : fours * 1461 + rest < 36524 ∨ centuries = 3 := by omega
  have hfours : fours ≤ 24 := by omega
  have hyears : years ≤ 3 := by omega
  have hyear : years * 365 ≤ rest ∧ (rest < years * 365 + 365 ∨ years = 3 ∧ rest = 1460) := by omega
  clear hq hc hf hr hy
  rw [show quads * 400 + centuries * 100 + fours * 4 + years + 1 =
    cycleYear quads centuries fours years from rfl]
  have hbefore := @daysBeforeYear_cycleYear quads centuries fours years hcenturies hfours hyears
  have hlength : rest - years * 365 < daysBeforeMonth (cycleYear quads centuries fours years) 13 := by
    rw [daysBeforeMonth_thirteen]
    rcases hyear.2 with hlt | ⟨rfl, rfl⟩
    · omega
    · rw [if_pos (isLeap_cycleYear hfours (by omega))]
      decide
  have hstart : daysBeforeMonth (cycleYear quads centuries fours years) 1 = 0 := rfl
  obtain ⟨hproper, hday⟩ := @monthOf_spec (cycleYear quads centuries fours years) 11 1
    (rest - years * 365) (Nat.succ_pos _) (by decide) (by decide) (by rwa [hstart, Nat.zero_add])
  refine ⟨hproper, ?_⟩
  have hsum : ∀ a b c : Nat, b ≤ c → a + b + (0 + (c - b) + 1) = a + c + 1 := by omega
  rw [dayNumber, hbefore, Nat.add_assoc, hday, hstart, hcount, hsum _ _ _ hyear.1]

theorem IsProper.isDay (h : d.IsProper) (hyear : d.year ≤ 9999) :
    Date.isDay d.year d.month d.day = true := by
  simp only [Date.isDay, Bool.and_eq_true, decide_eq_true_eq]
  exact ⟨⟨⟨⟨⟨h.year, hyear⟩, h.month.1⟩, h.month.2⟩, h.day.1⟩, h.day.2⟩

/-- A year has 365 days at least. -/
theorem mul_le_daysBeforeYear (year : Nat) : (year - 1) * 365 ≤ daysBeforeYear year := by
  have hcenturies : (year - 1) / 100 ≤ (year - 1) / 4 :=
    Nat.div_le_div_left (by decide) (by decide)
  unfold daysBeforeYear
  dsimp only
  omega

theorem IsProper.year_le (h : d.IsProper) {years : Nat} (hday : d.dayNumber ≤ years * 365) :
    d.year ≤ years := by
  have hyear : (d.year - 1) * 365 < years * 365 :=
    calc (d.year - 1) * 365 ≤ daysBeforeYear d.year := mul_le_daysBeforeYear _
      _ ≤ daysBeforeYear d.year + daysBeforeMonth d.year d.month := Nat.le_add_right _ _
      _ < d.dayNumber := Nat.lt_add_of_pos_right h.day.1
      _ ≤ years * 365 := hday
  have hlt := Nat.lt_of_mul_lt_mul_right hyear
  omega

end Date

namespace Timestamp

/-! ## Later on the same clock -/

variable {t : Timestamp} {micros : Int}

theorem shown_ofShown {n : Int} (h : microsPerDay ≤ n) (ahead : Option Int) :
    (ofShown n ahead).date.IsProper ∧ (ofShown n ahead).shown = n := by
  have hday : 1 ≤ (n / microsPerDay).toNat := by
    unfold microsPerDay at h ⊢
    omega
  obtain ⟨hproper, hnumber⟩ := Date.ofDayNumber_spec hday
  refine ⟨hproper, ?_⟩
  have htime : (ofShown n ahead).timeOfDay = (n % microsPerDay).toNat := by
    simp only [timeOfDay, ofShown]
    omega
  have hdate : (ofShown n ahead).date.dayNumber = (n / microsPerDay).toNat := hnumber
  rw [shown, htime, hdate]
  unfold microsPerDay at h ⊢
  omega

/-- **A timestamp some microseconds later** is on the calendar, and so much later. -/
theorem shown_later (h : microsPerDay ≤ t.shown + micros) :
    (t.later micros).date.IsProper ∧ (t.later micros).shown = t.shown + micros :=
  shown_ofShown h t.ahead

end Timestamp
end QueryDesk
