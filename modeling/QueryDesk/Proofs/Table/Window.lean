import QueryDesk.Proofs.Calendar.InOrder
import QueryDesk.Proofs.Calendar.IsoText
import QueryDesk.Proofs.Calendar.Months
import QueryDesk.Proofs.Table.Instants

/-!
# The window of the last quarter

The condition on the last quarter asks for dates from the start of a window on, a quarter back from
the present at the same time of day.  As time passes the day on which the window starts never moves
back.  But several days may have their windows start on one day, the last of a short month, and then
the time of day may move back (`comes_back_at_end_of_may`).

So the window only moves forward unless that happens, and then it does not
(`Predicate.quarter_moves_forward`).
-/

set_option autoImplicit false

namespace QueryDesk

variable {now later : Timestamp} {row : Row}

namespace Timestamp

/-- Says that a clock in universal time can show a timestamp, and that a quarter lies behind it. -/
structure IsPresent (t : Timestamp) : Prop where
  proper : t.IsProper
  universal : t.ahead = some 0
  quarter : Date.dayNumber ⟨1, 4, 1⟩ ≤ t.date.dayNumber

theorem instant_of_universal {t : Timestamp} (h : t.ahead = some 0) :
    t.instant = t.date.dayNumber * microsPerDay + t.timeOfDay := by
  simp [instant, shown, h]

theorem asUniversal_eq_self {t : Timestamp} (h : t.ahead = some 0) : t.asUniversal = t := by
  rw [asUniversal, h]
  exact congrArg (fun ahead => { t with ahead }) h.symm

/-- On one clock an earlier day comes before a later one, and a day follows the time of day. -/
theorem instant_le_iff {s t : Timestamp} (hs : s.ahead = some 0) (ht : t.ahead = some 0)
    (hsTime : s.timeOfDay < microsPerDay) (htTime : t.timeOfDay < microsPerDay) :
    s.instant ≤ t.instant ↔ s.date.dayNumber < t.date.dayNumber ∨
      s.date.dayNumber = t.date.dayNumber ∧ s.timeOfDay ≤ t.timeOfDay := by
  rw [instant_of_universal hs, instant_of_universal ht]
  generalize s.date.dayNumber = m
  generalize t.date.dayNumber = n
  unfold microsPerDay at *
  omega

/-- The window of the present starts in the third month back. -/
theorem IsPresent.exists_start (h : now.IsPresent) : ∃ index : Nat,
    12 ≤ index ∧ (index : Int) = now.date.monthIndex - 3 ∧
      now.monthsBefore 3 = .ok { now with date := Date.inMonth index now.date.day } := by
  have hback : now.HasQuarterBehind := ⟨h.proper.day, h.quarter⟩
  obtain ⟨start, hstart, -⟩ := hback.exists_monthsBefore
  obtain ⟨index, hfirst, hindex, rfl⟩ :=
    Date.exists_of_monthsBefore (Date.isProper_of_isDay h.proper.day) hstart
  exact ⟨index, hfirst, hindex, hstart⟩

end Timestamp

namespace Predicate

variable {field : Text} {start startLater : Timestamp}

/-- An order is within the last quarter if it is not before the window. -/
theorem holds_quarter_iff {t : Timestamp} (ht : (Value.field row field).instant? = some t)
    (hnow : now.ahead.isSome) (hstart : now.monthsBefore 3 = .ok start) :
    (withinMonths field 3).holds row now = .ok true ↔ start.instant ≤ t.instant := by
  have hholds := toOption_holds_withinMonths ht hnow 3
  rw [Timestamp.instantBack?, hstart] at hholds
  rw [Except.ok_of_toOption hholds]
  simp

/-- The window moves forward if every order that is within it later is within it now. -/
theorem forall_holds_quarter_iff (hnow : now.ahead.isSome) (hlater : later.ahead.isSome)
    (hstart : now.monthsBefore 3 = .ok start) (hstartLater : later.monthsBefore 3 = .ok startLater)
    (hahead : startLater.ahead = some 0) (field : Text) :
    (∀ row, (withinMonths field 3).holds row later = .ok true →
      (withinMonths field 3).holds row now = .ok true) ↔ start.instant ≤ startLater.instant := by
  constructor
  · intro h
    have hrow : (Value.field [(field, .timestamp startLater)] field).instant? = some startLater := by
      simp [Value.field, Value.lookup, Value.instant?, Timestamp.asUniversal_eq_self hahead]
    have hlast := (holds_quarter_iff hrow hlater hstartLater).mpr le_rfl
    exact (holds_quarter_iff hrow hnow hstart).mp (h _ hlast)
  · intro h row hholds
    cases ht : (Value.field row field).instant? with
    | none => simp [holds, ht]
    | some t =>
      rw [holds_quarter_iff ht hlater hstartLater] at hholds
      exact (holds_quarter_iff ht hnow hstart).mpr (h.trans hholds)

/-- **When the window of the last quarter moves forward.**  The day on which it starts never moves
back.  The window moves forward, and every order that is within it later is within it now, unless
it starts on the same day and the time of day is earlier later; and that takes a later day that the
month of the window does not have. -/
theorem quarter_moves_forward (hnow : now.IsPresent) (hlater : later.IsPresent)
    (h : now.instant ≤ later.instant) (field : Text) : ∃ start startLater,
      now.monthsBefore 3 = .ok start ∧ later.monthsBefore 3 = .ok startLater ∧
      start.date.dayNumber ≤ startLater.date.dayNumber ∧
      (start.instant ≤ startLater.instant ↔
        ¬(start.date = startLater.date ∧ later.timeOfDay < now.timeOfDay)) ∧
      ((∀ row, (withinMonths field 3).holds row later = .ok true →
        (withinMonths field 3).holds row now = .ok true) ↔
          ¬(start.date = startLater.date ∧ later.timeOfDay < now.timeOfDay)) ∧
      (start.date = startLater.date ∧ later.timeOfDay < now.timeOfDay →
        startLater.date.day < later.date.day) := by
  have hday := Date.isProper_of_isDay hnow.proper.day
  have hdayLater := Date.isProper_of_isDay hlater.proper.day
  have htime := hnow.proper.timeOfDay_lt
  have htimeLater := hlater.proper.timeOfDay_lt
  obtain ⟨i, hi, hindex, hstart⟩ := hnow.exists_start
  obtain ⟨j, hj, hindexLater, hstartLater⟩ := hlater.exists_start
  have hle := (Timestamp.instant_le_iff hnow.universal hlater.universal htime htimeLater).mp h
  have hdays : now.date.dayNumber ≤ later.date.dayNumber := by omega
  have hstarts := hday.dayNumber_inMonth_le hdayLater hdays hindex hindexLater hi
  have hsame : (Date.inMonth i now.date.day).dayNumber = (Date.inMonth j later.date.day).dayNumber ↔
      Date.inMonth i now.date.day = Date.inMonth j later.date.day :=
    ⟨(Date.isProper_inMonth hi hday.day.1).eq_of_dayNumber_eq
      (Date.isProper_inMonth hj hdayLater.day.1), congrArg _⟩
  have hforward := Timestamp.instant_le_iff (s := { now with date := Date.inMonth i now.date.day })
    (t := { later with date := Date.inMonth j later.date.day }) hnow.universal hlater.universal htime
    htimeLater
  have hiff : Timestamp.instant { now with date := Date.inMonth i now.date.day } ≤
      Timestamp.instant { later with date := Date.inMonth j later.date.day } ↔
        ¬(Date.inMonth i now.date.day = Date.inMonth j later.date.day ∧
          later.timeOfDay < now.timeOfDay) := by
    rw [hforward, ← hsame]
    change _ ∨ _ ∧ now.timeOfDay ≤ later.timeOfDay ↔ _
    dsimp only
    omega
  refine ⟨_, _, hstart, hstartLater, hstarts, hiff, ?_, ?_⟩
  · rw [forall_holds_quarter_iff (by simp [hnow.universal]) (by simp [hlater.universal]) hstart
      hstartLater hlater.universal]
    exact hiff
  · rintro ⟨hdate, hearlier⟩
    have hmonths := congrArg Date.monthIndex hdate
    have hcut := congrArg Date.day hdate
    rw [Date.monthIndex_inMonth, Date.monthIndex_inMonth] at hmonths
    dsimp only [Date.inMonth] at hcut ⊢
    rw [hday.dayNumber_eq, hdayLater.dayNumber_eq] at hle
    have hindices : now.date.monthIndex = later.date.monthIndex := by omega
    rw [hindices] at hle
    omega

/-- Later in the morning on the last days of May, whose windows start on the last of February. -/
theorem quarter_moves_forward_end_of_may :
    let now : Timestamp := ⟨⟨2024, 5, 30⟩, 8, 30, 0, 0, some 0⟩
    let later : Timestamp := ⟨⟨2024, 5, 31⟩, 9, 0, 0, 0, some 0⟩
    now.IsPresent ∧ later.IsPresent ∧ now.instant ≤ later.instant ∧
      ∀ row, (withinMonths (Text.of "orderDate") 3).holds row later = .ok true →
        (withinMonths (Text.of "orderDate") 3).holds row now = .ok true := by
  intro now later
  have hnow : now.IsPresent := ⟨⟨by decide, by decide, by decide, by decide, by decide, by decide⟩,
    rfl, by decide⟩
  have hlater : later.IsPresent := ⟨⟨by decide, by decide, by decide, by decide, by decide,
    by decide⟩, rfl, by decide⟩
  have hle : now.instant ≤ later.instant := by decide
  obtain ⟨start, startLater, -, -, -, -, hrows, -⟩ :=
    quarter_moves_forward hnow hlater hle (Text.of "orderDate")
  exact ⟨hnow, hlater, hle, hrows.mpr fun h => absurd h.2 (by decide)⟩

/-- An order of noon on 29 February has dropped out of the window late on 30 May, and is within it
again two hours later. -/
theorem comes_back_at_end_of_may :
    let now : Timestamp := ⟨⟨2024, 5, 30⟩, 23, 0, 0, 0, some 0⟩
    let later : Timestamp := ⟨⟨2024, 5, 31⟩, 1, 0, 0, 0, some 0⟩
    let row : Row := [(Text.of "orderDate", .timestamp ⟨⟨2024, 2, 29⟩, 12, 0, 0, 0, some 0⟩)]
    now.IsPresent ∧ later.IsPresent ∧ now.instant ≤ later.instant ∧
      (withinMonths (Text.of "orderDate") 3).holds row now = .ok false ∧
      (withinMonths (Text.of "orderDate") 3).holds row later = .ok true := by
  refine ⟨⟨⟨by decide, by decide, by decide, by decide, by decide, by decide⟩, rfl, by decide⟩,
    ⟨⟨by decide, by decide, by decide, by decide, by decide, by decide⟩, rfl, by decide⟩, by decide,
    ?_, ?_⟩
  · exact Except.ok_of_toOption (by decide +kernel)
  · exact Except.ok_of_toOption (by decide +kernel)

end Predicate
end QueryDesk
