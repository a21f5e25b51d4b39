import QueryDesk.Table.Execute
import QueryDesk.Proofs.Calendar.Months
import QueryDesk.Proofs.Business.Typed
import QueryDesk.Proofs.Condition.Forms
import QueryDesk.Proofs.Condition.Reading
import QueryDesk.Proofs.Results

/-!
# What a statement asks of the present

Two clocks may show one instant in different ways: on different days, or without a word on their
distance from universal time.  A condition that compares with the present sees the instant only.
The one that asks for the last quarter goes back on the calendar of the clock, and the day shown
decides how far that is.

So for statements without that condition any clock will do, and for all statements exactly those
clocks will do whose last quarters are as many days long (`execute_same_instant`).  Results are
compared by `Except.toOption`: the same rows, or none on both sides.
-/

set_option autoImplicit false

namespace QueryDesk

variable {now now' : Timestamp}

/-! ## Instants -/

namespace Timestamp

theorem instant_asUniversal (t : Timestamp) : t.asUniversal.instant = t.instant := rfl

theorem instant?_eq {t : Timestamp} (h : t.ahead.isSome) : t.instant? = some t.instant := by
  obtain ⟨ahead, hahead⟩ := Option.isSome_iff_exists.mp h
  rw [instant?, instant, hahead]
  rfl

/-- Being before a timestamp is being before the instant that it denotes. -/
theorem isBefore_eq {s t : Timestamp} (hs : s.ahead.isSome) (ht : t.ahead.isSome) :
    s.isBefore t = .ok (decide (s.instant < t.instant)) := by
  rw [isBefore, compare?, instant?_eq hs, instant?_eq ht]
  rcases lt_trichotomy s.instant t.instant with hlt | heq | hgt
  · simp [compare_lt_iff_lt.mpr hlt, hlt]
  · simp [heq]
  · simp [compare_gt_iff_gt.mpr hgt, hgt.le]

/-- Being before an instant does not depend on the clock that shows it. -/
theorem isBefore_congr (h : now.instant = now'.instant) (hnow : now.ahead.isSome)
    (hnow' : now'.ahead.isSome) (t : Timestamp) : t.isBefore now = t.isBefore now' := by
  rw [isBefore, isBefore, compare?, compare?, instant?_eq hnow, instant?_eq hnow', h]
  cases t.instant? <;> rfl

end Timestamp

/-! ## Conditions -/

namespace Predicate

variable {predicate : Predicate} {row : Row}

/-- Says that a condition counts months back from the present. -/
def CountsMonths : Predicate → Prop
  | withinMonths _ _ => True
  | _ => False

/-- A condition that counts no months sees the instant of the present only. -/
theorem holds_congr (h : now.instant = now'.instant) (hnow : now.ahead.isSome)
    (hnow' : now'.ahead.isSome) (hp : ¬predicate.CountsMonths) (row : Row) :
    predicate.holds row now = predicate.holds row now' := by
  have hbefore := Timestamp.isBefore_congr h hnow hnow'
  cases predicate with
  | withinMonths field months => exact absurd trivial hp
  | beforeNow field | delayedOrOverdue status schedule => simp only [holds, hbefore]
  | equals | lowStock | unknown => rfl

/-- A condition that counts months sees the instant to which they go back. -/
theorem toOption_holds_withinMonths {field : Text} {t : Timestamp}
    (ht : (Value.field row field).instant? = some t) (hnow : now.ahead.isSome) (months : Int) :
    ((withinMonths field months).holds row now).toOption =
      (now.instantBack? months).map fun earliest => !decide (t.instant < earliest) := by
  have hdate := now.toOption_monthsBefore months
  simp only [holds, ht, Timestamp.instantBack?]
  cases hback : now.monthsBefore months with
  | error fault => rfl
  | ok earliest =>
    rw [hback] at hdate
    obtain ⟨e, -, rfl⟩ := Option.map_eq_some_iff.mp hdate.symm
    have hbefore := Timestamp.isBefore_eq (Value.isSome_ahead_of_instant? ht)
      (t := { now with date := e }) hnow
    simp only [bind, Except.bind, hbefore, Except.toOption_ok, Option.map_some]

/-- **On clocks that agree on the instant and on how far the months go back, a condition comes to
the same.** -/
theorem toOption_holds_congr (h : now.instant = now'.instant) (hnow : now.ahead.isSome)
    (hnow' : now'.ahead.isSome)
    (hback : ∀ field months, predicate = withinMonths field months →
      now.instantBack? months = now'.instantBack? months) (row : Row) :
    (predicate.holds row now).toOption = (predicate.holds row now').toOption := by
  by_cases hp : predicate.CountsMonths
  · cases predicate with
    | withinMonths field months =>
      cases ht : (Value.field row field).instant? with
      | none => simp only [holds, ht]
      | some t =>
        rw [toOption_holds_withinMonths ht hnow, toOption_holds_withinMonths ht hnow',
          hback field months rfl]
    | _ => exact hp.elim
  · rw [holds_congr h hnow hnow' hp]

theorem toOption_allHold_congr {predicates : List Predicate}
    (h : ∀ p ∈ predicates, (p.holds row now).toOption = (p.holds row now').toOption) :
    (allHold now row predicates).toOption = (allHold now' row predicates).toOption := by
  induction predicates with
  | nil => rfl
  | cons p predicates ih =>
    rw [allHold, allHold, Except.toOption_bind, Except.toOption_bind, h p List.mem_cons_self]
    have hrest := ih fun q hq => h q (List.mem_cons_of_mem p hq)
    refine congrArg (Option.bind _) (funext fun holds => ?_)
    cases holds
    · simp only [Bool.false_eq_true, if_false]
    · simp only [if_true, hrest]

end Predicate

/-! ## Statements -/

namespace Table

open Statement Predicate

theorem toOption_filter_congr {predicates : List Predicate}
    (h : ∀ p ∈ predicates, ∀ row, (p.holds row now).toOption = (p.holds row now').toOption)
    (rows : List Row) :
    (filter predicates now rows).toOption = (filter predicates now' rows).toOption := by
  induction rows with
  | nil => rfl
  | cons row rows ih =>
    simp only [filter, Except.toOption_bind, ih, toOption_allHold_congr fun p hp => h p hp row]

theorem toOption_mapError {ε ε' α : Type} (f : ε → ε') (x : Except ε α) :
    (x.mapError f).toOption = x.toOption := by
  cases x <;> rfl

/-- A statement comes to the same on two clocks if each of its conditions does. -/
theorem toOption_execute_congr {statement : Text}
    (h : ∀ p ∈ predicates statement, ∀ row,
      (p.holds row now.asUniversal).toOption = (p.holds row now'.asUniversal).toOption)
    (tables : Tables) :
    (execute tables statement now).toOption = (execute tables statement now').toOption := by
  rw [execute, execute, Except.toOption_bind, Except.toOption_bind]
  refine congrArg (Option.bind _) (funext fun name => ?_)
  simp only [select, toOption_mapError, plan, apply, Except.toOption_bind]
  cases (rowLimit statement).toOption with
  | none => simp only [Option.bind_none]
  | some limit =>
    simp only [Option.bind_some, Except.toOption_ok]
    rw [toOption_filter_congr h]

/-! ## The last quarter -/

/-- A statement that asks for the last quarter. -/
def recentOrders : Text :=
  Text.of "SELECT * FROM sales_orders WHERE order_date >= DATEADD(quarter, -1, GETDATE())"

/-- A table of one order, of which only the date is known. -/
def orderOf (time : Timestamp) : Tables :=
  [(Text.of "sales_orders", [Row.of [("orderDate", .timestamp time)]])]

theorem predicates_recentOrders : predicates recentOrders = [.orderedLastQuarter] := by
  have hclause : whereText? recentOrders = some Condition.Atom.lastQuarter.render := by
    decide +kernel
  rw [predicates, hclause]
  exact Condition.read_atom .lastQuarter

/-- The order is selected unless it lies before the instant a quarter back. -/
theorem toOption_execute_recentOrders (time now : Timestamp) :
    (execute (orderOf time) recentOrders now).toOption =
      (now.asUniversal.instantBack? 3).map fun earliest =>
        if time.instant < earliest then [] else [Row.of [("orderDate", .timestamp time)]] := by
  have htarget : target recentOrders = .ok (Text.of "sales_orders") := by decide +kernel
  have hsort : sort? recentOrders = none := by decide +kernel
  have hlimit : rowLimit recentOrders = .ok none := by decide +kernel
  have hrows : rowsOf (orderOf time) (Text.of "sales_orders") =
      [Row.of [("orderDate", .timestamp time)]] := rfl
  have hfield : (Value.field (Row.of [("orderDate", .timestamp time)])
      (Text.of "orderDate")).instant? = some time.asUniversal := by
    rw [Value.field_of]
    rfl
  have hahead : now.asUniversal.ahead.isSome := rfl
  have hholds := toOption_holds_withinMonths hfield hahead 3
  simp only [execute, htarget, select, plan, hlimit, hsort, predicates_recentOrders, hrows, apply,
    filter, allHold, orderedLastQuarter, Except.toOption_bind, toOption_mapError,
    Except.toOption_ok, Option.bind_some]
  rw [hholds, Timestamp.instant_asUniversal]
  cases now.asUniversal.instantBack? 3 with
  | none => simp only [Option.map_none, Option.bind_none]
  | some earliest =>
    by_cases hlt : time.instant < earliest
    · simp [hlt, sort, cut]
    · simp [hlt, sort, cut]

/-- An order at the instant to which one clock goes back is not too old for a clock that selects the
same orders. -/
theorem exists_instantBack?_le
    (h : ∀ time, (execute (orderOf time) recentOrders now).toOption =
      (execute (orderOf time) recentOrders now').toOption)
    {i : Int} (hi : now.asUniversal.instantBack? 3 = some i) :
    ∃ j, now'.asUniversal.instantBack? 3 = some j ∧ j ≤ i := by
  obtain ⟨time, -, rfl⟩ := Option.map_eq_some_iff.mp hi
  have hsame := h time
  rw [toOption_execute_recentOrders, toOption_execute_recentOrders, hi, Option.map_some,
    if_neg (lt_irrefl _)] at hsame
  obtain ⟨j, hj, hselected⟩ := Option.map_eq_some_iff.mp hsame.symm
  refine ⟨j, hj, not_lt.mp fun hlt => ?_⟩
  rw [if_pos hlt] at hselected
  exact List.cons_ne_nil _ _ hselected.symm

/-- A statement that asks for the last quarter tells clocks apart that disagree on how far back it
goes. -/
theorem instantBack?_eq_of_toOption_execute
    (h : ∀ time, (execute (orderOf time) recentOrders now).toOption =
      (execute (orderOf time) recentOrders now').toOption) :
    now.asUniversal.instantBack? 3 = now'.asUniversal.instantBack? 3 := by
  have hback := fun time => (h time).symm
  cases hi : now.asUniversal.instantBack? 3 with
  | none =>
    cases hj : now'.asUniversal.instantBack? 3 with
    | none => rfl
    | some j =>
      obtain ⟨i, hsome, -⟩ := exists_instantBack?_le hback hj
      rw [hi] at hsome
      cases hsome
  | some i =>
    obtain ⟨j, hj, hle⟩ := exists_instantBack?_le h hi
    obtain ⟨k, hk, hle'⟩ := exists_instantBack?_le hback hj
    rw [hi] at hk
    cases hk
    rw [hj, le_antisymm hle' hle]

/-- **Two clocks that show one instant.**  For a statement that does not ask for the last quarter
either will do; and either will do for all statements and tables exactly if a quarter takes as many
days back from the one day shown as from the other, or the calendar does not go that far back from
either. -/
theorem execute_same_instant (h : now.instant = now'.instant) :
    (∀ statement, (∀ p ∈ predicates statement, ¬p.CountsMonths) → ∀ tables,
      (execute tables statement now).toOption = (execute tables statement now').toOption) ∧
    ((∀ statement tables,
      (execute tables statement now).toOption = (execute tables statement now').toOption) ↔
        now.date.daysBack? 3 = now'.date.daysBack? 3) := by
  have hinstant : now.asUniversal.instant = now'.asUniversal.instant := h
  have hiff : now.asUniversal.instantBack? 3 = now'.asUniversal.instantBack? 3 ↔
      now.date.daysBack? 3 = now'.date.daysBack? 3 := Timestamp.instantBack?_eq_iff hinstant
  refine ⟨fun statement hp tables => ?_, fun hall => ?_, fun hdays statement tables => ?_⟩
  · refine toOption_execute_congr (fun p hmem row => ?_) tables
    rw [holds_congr hinstant rfl rfl (hp p hmem)]
  · exact hiff.mp (instantBack?_eq_of_toOption_execute fun time => hall recentOrders (orderOf time))
  · refine toOption_execute_congr (fun p hmem row => ?_) tables
    refine toOption_holds_congr hinstant rfl rfl (fun field months hform => ?_) row
    have hmonths : months = 3 := by
      have hknown := isKnown_of_mem_predicates hmem
      rw [hform] at hknown
      exact hknown
    rw [hmonths, hiff.mpr hdays]

/-- Midnight of 1 June on a clock two hours ahead and ten in the evening of 31 May in universal time:
a quarter takes 92 days back from either. -/
theorem execute_same_instant_first_of_june :
    let now : Timestamp := ⟨⟨2023, 6, 1⟩, 0, 0, 0, 0, some 7200000000⟩
    let now' : Timestamp := ⟨⟨2023, 5, 31⟩, 22, 0, 0, 0, none⟩
    now.instant = now'.instant ∧ ∀ statement tables,
      (execute tables statement now).toOption = (execute tables statement now').toOption := by
  intro now now'
  have hinstant : now.instant = now'.instant := by decide +kernel
  exact ⟨hinstant, (execute_same_instant hinstant).2.mpr (by decide +kernel)⟩

/-- Noon of 31 May on a clock fourteen hours ahead: its quarter begins on 29 February, for want of a
31st, while that of universal time, where it is still 30 May, begins a day later by the clock.  So an
order of that 29 February is selected by the one clock only. -/
theorem toOption_execute_ne_end_of_may :
    let now : Timestamp := ⟨⟨2024, 5, 31⟩, 12, 0, 0, 0, some 50400000000⟩
    let now' : Timestamp := ⟨⟨2024, 5, 30⟩, 22, 0, 0, 0, some 0⟩
    let tables := orderOf ⟨⟨2024, 2, 29⟩, 0, 0, 0, 0, some 0⟩
    now.instant = now'.instant ∧
      (execute tables recentOrders now).toOption ≠ (execute tables recentOrders now').toOption := by
  intro now now' tables
  refine ⟨by decide +kernel, fun hsame => ?_⟩
  have hone : (execute tables recentOrders now).toOption.map List.length = some 1 := by
    decide +kernel
  have hnone : (execute tables recentOrders now').toOption.map List.length = some 0 := by
    decide +kernel
  rw [hsame, hnone] at hone
  cases hone

end Table
end QueryDesk
