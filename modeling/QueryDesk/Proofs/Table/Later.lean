import Mathlib.Data.List.Perm.Subperm
import QueryDesk.Proofs.Table.Filter
import QueryDesk.Proofs.Table.Instants

/-!
# What a statement selects later

A condition on a date that counts no months is never lost as time passes: what was before the
present stays before it (`Predicate.holds_later`).  So a statement without a row limit that counts
no months (`Plan.IsOpenEnded`) selects later what it selects now and possibly more
(`Table.execute_later`): as many times over, and in the same order where it does not sort.
-/

set_option autoImplicit false

namespace QueryDesk

variable {now later : Timestamp} {row : Row}

/-! ## Conditions -/

/-- What is before the present is before what comes later. -/
theorem Timestamp.isBefore_later {t : Timestamp} (h : now.instant ≤ later.instant)
    (hnow : now.ahead.isSome) (hlater : later.ahead.isSome) (ht : t.ahead.isSome)
    (hbefore : t.isBefore now = .ok true) : t.isBefore later = .ok true := by
  rw [isBefore_eq ht hnow] at hbefore
  rw [isBefore_eq ht hlater]
  have hlt : t.instant < now.instant := of_decide_eq_true (Except.ok.inj hbefore)
  exact congrArg Except.ok (decide_eq_true (hlt.trans_le h))

namespace Predicate

/-- **A row that meets a condition meets it later**, unless the condition counts months. -/
theorem holds_later {predicate : Predicate} (h : now.instant ≤ later.instant)
    (hnow : now.ahead.isSome) (hlater : later.ahead.isSome) (hp : ¬predicate.CountsMonths)
    (hholds : predicate.holds row now = .ok true) : predicate.holds row later = .ok true := by
  cases predicate with
  | equals | lowStock | unknown => exact hholds
  | withinMonths field months => exact absurd trivial hp
  | beforeNow field =>
    rw [holds] at hholds ⊢
    cases ht : (Value.field row field).instant? with
    | none => rfl
    | some t =>
      rw [ht] at hholds
      exact Timestamp.isBefore_later h hnow hlater (Value.isSome_ahead_of_instant? ht) hholds
  | delayedOrOverdue status schedule =>
    rw [holds] at hholds ⊢
    obtain ⟨isDelayed, hdelayed, hholds⟩ := Except.bind_eq_ok_iff.mp hholds
    rw [hdelayed, Except.ok_bind]
    cases isDelayed with
    | true => rfl
    | false =>
      rw [if_neg Bool.false_ne_true] at hholds
      obtain ⟨isGoing, hgoing, hholds⟩ := Except.bind_eq_ok_iff.mp hholds
      rw [if_neg Bool.false_ne_true, hgoing, Except.ok_bind]
      cases isGoing with
      | false => cases hholds
      | true =>
        rw [if_pos rfl] at hholds ⊢
        -- Unlike a plain condition on a date, this one wants the schedule to be known.
        cases ht : (Value.field row schedule).instant? with
        | none =>
          rw [ht] at hholds
          exact hholds
        | some t =>
          rw [ht] at hholds
          exact Timestamp.isBefore_later h hnow hlater (Value.isSome_ahead_of_instant? ht) hholds

theorem allHold_later {predicates : List Predicate} (h : now.instant ≤ later.instant)
    (hnow : now.ahead.isSome) (hlater : later.ahead.isSome)
    (hp : ∀ p ∈ predicates, ¬p.CountsMonths) (hholds : allHold now row predicates = .ok true) :
    allHold later row predicates = .ok true := by
  induction predicates with
  | nil => rfl
  | cons p predicates ih =>
    obtain ⟨hp, hrest⟩ := List.forall_mem_cons.mp hp
    rw [allHold] at hholds ⊢
    obtain ⟨b, hb, hholds⟩ := Except.bind_eq_ok_iff.mp hholds
    cases b with
    | false => cases hholds
    | true =>
      rw [holds_later h hnow hlater hp hb]
      exact ih hrest hholds

end Predicate

/-- Says that a plan has no row limit and counts no months. -/
structure Plan.IsOpenEnded (plan : Plan) : Prop where
  unlimited : plan.limit = none
  timeless : ∀ p ∈ plan.predicates, ¬p.CountsMonths

/-! ## Rows -/

namespace Table

/-- Of the rows of a table those that are kept are kept later. -/
theorem sublist_filter_later {predicates : List Predicate} {rows kept keptLater : List Row}
    (h : now.instant ≤ later.instant) (hnow : now.ahead.isSome) (hlater : later.ahead.isSome)
    (hp : ∀ p ∈ predicates, ¬p.CountsMonths) (hkept : filter predicates now rows = .ok kept)
    (hkeptLater : filter predicates later rows = .ok keptLater) : kept.Sublist keptLater := by
  induction rows generalizing kept keptLater with
  | nil =>
    cases hkept
    exact List.nil_sublist _
  | cons row rows ih =>
    rw [filter] at hkept hkeptLater
    obtain ⟨keep, hkeep, hkept⟩ := Except.bind_eq_ok_iff.mp hkept
    obtain ⟨others, hothers, hkept⟩ := Except.bind_eq_ok_iff.mp hkept
    obtain ⟨keepLater, hkeepLater, hkeptLater⟩ := Except.bind_eq_ok_iff.mp hkeptLater
    obtain ⟨othersLater, hothersLater, hkeptLater⟩ := Except.bind_eq_ok_iff.mp hkeptLater
    obtain rfl := Except.ok.inj hkept
    obtain rfl := Except.ok.inj hkeptLater
    have hsub := ih hothers hothersLater
    cases keep with
    | true =>
      rw [Predicate.allHold_later h hnow hlater hp hkeep] at hkeepLater
      obtain rfl := Except.ok.inj hkeepLater
      exact hsub.cons_cons row
    | false =>
      cases keepLater with
      | true => exact hsub.cons row
      | false => exact hsub

/-- Without a row limit a plan keeps some of the rows and sorts them. -/
theorem exists_filter_of_apply {plan : Plan} {rows out : List Row} (hlimit : plan.limit = none)
    (h : apply plan now rows = .ok out) : ∃ kept, filter plan.predicates now rows = .ok kept ∧
      out.Perm kept ∧ (plan.sort = none → out = kept) := by
  rw [apply] at h
  obtain ⟨kept, hkept, h⟩ := Except.bind_eq_ok_iff.mp h
  obtain ⟨sorted, hsorted, h⟩ := Except.bind_eq_ok_iff.mp h
  rw [hlimit] at h
  obtain rfl : sorted = out := Except.ok.inj h
  refine ⟨kept, hkept, ?_, fun hnone => ?_⟩
  · cases hkey : plan.sort with
    | none =>
      rw [hkey] at hsorted
      exact .of_eq (Except.ok.inj hsorted).symm
    | some key =>
      rw [hkey] at hsorted
      exact Sorting.perm_of_sort hsorted
  · rw [hnone] at hsorted
    exact (Except.ok.inj hsorted).symm

/-- **As time passes rows only come in.**  A statement without a row limit that counts no months
selects later every row that it selects now, as many times over; and without a sort order it selects
them in the same order. -/
theorem execute_later {tables : Tables} {statement : Text} {plan : Plan} {rows rowsLater : List Row}
    (hplan : Statement.plan statement = .ok plan) (hopen : plan.IsOpenEnded)
    (h : now.instant ≤ later.instant) (hrows : execute tables statement now = .ok rows)
    (hrowsLater : execute tables statement later = .ok rowsLater) :
    rows.Subperm rowsLater ∧ (plan.sort = none → rows.Sublist rowsLater) := by
  obtain ⟨name, made, hname, hmade, happly⟩ := exists_apply_of_execute hrows
  obtain ⟨name', made', hname', hmade', happlyLater⟩ := exists_apply_of_execute hrowsLater
  obtain rfl := Except.ok.inj (hname.symm.trans hname')
  obtain rfl := Except.ok.inj (hmade.symm.trans hplan)
  obtain rfl := Except.ok.inj (hmade'.symm.trans hplan)
  obtain ⟨kept, hkept, hperm, hsame⟩ := exists_filter_of_apply hopen.unlimited happly
  obtain ⟨keptLater, hkeptLater, hpermLater, hsameLater⟩ :=
    exists_filter_of_apply hopen.unlimited happlyLater
  have hinstant : now.asUniversal.instant ≤ later.asUniversal.instant := h
  have hsub := sublist_filter_later hinstant rfl rfl hopen.timeless hkept hkeptLater
  refine ⟨(hperm.subperm.trans hsub.subperm).trans hpermLater.symm.subperm, fun hnone => ?_⟩
  rw [hsame hnone, hsameLater hnone]
  exact hsub

/-- An invoice of which only the due date is known. -/
def invoiceDue (time : Timestamp) : Row := Row.of [("dueDate", .timestamp time)]

/-- Of two invoices one is due by February, on a clock behind universal time, and both by April. -/
theorem execute_later_two_invoices :
    let statement := Text.of "SELECT * FROM invoices WHERE due_date < NOW()"
    let tables := [(Text.of "invoices", [invoiceDue ⟨⟨2024, 3, 1⟩, 0, 0, 0, 0, none⟩,
      invoiceDue ⟨⟨2024, 1, 31⟩, 22, 0, 0, 0, some (-3600000000)⟩])]
    let now := Timestamp.midnight ⟨2024, 2, 1⟩
    let later : Timestamp := ⟨⟨2024, 4, 1⟩, 0, 0, 0, 0, none⟩
    ∃ plan rows rowsLater, Statement.plan statement = .ok plan ∧ plan.IsOpenEnded ∧
      now.instant ≤ later.instant ∧
      execute tables statement now = .ok rows ∧ rows.length = 1 ∧
      execute tables statement later = .ok rowsLater ∧ rowsLater.length = 2 ∧
      rows.Subperm rowsLater ∧ (plan.sort = none → rows.Sublist rowsLater) := by
  intro statement tables now later
  have hpredicates : Statement.predicates statement = [.beforeNow (Text.of "dueDate")] := by
    have hclause : Statement.whereText? statement =
        some (Condition.Atom.beforeNow .dueDate .now).render := by decide +kernel
    rw [Statement.predicates, hclause]
    exact Condition.read_atom _
  have hplan : Statement.plan statement = .ok ⟨[.beforeNow (Text.of "dueDate")], none, none⟩ := by
    have hlimit : Statement.rowLimit statement = .ok none := by decide +kernel
    have hsort : Statement.sort? statement = none := by decide +kernel
    rw [Statement.plan, hlimit, Except.ok_bind, hpredicates, hsort]
  have hopen : Plan.IsOpenEnded ⟨[.beforeNow (Text.of "dueDate")], none, none⟩ :=
    ⟨rfl, by simp [Predicate.CountsMonths]⟩
  have hle : now.instant ≤ later.instant := by decide +kernel
  have hone : (execute tables statement now).toOption.map List.length = some 1 := by
    decide +kernel
  have htwo : (execute tables statement later).toOption.map List.length = some 2 := by
    decide +kernel
  obtain ⟨rows, hrows, hlength⟩ := Option.map_eq_some_iff.mp hone
  obtain ⟨rowsLater, hrowsLater, hlengthLater⟩ := Option.map_eq_some_iff.mp htwo
  have hrows := Except.ok_of_toOption hrows
  have hrowsLater := Except.ok_of_toOption hrowsLater
  exact ⟨_, rows, rowsLater, hplan, hopen, hle, hrows, hlength, hrowsLater, hlengthLater,
    execute_later hplan hopen hle hrows hrowsLater⟩

end Table
end QueryDesk
