import QueryDesk.Proofs.Business.Typed
import QueryDesk.Proofs.Calendar.Months
import QueryDesk.Proofs.Statement.Recasing

/-!
# What the case of a statement changes

Two statements that differ in case only, outside literals, are run on the same table, with the same
row limit, and with predicates and a sort order that are alike.  Whatever the tables hold, they come
to the same rows or fail in the same way, provided that the few texts which a plan keeps as they are
spelled are spelled alike (`execute_recased`).

They need not be.  A status, a priority, a region and a column without another name are looked for
in rows as the statement spells them, and a row knows none of them in capitals.
-/

set_option autoImplicit false

namespace QueryDesk
namespace Table

open Statement

/-- Says that two results are equal, or that both statements failed on the same table. -/
def OutcomesAgree (outcome outcome' : Except Fault (List Row)) : Prop :=
  outcome = outcome' ∨ ∃ table cause cause',
    outcome = .error (.execution table cause) ∧ outcome' = .error (.execution table cause')

theorem select_agree {s s' : Text} (hpredicates : predicates s = predicates s')
    (hsort : sort? s = sort? s') (hlimit : LimitsAgree (rowLimit s) (rowLimit s')) (table : Text)
    (rows : List Row) (now : Timestamp) :
    OutcomesAgree (select s table rows now) (select s' table rows now) := by
  rcases hlimit with heq | ⟨form, value, value', hbad, hbad'⟩
  · exact .inl (by rw [select, select, plan, plan, heq, hpredicates, hsort])
  · exact .inr ⟨table, _, _, by rw [select, plan, hbad]; rfl, by rw [select, plan, hbad']; rfl⟩

/-- **The case of a statement outside literals does not matter, but for the columns and values that
its plan keeps as they are spelled.** -/
theorem execute_recased {s s' : Text} (h : Literal.lowered s = Literal.lowered s') :
    target s = target s' ∧ LimitsAgree (rowLimit s) (rowLimit s') ∧
      List.Forall₂ (Condition.PredicatesAlike Glyph.SameLetter) (predicates s) (predicates s') ∧
      Option.Rel (SortsAlike Glyph.SameLetter) (sort? s) (sort? s') ∧
      (spelled s = spelled s' → ∀ (tables : Tables) (now : Timestamp),
        OutcomesAgree (execute tables s now) (execute tables s' now)) := by
  have halike : Alike .recasing [] s s' := .of_lowered_eq h
  have htarget := target_eq_of_alike halike
  have hlimit := rowLimit_alike halike
  have hpredicates := predicates_alike Likeness.isQuiet_recasing halike
  have hsort := sort?_alike halike
  refine ⟨htarget, hlimit, hpredicates, hsort, fun hspelled tables now => ?_⟩
  obtain ⟨hsame, hcolumn⟩ := predicates_eq_of_spelled hpredicates hspelled
  rw [execute, execute, htarget]
  cases target s' with
  | error fault => exact .inl rfl
  | ok name => exact select_agree hsame (sort?_eq_of_spelled hsort hcolumn) hlimit name _ now

/-- Capitals in keywords, in a column with another name and in the name of the present. -/
theorem execute_recased_overdue :
    let s := Text.of "SELECT * FROM INVOICES WHERE DUE_DATE < NOW() ORDER BY Due_Date DESC LIMIT 3"
    let s' := Text.of "select * from invoices where due_date < now() order by due_date desc limit 3"
    Literal.lowered s = Literal.lowered s' ∧ spelled s = spelled s' ∧
      ∀ (tables : Tables) (now : Timestamp),
        OutcomesAgree (execute tables s now) (execute tables s' now) := by
  intro s s'
  have hlowered : Literal.lowered s = Literal.lowered s' := by decide +kernel
  have hspelled : spelled s = spelled s' := by decide +kernel
  exact ⟨hlowered, hspelled, (execute_recased hlowered).2.2.2.2 hspelled⟩

/-- One work order, with a known status. -/
def delayedWork : Dataset :=
  { Dataset.empty with workOrders := [⟨Text.of "1", Text.of "WO-1", Text.of "Pump", none,
      Text.of "delayed", Text.of "high", none, none, none⟩] }

/-- A status in capitals is found in no row. -/
theorem not_outcomesAgree_status_in_capitals :
    let s := Text.of "SELECT * FROM work_orders WHERE STATUS = 'delayed'"
    let s' := Text.of "SELECT * FROM work_orders WHERE status = 'delayed'"
    let now : Timestamp := ⟨⟨2024, 6, 15⟩, 0, 0, 0, 0, some 0⟩
    Literal.lowered s = Literal.lowered s' ∧ delayedWork.IsTyped ∧ now.HasQuarterBehind ∧
      ¬ OutcomesAgree (execute delayedWork.tables s now) (execute delayedWork.tables s' now) := by
  intro s s' now
  have hnone : (execute delayedWork.tables s now).toOption.map (·.length) = some 0 := by
    decide +kernel
  have hone : (execute delayedWork.tables s' now).toOption.map (·.length) = some 1 := by
    decide +kernel
  have htyped : delayedWork.IsTyped := by
    refine ⟨?_, ?_, ?_⟩ <;> simp [delayedWork, Dataset.empty]
  refine ⟨by decide +kernel, htyped, ⟨by decide, by decide⟩, ?_⟩
  rintro (heq | ⟨table, cause, cause', hbad, -⟩)
  · rw [heq, hone] at hnone
    cases hnone
  · rw [hbad] at hnone
    cases hnone

end Table
end QueryDesk
