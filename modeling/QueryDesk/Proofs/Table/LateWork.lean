import Mathlib.Data.List.Basic
import QueryDesk.Proofs.Table.Reports

/-!
# Late work

Of all alternatives only one form is understood: work that is delayed, or in progress and past its
date.  It is tested as a whole, and it treats a missing date otherwise than the test for dates does,
which never keeps a row out for want of one.  The form selects what its two branches select apart
from each other, if the rows without a date are left out of the second (`execute_lateStatement`):
each row of either branch once, in the order of the table.
-/

set_option autoImplicit false

namespace QueryDesk

open Statement Condition

/-! ## Rows of work orders -/

/-- Tests that the work of a row has a date. -/
def Row.isScheduled (row : Row) : Bool :=
  match Value.field row (Text.of "scheduledDate") with
  | .null => false
  | _ => true

theorem WorkOrder.isScheduled_row (w : WorkOrder) : w.row.isScheduled = w.scheduledDate.isSome := by
  rw [Row.isScheduled, w.field_scheduledDate]
  cases w.scheduledDate <;> rfl

namespace Predicate

variable {row : Row} {now : Timestamp} {t? : Option Timestamp}

/-- A date that is missing is before the present. -/
theorem holds_beforeNow? {name : Text} (h : Value.field row name = .ofTimestamp? t?)
    (hnow : now.ahead.isSome) :
    (beforeNow name).holds row now = .ok (t?.all fun t => decide (t.instant < now.instant)) := by
  cases t? with
  | none =>
    rw [holds, h]
    rfl
  | some t => exact holds_beforeNow h hnow

/-- For late work the date has to be known. -/
theorem holds_lateWork {status : Text} (hstatus : Value.field row (Text.of "status") = .text status)
    (hschedule : Value.field row (Text.of "scheduledDate") = .ofTimestamp? t?)
    (hnow : now.ahead.isSome) :
    lateWork.holds row now = .ok (decide (status = Text.of "delayed") ||
      (decide (status = Text.of "in-progress") &&
        t?.any fun t => decide (t.instant < now.instant))) := by
  have hsame : ∀ name : Text, (Value.text status).same (.text name) = .ok (decide (status = name)) :=
    fun name => congrArg Except.ok (Bool.beq_eq_decide_eq status name)
  rw [lateWork, holds, hstatus, hschedule, delayed, inProgress, hsame, hsame, Except.ok_bind,
    Except.ok_bind]
  generalize decide (status = Text.of "delayed") = delayed
  generalize decide (status = Text.of "in-progress") = going
  cases t? with
  | none => cases delayed <;> cases going <;> rfl
  | some t =>
    have hbefore := Timestamp.isBefore_eq (s := t.asUniversal) rfl hnow
    rw [Timestamp.instant_asUniversal] at hbefore
    cases delayed with
    | true => rfl
    | false =>
      cases going with
      | true => exact hbefore
      | false => rfl

end Predicate

/-! ## The form and its branches -/

namespace Table

/-- Delayed work. -/
def delayedStatement : Text := Text.of "SELECT * FROM work_orders WHERE status = 'delayed'"

/-- Work in progress that is past its date. -/
def pastDueStatement : Text :=
  Text.of ("SELECT * FROM work_orders WHERE " ++
    "status = 'in-progress' AND scheduled_date < GETDATE()")

/-- Late work. -/
def lateStatement : Text :=
  Text.of ("SELECT * FROM work_orders WHERE " ++
    "status = 'delayed' OR (status = 'in-progress' AND scheduled_date < GETDATE())")

theorem delayed_ne_nil : Text.of "delayed" ≠ [] := by decide

theorem isPlain_delayed : ∀ g ∈ Text.of "delayed", isPlain g = true := by decide

/-- Work that is delayed. -/
def delayedBranch : Conjunction :=
  .one (.atom (.equals .status ⟨Text.of "delayed", delayed_ne_nil, isPlain_delayed⟩))

/-- Work that is in progress and past its date. -/
def pastDueBranch : Conjunction :=
  .and (.atom (.equals .status ⟨Text.of "in-progress", by decide, by decide⟩))
    (.one (.atom (.beforeNow .scheduledDate .getdate)))

theorem asks_delayedStatement :
    Asks delayedStatement (Text.of "work_orders") none (.one delayedBranch) := by
  constructor <;> decide +kernel

theorem asks_pastDueStatement :
    Asks pastDueStatement (Text.of "work_orders") none (.one pastDueBranch) := by
  constructor <;> decide +kernel

theorem asks_lateStatement : Asks lateStatement (Text.of "work_orders") none
    (.or delayedBranch (.one (.one (.group (.one pastDueBranch))))) := by
  constructor <;> decide +kernel

variable (d : Dataset) (now : Timestamp)

theorem execute_delayedStatement : execute d.tables delayedStatement now =
    .ok ((d.workOrders.filter fun w => w.status = Text.of "delayed").map (·.row)) := by
  refine asks_delayedStatement.execute_eq rfl fun w _ => ?_
  exact (Predicate.allHold_cons (Predicate.holds_equals w.field_status _) rfl).trans
    (by rw [Bool.and_true])

theorem execute_pastDueStatement : execute d.tables pastDueStatement now =
    .ok ((d.workOrders.filter fun w => decide (w.status = Text.of "in-progress") &&
      w.scheduledDate.all fun t => decide (t.instant < now.instant)).map (·.row)) := by
  refine asks_pastDueStatement.execute_eq rfl fun w _ => ?_
  exact (Predicate.allHold_cons (Predicate.holds_equals w.field_status _)
    (Predicate.allHold_cons (Predicate.holds_beforeNow? w.field_scheduledDate rfl) rfl)).trans
      (by rw [Bool.and_true]; rfl)

theorem execute_lateStatement_eq : execute d.tables lateStatement now =
    .ok ((d.workOrders.filter fun w => decide (w.status = Text.of "delayed") ||
      (decide (w.status = Text.of "in-progress") &&
        w.scheduledDate.any fun t => decide (t.instant < now.instant))).map (·.row)) := by
  refine asks_lateStatement.execute_eq rfl fun w _ => ?_
  exact (Predicate.allHold_cons
    (Predicate.holds_lateWork w.field_status w.field_scheduledDate rfl) rfl).trans
      (by rw [Bool.and_true]; rfl)

/-- What meets one of two tests that exclude each other, apart. -/
theorem perm_filter_or {α : Type} {p q : α → Bool} (h : ∀ x, p x = true → q x = false)
    (xs : List α) : (xs.filter fun x => p x || q x).Perm (xs.filter p ++ xs.filter q) := by
  have hfirst : ∀ x, (p x && (p x || q x)) = p x := fun x => by cases p x <;> rfl
  have hsecond : ∀ x, (!p x && (p x || q x)) = q x := by
    intro x
    cases hp : p x with
    | false => rfl
    | true => exact (h x hp).symm
  have hparts := List.filter_append_perm p (xs.filter fun x => p x || q x)
  simp only [List.filter_filter, hfirst, hsecond] at hparts
  exact hparts.symm

/-- **Late work is what its branches select**: the rows of the form stand in the order of the table,
and they are those of the first branch together with those of the second that have a date, each
once. -/
theorem execute_lateStatement : ∃ delayed pastDue late,
    execute d.tables delayedStatement now = .ok delayed ∧
    execute d.tables pastDueStatement now = .ok pastDue ∧
    execute d.tables lateStatement now = .ok late ∧
    late.Sublist (rowsOf d.tables (Text.of "work_orders")) ∧
    late.Perm (delayed ++ pastDue.filter Row.isScheduled) := by
  refine ⟨_, _, _, execute_delayedStatement d now, execute_pastDueStatement d now,
    execute_lateStatement_eq d now, List.filter_sublist.map _, ?_⟩
  have hdated : ∀ w : WorkOrder, (w.row.isScheduled &&
      (decide (w.status = Text.of "in-progress") &&
        w.scheduledDate.all fun t => decide (t.instant < now.instant))) =
      (decide (w.status = Text.of "in-progress") &&
        w.scheduledDate.any fun t => decide (t.instant < now.instant)) := by
    intro w
    rw [w.isScheduled_row]
    cases w.scheduledDate <;> simp
  have hapart : ∀ w : WorkOrder, decide (w.status = Text.of "delayed") = true →
      (decide (w.status = Text.of "in-progress") &&
        w.scheduledDate.any fun t => decide (t.instant < now.instant)) = false := by
    intro w hw
    rw [of_decide_eq_true hw]
    rfl
  rw [List.filter_map, List.filter_filter, ← List.map_append]
  simp only [Function.comp_apply, hdated]
  exact (perm_filter_or hapart _).map _

end Table
end QueryDesk
