import QueryDesk.Conversation.Talk
import QueryDesk.Proofs.Desk.Written
import QueryDesk.Proofs.Results

/-!
# Rows on the screen

The lines that are shown for rows are a header with their number, the first of them, and the number
of those that are left (`Talk.perform_showRows`).  A row is shown by the same line before it is kept
as text and after it was read back (`Talk.rowText_inWriting`).
-/

set_option autoImplicit false

namespace QueryDesk

open Step

/-! ## What is said -/

namespace Session

/-- The session with more on the screen. -/
def showing (session : Session) (more : List Shown) : Session :=
  { session with shown := session.shown ++ more }

@[simp] theorem showing_nil (session : Session) : session.showing [] = session := by
  rw [showing, List.append_nil]

@[simp] theorem showing_showing (session : Session) (more further : List Shown) :
    (session.showing more).showing further = session.showing (more ++ further) := by
  rw [showing, showing, showing, List.append_assoc]

end Session

namespace Talk

variable (session : Session)

theorem perform_say (t : Text) :
    perform (say t) session = (.ok (), session.showing [.line t]) := rfl

/-- The lines of rows, each given by its text, of which so many are shown. -/
def rowLines (preview : Nat) (texts : List Text) : List Shown :=
  .line (Text.of "Rows: " ++ Number.digits texts.length) ::
    ((texts.take preview).map .line ++
      if preview < texts.length then
        [.line (Text.of "  ... " ++ Number.digits (texts.length - preview) ++
          Text.of " more row(s)")]
      else [])

/-- Rows that have a text are shown one after the other. -/
theorem perform_forIn_say {rows : List Row} {text : Row → Text}
    (h : ∀ row ∈ rows, rowText row = .ok (text row)) :
    perform (forIn rows PUnit.unit fun row _ => do
      say (← rowText row)
      pure (ForInStep.yield PUnit.unit) : Talk PUnit) session =
      (.ok ⟨⟩, session.showing ((rows.map text).map .line)) := by
  induction rows generalizing session with
  | nil => simp
  | cons row rows ih =>
    obtain ⟨hrow, hrows⟩ := List.forall_mem_cons.mp h
    have hsaid : perform (do
        say (← rowText row)
        pure (ForInStep.yield PUnit.unit) : Talk (ForInStep PUnit)) session =
        (.ok (.yield ⟨⟩), session.showing [.line (text row)]) := by
      rw [hrow]
      rfl
    rw [List.forIn_cons, perform_bind_of_ok hsaid]
    show perform (forIn rows PUnit.unit _) _ = _
    rw [ih _ hrows, Session.showing_showing]
    rfl

/-- **The lines of rows.** -/
theorem perform_showRows {rows : List Row} {text : Row → Text}
    (h : ∀ row ∈ rows, rowText row = .ok (text row)) (preview : Nat) :
    perform (showRows preview rows) session =
      (.ok (), session.showing (rowLines preview (rows.map text))) := by
  have hfront := fun row (hrow : row ∈ rows.take preview) => h row (List.mem_of_mem_take hrow)
  have hcut : Table.cut (some (preview : Int)) rows = rows.take preview := rfl
  rw [showRows, perform_bind_of_ok (perform_say session _), hcut,
    perform_bind_of_ok (perform_forIn_say _ hfront), Session.showing_showing]
  by_cases hlt : preview < rows.length
  · have hhidden : (rows.length : Int) - preview = ((rows.length - preview : Nat) : Int) := by omega
    rw [hhidden, if_pos (by omega), perform_say, Session.showing_showing]
    simp [rowLines, hlt, Number.signedDigits]
  · rw [if_neg (by omega)]
    simp [rowLines, hlt]

/-! ## Rows that were read back -/

/-- A value in writing is shown as the value itself. -/
theorem valueText_inWriting (v : Value) : valueText v.inWriting = valueText v := by
  cases v <;> rfl

/-- **A row is shown by the same line** before it is written and after. -/
theorem rowText_inWriting (row : Row) : rowText row.inWriting = rowText row := by
  have hfields : row.inWriting.mapM fieldText = row.mapM fieldText := by
    rw [Row.inWriting, List.mapM_map]
    congr 1
    funext f
    rw [Function.comp_apply, fieldText, valueText_inWriting, fieldText]
  rw [rowText, hfields, rowText]

theorem exists_valueText {v : Value} (h : v.IsStored) : ∃ t, valueText v = .ok t := by
  cases v with
  | null | timestamp => exact ⟨_, rfl⟩
  | text | whole => exact h.exists_written
  | _ => exact h.elim

theorem exists_fieldTexts {row : Row} (h : ∀ f ∈ row, ∃ t, fieldText f = .ok t) :
    ∃ ts, row.mapM fieldText = .ok ts := by
  induction row with
  | nil => exact ⟨[], rfl⟩
  | cons f row ih =>
    obtain ⟨⟨t, ht⟩, hrow⟩ := List.forall_mem_cons.mp h
    obtain ⟨ts, hts⟩ := ih hrow
    exact ⟨t :: ts, by rw [List.mapM_cons, ht, hts]; rfl⟩

/-- Each row of a typed dataset has a line. -/
theorem exists_rowText {row : Row} (h : row.IsTyped) (hnamed : row.IsNamed) :
    ∃ t, rowText row = .ok t := by
  have hfields : ∀ f ∈ row, ∃ t, fieldText f = .ok t := by
    intro f hf
    obtain ⟨t, ht⟩ := exists_valueText (hnamed.field_eq hf ▸ h.stored f.1)
    exact ⟨_, by rw [fieldText, ht]; rfl⟩
  obtain ⟨ts, hts⟩ := exists_fieldTexts hfields
  exact ⟨_, by rw [rowText, hts]; rfl⟩

/-- The line of a row, if it has one. -/
def rowLine (row : Row) : Text := (rowText row).toOption.getD []

theorem rowLine_inWriting (row : Row) : rowLine row.inWriting = rowLine row := by
  rw [rowLine, rowText_inWriting, rowLine]

theorem rowText_eq {row : Row} (h : row.IsTyped) (hnamed : row.IsNamed) :
    rowText row = .ok (rowLine row) := by
  obtain ⟨t, ht⟩ := exists_rowText h hnamed
  rw [rowLine, ht]
  rfl

end Talk
end QueryDesk
