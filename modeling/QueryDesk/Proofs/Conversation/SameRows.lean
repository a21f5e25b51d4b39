import QueryDesk.Proofs.Conversation.Rows
import QueryDesk.Proofs.Desk.Discreet
import QueryDesk.Proofs.Table.Filter
import QueryDesk.Proofs.Text.Trim

/-!
# Two ways to the same rows

A question is answered with the rows of the statement that an agent returns for it, which were kept
as text and read back; a statement behind its mark is run, and its rows are shown as they are.  By
a clock that stands still both ways show the same lines (`Talk.answerLine_same_rows`).

A statement without outer blanks that stands behind the mark of statements is handed over as it is
(`Command.read_statement`), whatever blanks and signs it has inside.
-/

set_option autoImplicit false

namespace QueryDesk

/-! ## Statements behind their mark -/

namespace Command

variable {s : Text}

theorem behindFirstWord_mark (h : s.IsTight) :
    behindFirstWord (statementMark ++ .char ' ' :: s) = s := by
  have hmark : ∀ g ∈ statementMark, (!g.isBlank) = true := by decide
  have hspace : Glyph.isBlank (.char ' ') = true := by decide
  rw [behindFirstWord, List.dropWhile_append_of_pos hmark,
    List.dropWhile_cons_of_neg (by simp [hspace]), List.dropWhile_cons_of_pos hspace]
  exact Text.trimStart_eq_self h.head

/-- No line with the mark ends the conversation. -/
theorem lower_mark_not_mem_leaving (rest : Text) : (statementMark ++ rest).lower ∉ leaving := by
  have hmark : statementMark.lower = statementMark := by decide
  have hlower : (statementMark ++ rest).lower = statementMark ++ rest.lower := by
    rw [Text.lower, List.flatMap_append, ← Text.lower, hmark, Text.lower]
  have hword : ∀ word ∈ leaving, ¬statementMark <+: word := by decide
  intro h
  exact hword _ h (hlower ▸ List.prefix_append _ _)

/-- **A statement behind the mark is handed over as it is.** -/
theorem read_statement (h : s.IsTight) (hne : s ≠ []) :
    read (Text.of "/sql " ++ s) = .statement s := by
  have hline : Text.of "/sql " ++ s = statementMark ++ .char ' ' :: s := by
    have hmark : Text.of "/sql " = statementMark ++ [.char ' '] := by decide
    rw [hmark, List.append_assoc, List.singleton_append]
  have htight : (statementMark ++ .char ' ' :: s).IsTight := by
    refine ⟨fun g hg => ?_, fun g hg => h.last g ?_⟩
    · obtain rfl : g = .char '/' := by simpa [statementMark, Text.of] using hg.symm
      decide
    · obtain ⟨a, more, rfl⟩ := List.exists_cons_of_ne_nil hne
      rwa [List.getLast?_append_cons, List.getLast?_cons_cons] at hg
  have hnonempty : (statementMark ++ .char ' ' :: s).isEmpty = false := by simp
  have hleaving : leaving.contains (statementMark ++ .char ' ' :: s).lower = false := by
    rw [Bool.eq_false_iff, Ne, List.contains_iff_mem]
    exact lower_mark_not_mem_leaving _
  have hprefix : statementMark.isPrefixOf (statementMark ++ .char ' ' :: s) = true :=
    List.isPrefixOf_iff_prefix.mpr (List.prefix_append _ _)
  rw [hline, read, Text.trim_eq_self htight, hnonempty, hleaving, hprefix, behindFirstWord_mark h]
  simp [hne]

end Command

namespace Talk

open Step

variable (session : Session) (preview : Nat) {rows : List Row}

/-! ## The answer to a question -/

/-- The line that a label introduces, if there is anything to show. -/
def labelled (label : String) (t : Option Text) : List Shown :=
  ((t.filter (!·.isEmpty)).map fun t => .line (Text.of label ++ t)).toList

theorem perform_sayLabelled (label : String) (t : Option Text) :
    perform (sayLabelled label t) session = (.ok (), session.showing (labelled label t)) := by
  rw [sayLabelled, labelled]
  cases t.filter (!·.isEmpty) with
  | none => simp
  | some t => rfl

/-- The lines about a query that stand in front of its rows. -/
def headLines (r : QueryRecord) : List Shown :=
  .line (Text.of "[" ++ r.id ++ Text.of "] status: " ++ r.outcome.status) ::
    (labelled "Interpretation: " r.outcome.interpretation? ++
      labelled "SQL: " r.outcome.statement?)

/-- The line behind the rows of a query. -/
def lastLine (milliseconds : Int) : Shown :=
  .line (Text.of "Completed in " ++ Number.signedDigits milliseconds ++ Text.of " ms")

theorem keptRows_eq {kept : Text}
    (h : Json.read kept = .ok (.list (rows.map fun row => .record row.inWriting))) :
    keptRows kept = rows.map Row.inWriting := by
  rw [keptRows, h]
  dsimp only
  rw [List.filterMap_map]
  exact congrFun List.filterMap_eq_map rows

/-- **A query that succeeded** is shown with its rows, as they were before they were kept. -/
theorem perform_showRecord {r : QueryRecord} {statement kept : Text} {interpretation : Option Text}
    {milliseconds : Int}
    (hsuccess : r.outcome = .success statement interpretation kept milliseconds)
    (hkept : Json.read kept = .ok (.list (rows.map fun row => .record row.inWriting)))
    (hrows : ∀ row ∈ rows, rowText row = .ok (rowLine row)) :
    perform (showRecord preview r) session = (.ok (), session.showing
      (headLines r ++ (rowLines preview (rows.map rowLine) ++ [lastLine milliseconds]))) := by
  have hread : ∀ row ∈ rows.map Row.inWriting, rowText row = .ok (rowLine row) := by
    refine List.forall_mem_map.mpr fun row hrow => ?_
    rw [rowText_inWriting, rowLine_inWriting]
    exact hrows row hrow
  have hlines : (rows.map Row.inWriting).map rowLine = rows.map rowLine := by
    rw [List.map_map]
    exact List.map_congr_left fun row _ => rowLine_inWriting row
  rw [showRecord, perform_bind_of_ok (perform_say ..), perform_bind_of_ok (perform_sayLabelled ..),
    perform_bind_of_ok (perform_sayLabelled ..), hsuccess]
  dsimp only
  rw [keptRows_eq hkept, perform_bind_of_ok (perform_showRows _ hread preview), perform_say, hlines]
  simp [headLines, hsuccess, lastLine]

/-! ## Both ways -/

section

variable {α : Type}

theorem perform_ofAction (step : Action α) : perform (ofAction step) session =
    ((step.perform session.desk).1,
      { session with desk := (step.perform session.desk).2 }) := rfl

theorem perform_attempted (step : Talk α) : perform step.attempted session =
    (.ok (perform step session).1, (perform step session).2) := rfl

end

variable {office : Office} {statement : Text} {clock : Supply Timestamp}

/-- A statement that can be run is shown with its rows. -/
theorem perform_runStatement (htables : office.tables = none)
    (hclock : session.desk.clock = some clock)
    (h : Table.execute session.desk.dataset.tables statement clock.current = .ok rows)
    (hrows : ∀ row ∈ rows, rowText row = .ok (rowLine row)) :
    perform (runStatement office preview statement) session =
      (.ok (), { session with desk := { session.desk with clock := some clock.take.2 } }.showing
        (rowLines preview (rows.map rowLine))) := by
  have hexecute := office.perform_execute_of_clock htables hclock h
  have hattempted : perform (ofAction (office.execute statement none)).attempted session =
      (.ok (.ok rows),
        { session with desk := { session.desk with clock := some clock.take.2 } }) := by
    rw [perform_attempted, perform_ofAction, hexecute]
  rw [runStatement, perform_bind_of_ok hattempted]
  exact perform_showRows _ hrows preview

/-- A statement that can be run is not empty. -/
theorem ne_nil_of_execute {tables : Tables} {now : Timestamp}
    (h : Table.execute tables statement now = .ok rows) : statement ≠ [] := by
  rintro rfl
  have htarget : Statement.target [] = .error .notSelect := by decide
  rw [Table.execute, htarget] at h
  cases h

/-- **Both ways show the same lines.**  Between the head of the answer to a question and its last
line stand the lines that are shown for the statement alone: the number of rows, as many of them as
are asked for, and the number of those that are left, if any are. -/
theorem answerLine_same_rows (session session' : Session) {line question : Text}
    {generation : Generation} {d₁ : Desk} {t : Timestamp} (htables : office.tables = none)
    (htyped : session.desk.dataset.IsTyped) (hclock : session.desk.clock = some ⟨t, []⟩)
    (hline : Command.read line = .question question)
    (hreturns : office.Returns question session.desk generation d₁)
    (htight : generation.statement.IsTight)
    (hrows : Table.execute session.desk.dataset.tables generation.statement t = .ok rows)
    (hdataset' : session'.desk.dataset = session.desk.dataset)
    (hclock' : session'.desk.clock = session.desk.clock) (preview : Nat) :
    (∀ row ∈ rows, rowText row = .ok (rowLine row)) ∧
    ∃ (r : QueryRecord) (kept : Text) (milliseconds : Int) (desk desk' : Desk),
      r.outcome = .success generation.statement (some generation.interpretation) kept
        milliseconds ∧
      perform (answerLine office preview line) session =
        (.ok true, { session with desk }.showing
          (headLines r ++ (rowLines preview (rows.map rowLine) ++ [lastLine milliseconds]))) ∧
      perform (answerLine office preview (Text.of "/sql " ++ generation.statement)) session' =
        (.ok true, { session' with desk := desk' }.showing
          (rowLines preview (rows.map rowLine))) := by
  obtain ⟨name, hsub⟩ := Table.exists_subset_of_execute hrows
  have hrowTyped := fun row (hrow : row ∈ rows) => htyped.isTyped_of_mem (hsub hrow)
  have hrowNamed := fun row (hrow : row ∈ rows) => Dataset.isNamed_of_mem (hsub hrow)
  have htext := fun row (hrow : row ∈ rows) => rowText_eq (hrowTyped row hrow) (hrowNamed row hrow)
  obtain ⟨kept, hkept, hread⟩ := Office.exists_resultText hrowTyped hrowNamed
  obtain ⟨r, milliseconds, hsubmit, hsuccess⟩ :=
    office.perform_submit_of_returns hreturns htables hclock hrows hkept
  refine ⟨htext, r, kept, milliseconds, ((office.submit question).perform session.desk).2,
    { session'.desk with clock := some ⟨t, []⟩ }, hsuccess, ?_, ?_⟩
  · have hasked : perform (ofAction (office.submit question)) session =
        (.ok r, { session with desk := ((office.submit question).perform session.desk).2 }) := by
      rw [perform_ofAction, hsubmit]
    rw [answerLine, hline]
    show perform (ofAction (office.submit question) >>= _) session = _
    rw [perform_bind_of_ok hasked]
    show perform (showRecord preview r >>= _) _ = _
    rw [perform_bind_of_ok (perform_showRecord _ preview hsuccess hread htext)]
    rfl
  · have hran := perform_runStatement session' preview htables (hclock'.trans hclock)
      (hdataset' ▸ hrows) htext
    rw [answerLine, Command.read_statement htight (ne_nil_of_execute hrows)]
    show perform (runStatement office preview generation.statement >>= _) session' = _
    rw [perform_bind_of_ok hran]
    rfl

/-- Without a model, a question about overdue bills is answered with the rows of its statement. -/
theorem answerLine_same_rows_overdue_bills :
    Topic.overdueInvoices.statement.IsTight ∧
    ∃ (r : QueryRecord) (milliseconds : Int) (desk desk' : Desk),
      perform (answerLine Office.rulesOffice 3 (Text.of " Any OVERDUE invoices?"))
        ⟨Office.billsDesk, []⟩ = (.ok true, ⟨desk, headLines r ++
          (rowLines 3 [rowLine (Office.billDueIn 10).row] ++ [lastLine milliseconds])⟩) ∧
      perform (answerLine Office.rulesOffice 3
        (Text.of "/sql " ++ Topic.overdueInvoices.statement)) ⟨Office.billsDesk, []⟩ =
        (.ok true, ⟨desk', rowLines 3 [rowLine (Office.billDueIn 10).row]⟩) := by
  have hline : Command.read (Text.of " Any OVERDUE invoices?") =
      .question (Text.of "Any OVERDUE invoices?") := by decide +kernel
  have htopic : (FallbackRule.choose (Text.of "Any OVERDUE invoices?")).generation.statement =
      Topic.overdueInvoices.statement := by decide +kernel
  have htight : Topic.overdueInvoices.statement.IsTight := by
    have htrim : Topic.overdueInvoices.statement.trim = Topic.overdueInvoices.statement := by
      decide +kernel
    exact htrim ▸ Text.isTight_trim _
  have hready := Office.isReady_billsDesk
  have hrows := Topic.overdueInvoices.execute_statement hready.typed
    Office.juneClock.take.2.current
  rw [Office.rows_billsDesk] at hrows
  have hagent : Office.rulesOffice.agent = Agent.main none none Agent.usualTokens := rfl
  obtain ⟨d₁, hreturns⟩ : ∃ d₁, Office.rulesOffice.Returns (Text.of "Any OVERDUE invoices?")
      Office.billsDesk (FallbackRule.choose (Text.of "Any OVERDUE invoices?")).generation d₁ :=
    Office.exists_returns_of_main hagent nofun hready fun inquiry d hquestion _ =>
      hquestion ▸ Agent.perform_main none none Agent.usualTokens inquiry d
  obtain ⟨-, r, kept, milliseconds, desk, desk', -, hasked, hran⟩ :=
    answerLine_same_rows ⟨Office.billsDesk, []⟩ ⟨Office.billsDesk, []⟩ rfl hready.typed rfl hline
      hreturns (htopic ▸ htight) (htopic ▸ hrows) rfl rfl 3
  rw [htopic] at hran
  exact ⟨htight, r, milliseconds, desk, desk', hasked, hran⟩

end Talk
end QueryDesk
