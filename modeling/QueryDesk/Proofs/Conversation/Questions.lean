import QueryDesk.Proofs.Conversation.SameRows
import QueryDesk.Proofs.Desk.StaysReady

/-!
# Whole conversations

Without a model a conversation goes well whatever is typed (`Talk.converse_answers`).  Blank lines,
statements that cannot be run and questions about nothing in particular are all answered without a
fault; the conversation ends with the first line that asks for it, or for want of lines; and for
each question that was asked by then the desk holds one more query, which succeeded.
-/

set_option autoImplicit false

namespace QueryDesk

/-! ## What is asked -/

namespace Command

/-- The question that a command asks, if it asks one. -/
def asked : Command → List Text
  | question t => [t]
  | _ => []

/-- Says that a line without outer blanks asks a question if it does not end the conversation: there
is something in it, and it does not begin with the mark of statements. -/
def IsQuestion (line : Text) : Prop := line ≠ [] ∧ ¬statementMark <+: line

instance (line : Text) : Decidable (IsQuestion line) := inferInstanceAs (Decidable (_ ∧ _))

/-- The questions that are asked in lines, one after the other, up to the first line that ends the
conversation. -/
def questions (lines : List Text) : List Text :=
  ((lines.takeWhile fun line => line.trim.lower ∉ leaving).map Text.trim).filter IsQuestion

variable {line : Text} {rest : List Text}

theorem read_eq_leave_iff : read line = .leave ↔ line.trim.lower ∈ leaving := by
  have hnil : Text.lower [] ∉ leaving := by decide
  rw [read]
  dsimp only
  split_ifs with hempty hleaves hmark hrest
  · rw [List.isEmpty_iff.mp hempty]
    exact iff_of_false (by simp) hnil
  · exact iff_of_true rfl (List.contains_iff_mem.mp hleaves)
  all_goals exact iff_of_false (by simp) fun h => hleaves (List.contains_iff_mem.mpr h)

/-- A line that does not end the conversation asks itself, if it asks anything. -/
theorem asked_read (h : line.trim.lower ∉ leaving) :
    (read line).asked = [line.trim].filter IsQuestion := by
  have hleaves : leaving.contains line.trim.lower = false := by
    rw [Bool.eq_false_iff, Ne, List.contains_iff_mem]
    exact h
  rw [read]
  dsimp only
  rw [hleaves, if_neg Bool.false_ne_true]
  split_ifs with hempty hmark hrest
  · rw [List.filter_singleton]
    simp [IsQuestion, List.isEmpty_iff.mp hempty, asked]
  all_goals simp_all [IsQuestion, asked, List.isPrefixOf_iff_prefix]

/-- Nothing is asked once the conversation is over. -/
theorem questions_cons_of_leaving (h : line.trim.lower ∈ leaving) :
    questions (line :: rest) = [] := by
  rw [questions, List.takeWhile_cons_of_neg (by simpa using h)]
  rfl

theorem questions_cons (h : line.trim.lower ∉ leaving) :
    questions (line :: rest) = (read line).asked ++ questions rest := by
  rw [questions, List.takeWhile_cons_of_pos (by simpa using h), List.map_cons, asked_read h,
    ← List.singleton_append, List.filter_append, questions]

end Command

namespace Talk

open Step

/-- What is said at the end of a conversation: a line of its own if there was no line that asked
for the end. -/
def farewell (lines : List Text) : Text :=
  if ∃ line ∈ lines, line.trim.lower ∈ Command.leaving then Text.of "Session ended."
  else Text.of "\nSession ended."

/-- The rows of a statement that was run on typed records have their lines. -/
theorem rowText_of_execute {d : Dataset} (hd : d.IsTyped) {statement : Text} {now : Timestamp}
    {rows : List Row} (h : Table.execute d.tables statement now = .ok rows) :
    ∀ row ∈ rows, rowText row = .ok (rowLine row) := by
  obtain ⟨name, hsub⟩ := Table.exists_subset_of_execute h
  exact fun row hrow =>
    rowText_eq (hd.isTyped_of_mem (hsub hrow)) (Dataset.isNamed_of_mem (hsub hrow))

variable {office : Office} (session : Session) {clock : Supply Timestamp}

/-! ## One line -/

/-- **A statement is answered without a fault**, with its rows or with what is wrong with it. -/
theorem exists_runStatement (htables : office.tables = none) (hd : session.desk.IsReady clock)
    (preview : Nat) (statement : Text) : ∃ session',
      perform (runStatement office preview statement) session = (.ok (), session') ∧
        session.desk.HasAnswered [] session'.desk := by
  obtain ⟨d', hexecute, hanswered⟩ := office.exists_hasAnswered_execute htables hd statement
  have hattempted : perform (ofAction (office.execute statement none)).attempted session =
      (.ok (Table.execute session.desk.dataset.tables statement clock.current),
        { session with desk := d' }) := by
    rw [perform_attempted, perform_ofAction, hexecute]
  rw [runStatement, perform_bind_of_ok hattempted]
  cases hresult : Table.execute session.desk.dataset.tables statement clock.current with
  | ok rows =>
    exact ⟨_, perform_showRows _ (rowText_of_execute hd.typed hresult) preview, hanswered⟩
  | error fault =>
    simp only [Table.isStatementFault_of_execute hresult, if_true]
    exact ⟨_, perform_say _ _, hanswered⟩

section Unaided

variable (hagent : ∃ sink tokens, office.agent = Agent.main none sink tokens)
  (htables : office.tables = none) (hd : session.desk.IsReady clock) (preview : Nat)
include hagent htables hd

/-- **A question is answered without a fault**, with what its topic shows. -/
theorem exists_showSubmitted (question : Text) : ∃ session',
    perform (do showRecord preview (← ofAction (office.submit question))) session =
        (.ok (), session') ∧
      session.desk.HasAnswered [question] session'.desk := by
  obtain ⟨r, kept, elapsed, d', hsubmit, hsuccess, hkept, hanswered⟩ :=
    office.exists_hasAnswered_submit hagent htables hd question
  have hasked : perform (ofAction (office.submit question)) session =
      (.ok r, { session with desk := d' }) := by
    rw [perform_ofAction, hsubmit]
  have hrows := (Topic.of question).execute_statement hd.typed clock.take.2.current
  rw [perform_bind_of_ok hasked]
  exact ⟨_, perform_showRecord _ preview hsuccess hkept (rowText_of_execute hd.typed hrows),
    hanswered⟩

/-- **Every line is answered without a fault.**  One that ends the conversation is answered with a
last line. -/
theorem exists_answerLine (line : Text) : ∃ session',
    perform (answerLine office preview line) session =
        (.ok (Command.read line != .leave), session') ∧
      session.desk.HasAnswered (Command.read line).asked session'.desk ∧
      (Command.read line = .leave →
        session'.shown.getLast? = some (.line (Text.of "Session ended."))) := by
  have hnothing : session.desk.HasAnswered [] session.desk := .of_store_eq hd rfl
  rw [answerLine]
  cases Command.read line with
  | nothing => exact ⟨session, rfl, hnothing, by simp⟩
  | leave => exact ⟨_, rfl, hnothing, fun _ => List.getLast?_concat⟩
  | noStatement => exact ⟨_, rfl, hnothing, by simp⟩
  | statement statement =>
    obtain ⟨session', hran, hanswered⟩ := exists_runStatement session htables hd preview statement
    refine ⟨session', ?_, hanswered, by simp⟩
    show perform (runStatement office preview statement >>= _) session = _
    rw [perform_bind_of_ok hran]
    rfl
  | question question =>
    obtain ⟨session', hshown, hanswered⟩ :=
      exists_showSubmitted session hagent htables hd preview question
    refine ⟨session', ?_, hanswered, by simp⟩
    show perform (ofAction (office.submit question) >>= fun r => showRecord preview r >>= _)
      session = _
    rw [← bind_assoc, perform_bind_of_ok hshown]
    rfl

end Unaided

/-! ## All lines -/

theorem perform_ask :
    perform ask session = (.ok (), session.showing [.prompt (Text.of "ebs> ")]) := rfl

/-- Lines that are answered one after the other. -/
theorem exists_answerLines (hagent : ∃ sink tokens, office.agent = Agent.main none sink tokens)
    (htables : office.tables = none) (hd : session.desk.IsReady clock) (preview : Nat)
    (lines : List Text) : ∃ session',
      perform (answerLines office preview lines) session = (.ok (), session') ∧
        session'.shown.getLast? = some (.line (farewell lines)) ∧
        session.desk.HasAnswered (Command.questions lines) session'.desk := by
  induction lines generalizing session clock with
  | nil =>
    refine ⟨_, rfl, ?_, .of_store_eq hd rfl⟩
    exact List.getLast?_concat
  | cons line rest ih =>
    obtain ⟨session₁, hline, hanswered, hlast⟩ := exists_answerLine
      (session.showing [.prompt (Text.of "ebs> ")]) hagent htables hd preview line
    rw [answerLines, perform_bind_of_ok (perform_ask session), perform_bind_of_ok hline]
    by_cases hleave : Command.read line = .leave
    · have hmem := Command.read_eq_leave_iff.mp hleave
      refine ⟨session₁, by simp [hleave], ?_, ?_⟩
      · rw [hlast hleave, farewell, if_pos ⟨line, List.mem_cons_self, hmem⟩]
      · rw [hleave] at hanswered
        rw [Command.questions_cons_of_leaving hmem]
        exact hanswered
    · have hmem := Command.read_eq_leave_iff.not.mp hleave
      obtain ⟨clock₁, hready⟩ := hanswered.ready
      obtain ⟨session', hrest, hend, hanswered'⟩ := ih session₁ hready
      refine ⟨session', by simpa [hleave] using hrest, ?_, ?_⟩
      · rw [hend, farewell, farewell]
        simp [hmem]
      · rw [Command.questions_cons hmem]
        exact hanswered.trans hanswered'

/-- **A conversation without a model answers every question.**  Whatever lines are typed, the
conversation ends without a fault, and what it says last tells whether a line asked for its end.
The history of the desk then holds, besides what it held before, exactly one query for each question
that was asked, and these queries succeeded. -/
theorem converse_answers (hagent : ∃ sink tokens, office.agent = Agent.main none sink tokens)
    (htables : office.tables = none) (hd : session.desk.IsReady clock) (preview : Nat)
    (lines : List Text) : ∃ session' history added,
      perform (converse office preview lines) session = (.ok (), session') ∧
      session'.shown.getLast? = some (.line (farewell lines)) ∧
      session'.desk.store.history = .ok history ∧
      history.Perm (session.desk.store.records ++ added) ∧
      added.map (·.question) = Command.questions lines ∧
      ∀ r ∈ added, r.outcome.status = Text.of "success" := by
  obtain ⟨session', hlines, hlast, hanswered⟩ := exists_answerLines
    (session.showing [.line welcome]) hagent htables hd preview lines
  obtain ⟨clock', hready⟩ := hanswered.ready
  obtain ⟨added, hadded, hquestions, hsuccess⟩ := hanswered.added
  obtain ⟨history, hhistory, hperm⟩ := Store.exists_history hready.opened
  refine ⟨session', history, added, ?_, hlast, hhistory, hadded ▸ hperm, hquestions, hsuccess⟩
  rw [converse, perform_bind_of_ok (perform_say session welcome)]
  exact hlines

/-- Lines of all kinds, among them two questions, and a line behind the end. -/
def mixedLines : List Text :=
  [Text.of "  ", Text.of "/sql SELECT what I mean", Text.of " Any OVERDUE invoices?",
    Text.of "/sql", Text.of "/SQL", Text.of " Exit ", Text.of "Show low inventory"]

/-- The two questions are answered and kept, and nothing is asked behind the end. -/
theorem converse_answers_mixedLines : ∃ session' history added,
    perform (converse Office.rulesOffice 3 mixedLines) ⟨Office.billsDesk, []⟩ =
        (.ok (), session') ∧
      session'.shown.getLast? = some (.line (Text.of "Session ended.")) ∧
      session'.desk.store.history = .ok history ∧ history.Perm added ∧
      added.map (·.question) = [Text.of "Any OVERDUE invoices?", Text.of "/SQL"] ∧
      ∀ r ∈ added, r.outcome.status = Text.of "success" := by
  have hend : farewell mixedLines = Text.of "Session ended." := by decide +kernel
  have hasked : Command.questions mixedLines =
      [Text.of "Any OVERDUE invoices?", Text.of "/SQL"] := by decide +kernel
  have hagent : Office.rulesOffice.agent = Agent.main none none Agent.usualTokens := rfl
  have h := converse_answers ⟨Office.billsDesk, []⟩ ⟨_, _, hagent⟩ rfl Office.isReady_billsDesk 3
    mixedLines
  rw [hend, hasked] at h
  exact h

end Talk
end QueryDesk
