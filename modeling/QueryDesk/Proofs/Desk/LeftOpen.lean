import QueryDesk.Proofs.Desk.Steps

/-!
# Queries that are left open

Answering a question is meant to close its query.  It does, whatever the agent and the sink do,
unless it comes upon one of a few faults that nobody on the way turns into a failure of the query
(`Office.LeavesOpen`), and then the query stays open for good (`not_isClosed_process_iff`).
-/

set_option autoImplicit false

namespace QueryDesk
namespace Office

variable (office : Office) {id question : Text} {d d₁ : Desk} {out : Except Fault Generation}

/-! ## Asking the agent -/

/-- The desk at which the agent is asked: the stopwatch was read and the question noted. -/
def deskAsked (id question : Text) (d : Desk) : Desk :=
  ((office.note id "question_received" [("question", .text question)]).perform
    { d with stopwatch := d.stopwatch.take.2 }).2

/-- What the agent makes of a question, and the desk that it leaves. -/
def Answers (id question : Text) (d : Desk) (out : Except Fault Generation) (d₁ : Desk) : Prop :=
  ∃ previous, (office.context.perform d).1 = .ok previous ∧
    (office.agent ⟨id, question, previous⟩).perform (office.deskAsked id question d) = (out, d₁)

theorem perform_note (id : Text) (event : String) (payload : List (String × Value)) (d : Desk) :
    ∃ journal, (office.note id event payload).perform d = (.ok (), { d with journal }) :=
  d.perform_note office.sink id event (Row.of payload)

theorem perform_deskAsked (id question : Text) (d : Desk) :
    (office.note id "question_received" [("question", .text question)]).perform
      { d with stopwatch := d.stopwatch.take.2 } = (.ok (), office.deskAsked id question d) := by
  obtain ⟨journal, hnote⟩ := office.perform_note id "question_received"
    [("question", .text question)] { d with stopwatch := d.stopwatch.take.2 }
  rw [deskAsked, hnote]

theorem store_deskAsked (id question : Text) (d : Desk) :
    (office.deskAsked id question d).store = d.store := by
  obtain ⟨journal, hnote⟩ := office.perform_note id "question_received"
    [("question", .text question)] { d with stopwatch := d.stopwatch.take.2 }
  rw [deskAsked, hnote]

/-- The context of a question is taken from the store. -/
theorem perform_context (d : Desk) :
    office.context.perform d = ((d.store.recent office.contextQueries).map fun records =>
      records.filterMap fun r =>
        (r.outcome.statement?.filter (!·.isEmpty)).map fun statement => (r.question, statement),
      d) := by
  rw [context, Action.perform_bind, d.perform_recent]
  cases d.store.recent office.contextQueries <;> rfl

theorem perform_context_congr {d d' : Desk} (h : d'.store = d.store) :
    office.context.perform d' = ((office.context.perform d).1, d') := by
  rw [perform_context, perform_context, h]

section Executor

variable (executor : Executor)

theorem perform_processWith_of_history {fault : Fault}
    (h : d.store.recent office.contextQueries = .error fault) :
    (office.processWith executor id question).perform d =
      (.error fault, office.deskAsked id question d) := by
  have hcontext : office.context.perform (office.deskAsked id question d) =
      (.error fault, office.deskAsked id question d) := by
    rw [perform_context, store_deskAsked, h]
    rfl
  rw [processWith, Action.perform_bind_of_ok d.perform_seconds,
    Action.perform_bind_of_ok (office.perform_deskAsked id question d),
    Action.perform_bind_of_error hcontext]

/-- What is done with what the agent makes of a question. -/
def conclude (id : Text) (started : Binary64) : Except Fault Generation → Action QueryRecord
  | .ok generation => office.runWith executor id generation started
  | .error (.generation message) => office.failGeneration id message started
  | .error fault => throw fault

/-- A fault that is none of generation goes to the caller. -/
theorem conclude_error {fault : Fault} (h : ∀ message, fault ≠ .generation message) (id : Text)
    (started : Binary64) : office.conclude executor id started (.error fault) = throw fault := by
  cases fault <;> first | rfl | exact absurd rfl (h _)

theorem perform_processWith_of_answers (h : office.Answers id question d out d₁) :
    (office.processWith executor id question).perform d =
      (office.conclude executor id d.stopwatch.current out).perform d₁ := by
  obtain ⟨previous, hprevious, hagent⟩ := h
  have hcontext : office.context.perform (office.deskAsked id question d) =
      (.ok previous, office.deskAsked id question d) := by
    rw [office.perform_context_congr (office.store_deskAsked id question d), hprevious]
  have hattempted : (office.agent ⟨id, question, previous⟩).attempted.perform
      (office.deskAsked id question d) = (.ok out, d₁) := by
    rw [Action.perform_attempted, hagent]
  rw [processWith, Action.perform_bind_of_ok d.perform_seconds,
    Action.perform_bind_of_ok (office.perform_deskAsked id question d),
    Action.perform_bind_of_ok hcontext, Action.perform_bind_of_ok hattempted]
  rcases out with fault | generation
  · cases fault <;> rfl
  · rfl

end Executor

theorem perform_process_of_answers (h : office.Answers id question d out d₁) :
    (office.process id question).perform d =
      (office.conclude office.executor id d.stopwatch.current out).perform d₁ :=
  office.perform_processWith_of_answers office.executor h

/-! ## Closing -/

theorem not_isClosed_of_find?_eq_none {s : Store} (h : s.find? id = none) : ¬s.IsClosed id := by
  rintro ⟨r, hr, -⟩
  rw [h] at hr
  cases hr

/-- After a completion every record that is there at all is closed. -/
theorem not_isClosed_complete_iff {o : Outcome} (ho : o.isOpen = false) (d : Desk) :
    ¬((Desk.complete id o).perform d).2.store.IsClosed id ↔ d.store.find? id = none := by
  rw [d.perform_complete]
  cases hfind : d.store.find? id with
  | none =>
    rw [Store.complete_of_missing hfind]
    exact ⟨fun _ => rfl, fun _ => not_isClosed_of_find?_eq_none hfind⟩
  | some r =>
    refine ⟨fun h => absurd ?_ h, fun h => absurd h (Option.some_ne_none r)⟩
    cases hopen : r.outcome.isOpen with
    | false =>
      rw [Store.complete_of_closed hfind hopen]
      exact ⟨r, hfind, hopen⟩
    | true =>
      have hcomplete := Store.complete_of_open hfind hopen o
      rw [hcomplete]
      exact Store.isClosed_of_complete hcomplete ho

/-- A note, a reading of the stopwatch and a completion. -/
theorem not_isClosed_note_iff {started : Binary64} {outcome : Int → Outcome}
    (ho : ∀ n, (outcome n).isOpen = false) (event : String) (payload : List (String × Value)) :
    ¬((do
        office.note id event payload
        let elapsed ← Desk.millisecondsSince started
        Desk.complete id (outcome elapsed)).perform d).2.store.IsClosed id ↔
      d.store.find? id = none ∨
        (¬d.store.IsClosed id ∧ ∃ fault, d.elapsed started = .error fault) := by
  obtain ⟨journal, hnote⟩ := office.perform_note id event payload d
  rw [Action.perform_bind_of_ok hnote, Action.perform_bind, Desk.perform_millisecondsSince]
  have helapsed : Desk.elapsed { d with journal } started = d.elapsed started := rfl
  rw [helapsed]
  cases d.elapsed started with
  | error fault =>
    simp only [Except.error.injEq, exists_eq', and_true]
    exact ⟨.inr, fun h => h.elim not_isClosed_of_find?_eq_none fun h' => h'⟩
  | ok n =>
    simp only [reduceCtorEq, exists_false, and_false, or_false]
    exact not_isClosed_complete_iff (ho n) _

theorem not_isClosed_failGeneration_iff (id message : Text) (started : Binary64) (d : Desk) :
    ¬((office.failGeneration id message started).perform d).2.store.IsClosed id ↔
      d.store.find? id = none ∨
        (¬d.store.IsClosed id ∧ ∃ fault, d.elapsed started = .error fault) :=
  office.not_isClosed_note_iff (fun _ => rfl) "query_failed" _

theorem not_isClosed_failExecution_iff (id : Text) (generation : Generation) (fault : Fault)
    (started : Binary64) (d : Desk) :
    ¬((office.failExecution id generation fault started).perform d).2.store.IsClosed id ↔
      d.store.find? id = none ∨
        (¬d.store.IsClosed id ∧ ∃ fault, d.elapsed started = .error fault) :=
  office.not_isClosed_note_iff (fun _ => rfl) "query_failed" _

theorem not_isClosed_succeed_iff (id : Text) (generation : Generation) (rows : List Row)
    (started : Binary64) (d : Desk) :
    ¬((office.succeed id generation rows started).perform d).2.store.IsClosed id ↔
      d.store.find? id = none ∨
        (¬d.store.IsClosed id ∧ ((∃ fault, d.elapsed started = .error fault) ∨
          ∃ fault, resultText rows = .error fault)) := by
  rw [succeed, Action.perform_bind, Desk.perform_millisecondsSince]
  cases helapsed : d.elapsed started with
  | error fault =>
    simp only [Except.error.injEq, exists_eq', true_or, and_true]
    exact ⟨.inr, fun h => h.elim not_isClosed_of_find?_eq_none fun h' => h'⟩
  | ok n =>
    obtain ⟨journal, hnote⟩ := office.perform_note id "query_executed"
      [("sql", .text generation.statement), ("row_count", .whole rows.length),
        ("execution_time_ms", .whole n)] { d with stopwatch := d.stopwatch.take.2 }
    simp only [reduceCtorEq, exists_false, false_or]
    rw [Action.perform_bind_of_ok hnote, Action.perform_bind, Action.perform_ofExcept]
    cases resultText rows with
    | error fault =>
      simp only [Except.error.injEq, exists_eq', and_true]
      exact ⟨.inr, fun h => h.elim not_isClosed_of_find?_eq_none fun h' => h'⟩
    | ok text =>
      simp only [reduceCtorEq, exists_false, and_false, or_false]
      exact not_isClosed_complete_iff rfl _

/-! ## Running a statement -/

theorem isStatementFault_of_target {statement : Text} {fault : Fault}
    (h : Statement.target statement = .error fault) : fault.isStatementFault = true := by
  rw [Statement.target] at h
  split at h
  · rw [Statement.table] at h
    split at h
    · cases h
    · cases h; rfl
  · cases h; rfl

theorem isStatementFault_of_select {statement table : Text} {rows : List Row} {now : Timestamp}
    {fault : Fault} (h : Table.select statement table rows now = .error fault) :
    fault.isStatementFault = true := by
  rw [Table.select] at h
  generalize (do
    let plan ← Statement.plan statement
    Table.apply plan now.asUniversal rows) = result at h
  cases result with
  | error cause => cases h; rfl
  | ok selected => cases h

/-- **A statement that cannot be run meets a fault of the statement and no other.** -/
theorem perform_execute (statement : Text) (d : Desk) : ∃ result clock journal,
    (office.execute statement none).perform d = (result, { d with clock, journal }) ∧
      ∀ fault, result = .error fault → fault.isStatementFault = true := by
  rw [execute, Action.perform_bind, Action.perform_ofExcept]
  cases htarget : Statement.target statement with
  | error fault =>
    refine ⟨.error fault, d.clock, d.journal, rfl, ?_⟩
    rintro fault' ⟨⟩
    exact isStatementFault_of_target htarget
  | ok table =>
    obtain ⟨time, clock, journal, hnow⟩ := d.perform_now
    refine ⟨Table.select statement table
      (Table.rowsOf (office.tables.getD d.dataset.tables) table) time, clock, journal, ?_,
      fun fault => isStatementFault_of_select⟩
    exact Action.perform_bind_of_ok hnow _

theorem not_isClosed_runWith_iff (id : Text) (generation : Generation) (started : Binary64)
    (d : Desk) :
    ¬((office.runWith office.executor id generation started).perform d).2.store.IsClosed id ↔
      d.store.find? id = none ∨
        (¬d.store.IsClosed id ∧ ((∃ fault, d.elapsed started = .error fault) ∨
          ∃ rows fault, ((office.execute generation.statement none).perform d).1 = .ok rows ∧
            resultText rows = .error fault)) := by
  obtain ⟨result, clock, journal, hexecute, hfault⟩ :=
    office.perform_execute generation.statement d
  have hattempted : (office.execute generation.statement none).attempted.perform d =
      (.ok result, { d with clock, journal }) := by
    rw [Action.perform_attempted, hexecute]
  show ¬(((office.execute generation.statement none).attempted >>= _).perform d).2.store.IsClosed id ↔
    _
  rw [Action.perform_bind_of_ok hattempted, hexecute]
  cases result with
  | error fault =>
    simp only [hfault fault rfl, if_true, reduceCtorEq, false_and, exists_false, or_false]
    exact office.not_isClosed_failExecution_iff id generation fault started _
  | ok rows =>
    simp only [Except.ok.injEq, exists_and_left, exists_eq_left']
    exact office.not_isClosed_succeed_iff id generation rows started _

/-! ## Queries left open -/

/-- The ways in which a query is left open when its question is answered. -/
inductive LeavesOpen (id question : Text) (d : Desk) : Prop
  /-- The queries of the store cannot be brought into an order of time. -/
  | history {fault : Fault} (h : d.store.recent office.contextQueries = .error fault)
  /-- The agent takes the query out of the store. -/
  | gone {out : Except Fault Generation} {d₁ : Desk} (ha : office.Answers id question d out d₁)
    (h : d₁.store.find? id = none)
  /-- The agent meets a fault that is no fault of generation. -/
  | agent {fault : Fault} {d₁ : Desk} (ha : office.Answers id question d (.error fault) d₁)
    (hopen : ¬d₁.store.IsClosed id) (h : ∀ message, fault ≠ .generation message)
  /-- The readings of the stopwatch are no whole number of milliseconds apart. -/
  | stopwatch {out : Except Fault Generation} {d₁ : Desk} {fault : Fault}
    (ha : office.Answers id question d out d₁) (hopen : ¬d₁.store.IsClosed id)
    (h : d₁.elapsed d.stopwatch.current = .error fault)
  /-- The rows of the statement hold a value that has no form in a result. -/
  | result {generation : Generation} {d₁ : Desk} {rows : List Row} {fault : Fault}
    (ha : office.Answers id question d (.ok generation) d₁) (hopen : ¬d₁.store.IsClosed id)
    (hrows : ((office.execute generation.statement none).perform d₁).1 = .ok rows)
    (h : resultText rows = .error fault)

theorem Answers.unique {d₂ : Desk} {out' : Except Fault Generation}
    (h : office.Answers id question d out d₁) (h' : office.Answers id question d out' d₂) :
    out = out' ∧ d₁ = d₂ := by
  obtain ⟨previous, hprevious, hagent⟩ := h
  obtain ⟨previous', hprevious', hagent'⟩ := h'
  rw [hprevious] at hprevious'
  cases hprevious'
  rw [hagent] at hagent'
  exact Prod.mk.inj hagent'

/-- Without a fault of the history the agent is asked. -/
theorem exists_answers {records : List QueryRecord}
    (h : d.store.recent office.contextQueries = .ok records) (id question : Text) :
    ∃ out d₁, office.Answers id question d out d₁ := by
  have hcontext : ∃ previous, (office.context.perform d).1 = .ok previous :=
    ⟨_, by rw [perform_context, h]; rfl⟩
  obtain ⟨previous, hprevious⟩ := hcontext
  exact ⟨_, _, previous, hprevious, rfl⟩

theorem not_isClosed_conclude_iff (id : Text) (started : Binary64)
    (out : Except Fault Generation) (d : Desk) :
    ¬((office.conclude office.executor id started out).perform d).2.store.IsClosed id ↔
      d.store.find? id = none ∨
        (¬d.store.IsClosed id ∧ ((∃ fault, d.elapsed started = .error fault) ∨
          (∃ fault, out = .error fault ∧ ∀ message, fault ≠ .generation message) ∨
          ∃ generation rows fault, out = .ok generation ∧
            ((office.execute generation.statement none).perform d).1 = .ok rows ∧
            resultText rows = .error fault)) := by
  rcases out with fault | generation
  · by_cases hgeneration : ∃ message, fault = .generation message
    · obtain ⟨message, rfl⟩ := hgeneration
      rw [conclude, not_isClosed_failGeneration_iff]
      simp
    · rw [not_exists] at hgeneration
      rw [office.conclude_error office.executor hgeneration, Action.perform_throw]
      constructor
      · exact fun h => .inr ⟨h, .inr (.inl ⟨fault, rfl, hgeneration⟩)⟩
      · exact fun h => h.elim not_isClosed_of_find?_eq_none fun h' => h'.1
  · rw [conclude, not_isClosed_runWith_iff]
    simp

/-- **A question that is answered closes its query, unless one of the few faults comes up that leave
it open.** -/
theorem not_isClosed_process_iff {id question : Text} {d : Desk} (hopen : d.store.IsOpen id) :
    ¬((office.process id question).perform d).2.store.IsClosed id ↔
      office.LeavesOpen id question d := by
  cases hrecent : d.store.recent office.contextQueries with
  | error fault =>
    rw [process, office.perform_processWith_of_history office.executor hrecent, store_deskAsked]
    exact ⟨fun _ => .history hrecent, fun _ => hopen.not_isClosed⟩
  | ok records =>
    obtain ⟨out, d₁, ha⟩ := office.exists_answers hrecent id question
    rw [office.perform_process_of_answers ha, not_isClosed_conclude_iff]
    constructor
    · rintro (hgone | ⟨hnot, ⟨fault, hstopwatch⟩ | ⟨fault, rfl, hfault⟩ |
        ⟨generation, rows, fault, rfl, hrows, hresult⟩⟩)
      · exact .gone ha hgone
      · exact .stopwatch ha hnot hstopwatch
      · exact .agent ha hnot hfault
      · exact .result ha hnot hrows hresult
    · intro h
      cases h with
      | history hhistory =>
        rw [hrecent] at hhistory
        cases hhistory
      | gone ha' hgone =>
        obtain ⟨rfl, rfl⟩ := ha.unique office ha'
        exact .inl hgone
      | agent ha' hnot hfault =>
        obtain ⟨rfl, rfl⟩ := ha.unique office ha'
        exact .inr ⟨hnot, .inr (.inl ⟨_, rfl, hfault⟩)⟩
      | stopwatch ha' hnot hstopwatch =>
        obtain ⟨rfl, rfl⟩ := ha.unique office ha'
        exact .inr ⟨hnot, .inl ⟨_, hstopwatch⟩⟩
      | result ha' hnot hrows hresult =>
        obtain ⟨rfl, rfl⟩ := ha.unique office ha'
        exact .inr ⟨hnot, .inr (.inr ⟨_, _, _, rfl, hrows, hresult⟩)⟩

/-- An answer of a model with a confidence that is too large for a real number. -/
def overconfident : Text :=
  Text.of "\x7b\"sql\": \"SELECT * FROM invoices\", \"confidence\": 1" ++
    (List.replicate 309 (.char '0') ++ Text.of "\x7d")

/-- A query that was just opened. -/
def openQuery : QueryRecord :=
  ⟨Text.of "q-1", Text.of "Show overdue invoices", .midnight ⟨2024, 6, 15⟩, .processing⟩

/-- A desk with that one query, at which a model is going to give that answer. -/
def overconfidentDesk : Desk :=
  { Desk.empty with
    store := ⟨[openQuery]⟩
    replies := ⟨.ok (.object (Row.of [("output_text", .text overconfident)])), []⟩ }

/-- An office that asks a model. -/
def modelOffice : Office :=
  ⟨Agent.main (some ModelClient.direct) none Agent.usualTokens, none, none, usualCount, usualCount⟩

theorem isOpen_overconfident : overconfidentDesk.store.IsOpen openQuery.id := ⟨openQuery, rfl, rfl⟩

theorem not_isClosed_overconfident :
    ¬((modelOffice.process openQuery.id openQuery.question).perform
      overconfidentDesk).2.store.IsClosed openQuery.id := by
  have hstays : ((modelOffice.process openQuery.id openQuery.question).perform
      overconfidentDesk).2.store.find? openQuery.id = some openQuery := by
    decide +kernel
  rintro ⟨r, hr, hclosed⟩
  rw [hstays] at hr
  cases hr
  cases hclosed

/-- The answer comes from the agent as a fault that is none of generation. -/
theorem leavesOpen_overconfident :
    overconfidentDesk.store.IsOpen openQuery.id ∧
      modelOffice.LeavesOpen openQuery.id openQuery.question overconfidentDesk :=
  ⟨isOpen_overconfident,
    (modelOffice.not_isClosed_process_iff isOpen_overconfident).mp not_isClosed_overconfident⟩

/-- Not every question that is answered closes its query. -/
theorem exists_not_isClosed_process :
    ¬∀ (office : Office) (id question : Text) (d : Desk), d.store.IsOpen id →
      ((office.process id question).perform d).2.store.IsClosed id := fun h =>
  not_isClosed_overconfident (h modelOffice openQuery.id openQuery.question overconfidentDesk
    isOpen_overconfident)

end Office
end QueryDesk
