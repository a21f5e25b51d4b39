import QueryDesk.Proofs.Desk.LeftOpen
import QueryDesk.Proofs.Results

/-!
# Statements that are returned

When an agent returns a statement for a question, and the statement can be run at the time on the
clock and its rows can be kept, the query of the question succeeds with these rows
(`Office.perform_submit_of_returns`).
-/

set_option autoImplicit false

namespace QueryDesk

namespace Desk

variable {d : Desk} {clock : Supply Timestamp}

theorem perform_now_of_clock (h : d.clock = some clock) :
    now.perform d = (.ok clock.current, { d with clock := some clock.take.2 }) := by
  obtain ⟨dataset, store, ids, _, stopwatch, replies, asked, journal⟩ := d
  cases h
  rfl

theorem perform_create_of_clock (h : d.clock = some clock) (question : Text) :
    (create question).perform d =
      (.ok (d.store.add (d.ids.fresh d.store.ids).1 question clock.current).1,
        { d with
          store := (d.store.add (d.ids.fresh d.store.ids).1 question clock.current).2
          ids := (d.ids.fresh d.store.ids).2
          clock := some clock.take.2 }) := by
  rw [create, Action.perform_bind_of_ok (perform_now_of_clock h)]
  rfl

/-- The desk at which the query of a question was opened. -/
def opened (d : Desk) (question : Text) : Desk := ((create question).perform d).2

end Desk

namespace Office

variable (office : Office) {d d₁ : Desk} {clock : Supply Timestamp} {id question : Text}
  {generation : Generation} {rows : List Row} {text : Text}

/-- The question is noted before the agent is asked, and the stopwatch is read. -/
theorem exists_deskAsked (id question : Text) (d : Desk) : ∃ journal,
    office.deskAsked id question d = { d with stopwatch := d.stopwatch.take.2, journal } := by
  obtain ⟨journal, hnote⟩ := office.perform_note id "question_received"
    [("question", .text question)] { d with stopwatch := d.stopwatch.take.2 }
  exact ⟨journal, by rw [deskAsked, hnote]⟩

/-- A statement that can be run is run at the time on the clock. -/
theorem perform_execute_of_clock {statement : Text} {rows : List Row}
    (htables : office.tables = none) (hclock : d.clock = some clock)
    (h : Table.execute d.dataset.tables statement clock.current = .ok rows) :
    (office.execute statement none).perform d =
      (.ok rows, { d with clock := some clock.take.2 }) := by
  obtain ⟨table, htable, hselect⟩ := Except.bind_eq_ok_iff.mp h
  have htarget : (Action.ofExcept (Statement.target statement)).perform d = (.ok table, d) := by
    rw [Action.perform_ofExcept, htable]
  rw [execute, Action.perform_bind_of_ok htarget]
  show (Desk.now >>= _).perform d = _
  rw [Action.perform_bind_of_ok (Desk.perform_now_of_clock hclock), htables]
  show (Table.select statement table (Table.rowsOf d.dataset.tables table) clock.current, _) = _
  rw [hselect]

/-- The outcome of a query whose statement gave rows that are kept as a text. -/
def outcomeOf (generation : Generation) (kept : Text) (elapsed : Int) : Outcome :=
  .success generation.statement (some generation.interpretation) kept elapsed

/-- A query that is open is closed with its rows. -/
theorem perform_succeed {generation : Generation} {rows : List Row} {started : Binary64}
    {elapsed : Int} {text : Text} {r : QueryRecord} (helapsed : d.elapsed started = .ok elapsed)
    (htext : resultText rows = .ok text) (hfind : d.store.find? id = some r)
    (hopen : r.outcome.isOpen = true) : ∃ journal,
      (office.succeed id generation rows started).perform d =
        (.ok { r with outcome := outcomeOf generation text elapsed }, { d with
          store := d.store.replace { r with outcome := outcomeOf generation text elapsed }
          stopwatch := d.stopwatch.take.2
          journal }) := by
  obtain ⟨journal, hnote⟩ := office.perform_note id "query_executed"
    [("sql", .text generation.statement), ("row_count", .whole rows.length),
      ("execution_time_ms", .whole elapsed)] { d with stopwatch := d.stopwatch.take.2 }
  have htext' : ∀ d' : Desk, (Action.ofExcept (resultText rows)).perform d' = (.ok text, d') :=
    fun d' => by rw [Action.perform_ofExcept, htext]
  refine ⟨journal, ?_⟩
  rw [succeed, Action.perform_bind, Desk.perform_millisecondsSince, helapsed]
  dsimp only
  rw [Action.perform_bind_of_ok hnote, Action.perform_bind_of_ok (htext' _), Desk.perform_complete,
    Store.complete_of_open hfind hopen]
  rfl

/-- An open query is closed with the rows of the statement that the agent returned. -/
theorem perform_process_of_answers_ok {elapsed : Int} {r : QueryRecord}
    (hanswers : office.Answers id question d (.ok generation) d₁) (htables : office.tables = none)
    (hclock : d₁.clock = some clock)
    (hrows : Table.execute d₁.dataset.tables generation.statement clock.current = .ok rows)
    (helapsed : d₁.elapsed d.stopwatch.current = .ok elapsed) (htext : resultText rows = .ok text)
    (hfind : d₁.store.find? id = some r) (hopen : r.outcome.isOpen = true) : ∃ journal,
      (office.process id question).perform d =
        (.ok { r with outcome := outcomeOf generation text elapsed }, { d₁ with
          store := d₁.store.replace { r with outcome := outcomeOf generation text elapsed }
          clock := some clock.take.2
          stopwatch := d₁.stopwatch.take.2
          journal }) := by
  have hexecute := office.perform_execute_of_clock htables hclock hrows
  have hattempted : (office.execute generation.statement none).attempted.perform d₁ =
      (.ok (.ok rows), { d₁ with clock := some clock.take.2 }) := by
    rw [Action.perform_attempted, hexecute]
  rw [office.perform_process_of_answers hanswers]
  show ∃ journal, ((office.execute generation.statement none).attempted >>= _).perform d₁ = _
  rw [Action.perform_bind_of_ok hattempted]
  exact office.perform_succeed helapsed htext hfind hopen

/-- Says that the agent returns a generation for a question that is asked at a desk, and leaves a
desk at which the office can go on: with the same business records and the same clock, with the
query of the question still open, and with a stopwatch that measures the time. -/
structure Returns (question : Text) (d : Desk) (generation : Generation) (d₁ : Desk) : Prop where
  answers : office.Answers (d.ids.fresh d.store.ids).1 question (d.opened question) (.ok generation)
    d₁
  dataset : d₁.dataset = d.dataset
  clock : d₁.clock = (d.opened question).clock
  isOpen : ∃ r, d₁.store.find? (d.ids.fresh d.store.ids).1 = some r ∧ r.outcome.isOpen = true
  elapsed : ∃ n, d₁.elapsed d.stopwatch.current = .ok n

/-- **The query of the question succeeds** with the rows of the statement that was returned. -/
theorem perform_submit_of_returns (h : office.Returns question d generation d₁)
    (htables : office.tables = none) (hclock : d.clock = some clock)
    (hrows : Table.execute d.dataset.tables generation.statement clock.take.2.current = .ok rows)
    (htext : resultText rows = .ok text) : ∃ r elapsed,
      ((office.submit question).perform d).1 = .ok r ∧ r.outcome =
        .success generation.statement (some generation.interpretation) text elapsed := by
  have hcreate := Desk.perform_create_of_clock hclock question
  obtain ⟨r, hfind, hopen⟩ := h.isOpen
  obtain ⟨elapsed, helapsed⟩ := h.elapsed
  have hclock₁ : d₁.clock = some clock.take.2 := by rw [h.clock, Desk.opened, hcreate]
  have hstopwatch : (d.opened question).stopwatch = d.stopwatch := by rw [Desk.opened, hcreate]
  obtain ⟨journal, hprocess⟩ := office.perform_process_of_answers_ok h.answers htables hclock₁
    (by rw [h.dataset]; exact hrows) (by rw [hstopwatch]; exact helapsed) htext hfind hopen
  rw [Desk.opened, hcreate] at hprocess
  have hsubmit : (office.submit question).perform d = _ := Action.perform_bind_of_ok hcreate _
  exact ⟨_, elapsed, congrArg Prod.fst (hsubmit.trans hprocess), rfl⟩

end Office
end QueryDesk
