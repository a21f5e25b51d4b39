import QueryDesk.Proofs.Desk.LeftOpen

/-!
# The ways in which a question ends

Answering a question ends in one of a few ways (`Office.Ends`), and each of them settles three
things together: what is noted last in the journal, what becomes of the query, and which fault goes
to the caller instead.  Whatever is to be said about notes and queries is said by going through the
ways, and not through the steps themselves (`Office.exists_proceeds`).

A note comes before what can still fault, so what is noted and what becomes of the query need not
agree.
-/

set_option autoImplicit false

namespace QueryDesk

/-! ## What is noted -/

namespace Entry

/-- A question was received. -/
def received (id question : Text) : Entry :=
  ⟨id, Text.of "question_received", Row.of [("question", .text question)]⟩

/-- No statement was made. -/
def failedGeneration (id message : Text) : Entry :=
  ⟨id, Text.of "query_failed",
    Row.of [("stage", .text (Text.of "generation")), ("error", .text message)]⟩

/-- A statement could not be run. -/
def failedExecution (id statement message : Text) : Entry :=
  ⟨id, Text.of "query_failed", Row.of [("stage", .text (Text.of "execution")),
    ("sql", .text statement), ("error", .text message)]⟩

/-- A statement was run. -/
def executed (id statement : Text) (count : Nat) (elapsed : Int) : Entry :=
  ⟨id, Text.of "query_executed", Row.of [("sql", .text statement), ("row_count", .whole count),
    ("execution_time_ms", .whole elapsed)]⟩

end Entry

/-- A sink that records adds the entry to the journal. -/
theorem Desk.perform_note_recorder (d : Desk) (id : Text) (event : String) (payload : Row) :
    (note (some Sink.recorder) id event payload).perform d = (.ok (), { d with
      journal := { d.journal with
        entries := d.journal.entries ++ [⟨id, Text.of event, payload⟩] } }) := rfl

namespace Desk

/-- The clock gives a time, and the journal keeps its entries. -/
theorem exists_now (d : Desk) : ∃ time clock journal,
    now.perform d = (.ok time, { d with clock, journal }) ∧
      journal.entries = d.journal.entries := by
  obtain ⟨dataset, store, ids, clock, stopwatch, replies, asked, journal⟩ := d
  cases clock with
  | none => exact ⟨_, _, _, rfl, rfl⟩
  | some clock => exact ⟨_, _, _, rfl, rfl⟩

/-- Completes a query as it ends, or hands on the fault. -/
def settle (id : Text) : Except Fault Outcome → Action QueryRecord
  | .ok outcome => complete id outcome
  | .error fault => throw fault

end Desk

namespace Office

variable (office : Office) {id question : Text} {d : Desk}

/-- A note changes the journal only, and a sink that records keeps the entry. -/
theorem exists_note (id : Text) (event : String) (payload : List (String × Value)) (d : Desk) :
    ∃ journal, (office.note id event payload).perform d = (.ok (), { d with journal }) ∧
      (office.sink = some Sink.recorder →
        journal.entries = d.journal.entries ++ [⟨id, Text.of event, Row.of payload⟩]) := by
  obtain ⟨journal, hnote⟩ := office.perform_note id event payload d
  refine ⟨journal, hnote, fun hsink => ?_⟩
  rw [note, hsink, Desk.perform_note_recorder] at hnote
  obtain ⟨-, hdesk⟩ := Prod.mk.inj hnote
  exact (congrArg (fun d : Desk => d.journal.entries) hdesk).symm

theorem entries_deskAsked (hsink : office.sink = some Sink.recorder) (id question : Text)
    (d : Desk) : (office.deskAsked id question d).journal.entries =
      d.journal.entries ++ [.received id question] := by
  rw [deskAsked, note, hsink, Desk.perform_note_recorder]
  rfl

/-- Running a statement adds nothing to the journal. -/
theorem entries_executor (statement : Text) (d : Desk) :
    ((office.executor statement).perform d).2.journal.entries = d.journal.entries := by
  rw [executor, execute, Action.perform_bind, Action.perform_ofExcept]
  cases Statement.target statement with
  | error fault => rfl
  | ok table =>
    obtain ⟨time, clock, journal, hnow, hentries⟩ := d.exists_now
    show ((Desk.now >>= _).perform d).2.journal.entries = _
    rw [Action.perform_bind_of_ok hnow]
    exact hentries

/-! ## Ways to end -/

/-- The message of a query whose statement could not be run. -/
def executionMessage (fault : Fault) : Text :=
  Text.of "Failed to execute query: " ++ fault.message

/-- The ways in which a query ends once its agent is done, by what the agent made of the question and
the desk that it left: the desk that the executor leaves, what is noted, and the outcome of the query
or a fault. -/
inductive Ends (executor : Executor) (id : Text) (started : Binary64) :
    Except Fault Generation → Desk → Desk → List Entry → Except Fault Outcome → Prop
  /-- The agent meets a fault that is none of generation. -/
  | agent {fault : Fault} {d : Desk} (h : ∀ message, fault ≠ .generation message) :
    Ends executor id started (.error fault) d d [] (.error fault)
  /-- The agent makes no statement. -/
  | generation (message : Text) (d : Desk) :
    Ends executor id started (.error (.generation message)) d d [.failedGeneration id message]
      ((d.elapsed started).map fun n => .error message n none none)
  /-- The statement meets a fault that is none of statements. -/
  | executor {generation : Generation} {d d' : Desk} {fault : Fault}
    (hrun : (executor generation.statement).perform d = (.error fault, d'))
    (h : fault.isStatementFault = false) :
    Ends executor id started (.ok generation) d d' [] (.error fault)
  /-- The statement cannot be run. -/
  | execution {generation : Generation} {d d' : Desk} {fault : Fault}
    (hrun : (executor generation.statement).perform d = (.error fault, d'))
    (h : fault.isStatementFault = true) :
    Ends executor id started (.ok generation) d d'
      [.failedExecution id generation.statement (executionMessage fault)]
      ((d'.elapsed started).map fun n => .error (executionMessage fault) n
        (some generation.statement) (some generation.interpretation))
  /-- The statement is run, but the stopwatch does not measure the time. -/
  | untimed {generation : Generation} {d d' : Desk} {rows : List Row} {fault : Fault}
    (hrun : (executor generation.statement).perform d = (.ok rows, d'))
    (h : d'.elapsed started = .error fault) :
    Ends executor id started (.ok generation) d d' [] (.error fault)
  /-- The statement is run, but its rows have no form in a result. -/
  | unwritten {generation : Generation} {d d' : Desk} {rows : List Row} {n : Int} {fault : Fault}
    (hrun : (executor generation.statement).perform d = (.ok rows, d'))
    (helapsed : d'.elapsed started = .ok n) (h : resultText rows = .error fault) :
    Ends executor id started (.ok generation) d d'
      [.executed id generation.statement rows.length n] (.error fault)
  /-- The statement is run and its rows are kept. -/
  | success {generation : Generation} {d d' : Desk} {rows : List Row} {n : Int} {text : Text}
    (hrun : (executor generation.statement).perform d = (.ok rows, d'))
    (helapsed : d'.elapsed started = .ok n) (h : resultText rows = .ok text) :
    Ends executor id started (.ok generation) d d'
      [.executed id generation.statement rows.length n]
      (.ok (.success generation.statement (some generation.interpretation) text n))

section Conclusion

variable {executor : Executor} {started : Binary64}

/-- Says what a step that closes a query comes to: the query is settled at a desk that differs from
a given one in its stopwatch and its journal only, with some entries added by a sink that
records. -/
def SettlesAt (id : Text) (step : Action QueryRecord) (d d' : Desk) (entries : List Entry)
    (ending : Except Fault Outcome) : Prop :=
  ∃ stopwatch journal,
    step.perform d = (Desk.settle id ending).perform { d' with stopwatch, journal } ∧
      (office.sink = some Sink.recorder → journal.entries = d'.journal.entries ++ entries)

/-- A note, a reading of the stopwatch and a completion. -/
theorem settlesAt_note (event : String) (payload : List (String × Value)) (outcome : Int → Outcome)
    (d : Desk) :
    office.SettlesAt id (do
        office.note id event payload
        let elapsed ← Desk.millisecondsSince started
        Desk.complete id (outcome elapsed)) d d [⟨id, Text.of event, Row.of payload⟩]
      ((d.elapsed started).map outcome) := by
  obtain ⟨journal, hnote, hentries⟩ := office.exists_note id event payload d
  refine ⟨d.stopwatch.take.2, journal, ?_, hentries⟩
  rw [Action.perform_bind_of_ok hnote, Action.perform_bind, Desk.perform_millisecondsSince]
  have helapsed : Desk.elapsed { d with journal } started = d.elapsed started := rfl
  rw [helapsed]
  cases d.elapsed started <;> rfl

theorem exists_ends_succeed {generation : Generation} {rows : List Row} {d d' : Desk}
    (hrun : (executor generation.statement).perform d = (.ok rows, d')) : ∃ entries ending,
    Ends executor id started (.ok generation) d d' entries ending ∧
      office.SettlesAt id (office.succeed id generation rows started) d' d' entries ending := by
  cases helapsed : d'.elapsed started with
  | error fault =>
    refine ⟨[], .error fault, .untimed hrun helapsed, d'.stopwatch.take.2, d'.journal, ?_,
      fun _ => (List.append_nil _).symm⟩
    rw [succeed, Action.perform_bind, Desk.perform_millisecondsSince, helapsed]
    rfl
  | ok n =>
    obtain ⟨journal, hnote, hentries⟩ := office.exists_note id "query_executed"
      [("sql", .text generation.statement), ("row_count", .whole rows.length),
        ("execution_time_ms", .whole n)] { d' with stopwatch := d'.stopwatch.take.2 }
    have hperform : ∀ ending : Except Fault Text,
        resultText rows = ending → (office.succeed id generation rows started).perform d' =
          (Desk.settle id (ending.map fun text =>
              .success generation.statement (some generation.interpretation) text n)).perform
            { d' with stopwatch := d'.stopwatch.take.2, journal } := by
      intro ending hending
      rw [succeed, Action.perform_bind, Desk.perform_millisecondsSince, helapsed]
      dsimp only
      rw [Action.perform_bind_of_ok hnote, Action.perform_bind, Action.perform_ofExcept, hending]
      cases ending <;> rfl
    cases htext : resultText rows with
    | error fault =>
      exact ⟨_, _, .unwritten hrun helapsed htext, _, _, hperform _ htext, hentries⟩
    | ok text => exact ⟨_, _, .success hrun helapsed htext, _, _, hperform _ htext, hentries⟩

/-- **Whatever the agent made of the question, the query ends in one of the ways.** -/
theorem exists_ends (executor : Executor) (id : Text) (started : Binary64)
    (out : Except Fault Generation) (d : Desk) : ∃ d' entries ending,
    Ends executor id started out d d' entries ending ∧
      office.SettlesAt id (office.conclude executor id started out) d d' entries ending := by
  rcases out with fault | generation
  · by_cases hgeneration : ∃ message, fault = .generation message
    · obtain ⟨message, rfl⟩ := hgeneration
      exact ⟨d, _, _, .generation message d, office.settlesAt_note "query_failed" _ _ d⟩
    · rw [not_exists] at hgeneration
      refine ⟨d, [], _, .agent hgeneration, d.stopwatch, d.journal, ?_,
        fun _ => (List.append_nil _).symm⟩
      rw [office.conclude_error executor hgeneration]
      rfl
  · -- What the executor does comes first; the query is settled at the desk that it leaves.
    rcases hrun : (executor generation.statement).perform d with ⟨result, d'⟩
    have hattempted : (executor generation.statement).attempted.perform d = (.ok result, d') := by
      rw [Action.perform_attempted, hrun]
    have hconclude : (office.conclude executor id started (.ok generation)).perform d = _ :=
      Action.perform_bind_of_ok hattempted _
    cases result with
    | ok rows =>
      obtain ⟨entries, ending, hends, hsettles⟩ := office.exists_ends_succeed hrun
      refine ⟨d', entries, ending, hends, ?_⟩
      rwa [SettlesAt, hconclude]
    | error fault =>
      cases hfault : fault.isStatementFault with
      | false =>
        refine ⟨d', [], .error fault, .executor hrun hfault, d'.stopwatch, d'.journal, ?_,
          fun _ => (List.append_nil _).symm⟩
        simp only [hconclude, hfault, Bool.false_eq_true, if_false]
        rfl
      | true =>
        refine ⟨d', _, _, .execution hrun hfault, ?_⟩
        simp only [SettlesAt, hconclude, hfault, if_true]
        exact office.settlesAt_note "query_failed" _ _ d'

end Conclusion

/-- With the executor of the office nothing is added to the journal on the way. -/
theorem Ends.entries_eq {office : Office} {started : Binary64} {out : Except Fault Generation}
    {d d' : Desk} {entries : List Entry} {ending : Except Fault Outcome}
    (h : Ends office.executor id started out d d' entries ending) :
    d'.journal.entries = d.journal.entries := by
  cases h with
  | agent => rfl
  | generation => rfl
  | executor hrun | execution hrun | untimed hrun | unwritten hrun | success hrun =>
    rw [← office.entries_executor _ d, hrun]

/-- Nor does it change a query. -/
theorem Ends.store_eq {office : Office} {started : Binary64} {out : Except Fault Generation}
    {d d' : Desk} {entries : List Entry} {ending : Except Fault Outcome}
    (h : Ends office.executor id started out d d' entries ending) : d'.store = d.store := by
  have hran : ∀ {statement : Text} {result : Except Fault (List Row)},
      (office.executor statement).perform d = (result, d') → d'.store = d.store := by
    intro statement result hrun
    obtain ⟨result', clock, journal, hexecute, -⟩ := office.perform_execute statement d
    rw [Office.executor, hexecute] at hrun
    exact (Prod.mk.inj hrun).2 ▸ rfl
  cases h with
  | agent => rfl
  | generation => rfl
  | executor hrun | execution hrun | untimed hrun | unwritten hrun | success hrun => exact hran hrun

/-- What is noted is about the query. -/
theorem Ends.about {executor : Executor} {started : Binary64} {out : Except Fault Generation}
    {d d' : Desk} {entries : List Entry} {ending : Except Fault Outcome}
    (h : Ends executor id started out d d' entries ending) : ∀ e ∈ entries, e.queryId = id := by
  cases h with
  | agent | executor | untimed => exact fun _ he => (List.not_mem_nil he).elim
  | generation | execution | unwritten | success => exact List.forall_mem_singleton.mpr rfl

/-- The ways in which a query is completed by its own answer, by what the agent made of the question:
the last entry and the outcome. -/
inductive Completes (id : Text) : Except Fault Generation → Entry → Outcome → Prop
  | generation (message : Text) (n : Int) :
    Completes id (.error (.generation message)) (.failedGeneration id message)
      (.error message n none none)
  | execution (generation : Generation) (message : Text) (n : Int) :
    Completes id (.ok generation) (.failedExecution id generation.statement message)
      (.error message n (some generation.statement) (some generation.interpretation))
  | success (generation : Generation) {rows : List Row} {text : Text} (n : Int)
    (h : resultText rows = .ok text) :
    Completes id (.ok generation) (.executed id generation.statement rows.length n)
      (.success generation.statement (some generation.interpretation) text n)

/-- A query that ends with an outcome is completed with one entry. -/
theorem Ends.exists_completes {executor : Executor} {started : Binary64}
    {out : Except Fault Generation} {d d' : Desk} {entries : List Entry} {outcome : Outcome}
    (h : Ends executor id started out d d' entries (.ok outcome)) :
    ∃ last, entries = [last] ∧ Completes id out last outcome := by
  generalize hending : Except.ok outcome = ending at h
  cases h with
  | agent | executor | untimed | unwritten => cases hending
  | generation message d =>
    cases helapsed : d.elapsed started with
    | error fault => rw [helapsed] at hending; cases hending
    | ok n =>
      rw [helapsed] at hending
      cases hending
      exact ⟨_, rfl, .generation message n⟩
  | @execution generation =>
    cases helapsed : d'.elapsed started with
    | error fault => rw [helapsed] at hending; cases hending
    | ok n =>
      rw [helapsed] at hending
      cases hending
      exact ⟨_, rfl, .execution generation _ n⟩
  | @success generation _ _ rows n text hrun helapsed htext =>
    cases hending
    exact ⟨_, rfl, .success generation n htext⟩

/-- A query that ends with an outcome is no longer open. -/
theorem Ends.isOpen_eq {executor : Executor} {started : Binary64} {out : Except Fault Generation}
    {d d' : Desk} {entries : List Entry} {outcome : Outcome}
    (h : Ends executor id started out d d' entries (.ok outcome)) : outcome.isOpen = false := by
  obtain ⟨last, -, hcompletes⟩ := h.exists_completes
  cases hcompletes <;> rfl

/-! ## Whole questions -/

/-- The ways in which a question ends at a desk: the desk that is left before the query is settled,
what is noted last, and the outcome of the query or a fault. -/
inductive Proceeds (executor : Executor) (id question : Text) (d : Desk) :
    Desk → List Entry → Except Fault Outcome → Prop
  /-- The queries of the store cannot be brought into an order of time. -/
  | history {fault : Fault} (h : d.store.recent office.contextQueries = .error fault) :
    Proceeds executor id question d (office.deskAsked id question d) [] (.error fault)
  /-- The agent is asked. -/
  | answers {out : Except Fault Generation} {d₁ d' : Desk} {entries : List Entry}
    {ending : Except Fault Outcome} (ha : office.Answers id question d out d₁)
    (he : Ends executor id d.stopwatch.current out d₁ d' entries ending) :
    Proceeds executor id question d d' entries ending

theorem Proceeds.isOpen_eq {office : Office} {executor : Executor} {d' : Desk} {entries : List Entry}
    {outcome : Outcome} (h : office.Proceeds executor id question d d' entries (.ok outcome)) :
    outcome.isOpen = false := by
  cases h with
  | answers ha he => exact he.isOpen_eq

/-- **Every question ends in one of the ways**, and that settles its query. -/
theorem exists_proceeds (executor : Executor) (id question : Text) (d : Desk) :
    ∃ d' entries ending, office.Proceeds executor id question d d' entries ending ∧
      office.SettlesAt id (office.processWith executor id question) d d' entries ending := by
  cases hrecent : d.store.recent office.contextQueries with
  | error fault =>
    refine ⟨_, _, _, .history hrecent, (office.deskAsked id question d).stopwatch,
      (office.deskAsked id question d).journal, ?_, fun _ => (List.append_nil _).symm⟩
    rw [office.perform_processWith_of_history executor hrecent]
    rfl
  | ok records =>
    obtain ⟨out, d₁, ha⟩ := office.exists_answers hrecent id question
    obtain ⟨d', entries, ending, he, hsettles⟩ :=
      office.exists_ends executor id d.stopwatch.current out d₁
    refine ⟨d', entries, ending, .answers ha he, ?_⟩
    rwa [SettlesAt, office.perform_processWith_of_answers executor ha]

end Office
end QueryDesk
