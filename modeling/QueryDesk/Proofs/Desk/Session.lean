import QueryDesk.Proofs.Desk.Alike
import QueryDesk.Proofs.Desk.LeftOpen
import QueryDesk.Proofs.Query.Calls
import QueryDesk.Query.Template

/-!
# Sessions

A session is a list of errands at one desk: calls to the queries, looks at the business records,
statements to run, inquiries for the agent, and questions.  What each errand gives, and the desk that
it leaves but for the entries of the journal, do not depend on the sink
(`Setting.answers_eq_of_sinks`): neither on whether there is one, nor on whether it keeps what it is
told or always faults.
-/

set_option autoImplicit false

namespace QueryDesk

/-! ## Answering questions with two sinks -/

/-- An office of which the sink is still open. -/
structure Setting where
  kind : AgentKind
  tables : Option Tables
  contextQueries : Int
  recentLimit : Int

namespace Setting

/-- The office with a sink, which is also that of its agent. -/
def office (setting : Setting) (sink : Option Sink) : Office :=
  ⟨setting.kind.agent sink, sink, setting.tables, setting.contextQueries, setting.recentLimit⟩

variable {setting : Setting} {sink sink' : Option Sink}

/-- Running a statement has nothing to do with the sink. -/
theorem alike_execute (statement : Text) (time : Option Timestamp) :
    ((setting.office sink).execute statement time).Alike
      ((setting.office sink').execute statement time) :=
  (Action.isBlind_ofExcept _).bind fun _ => Desk.isBlind_timeOr time fun _ =>
    Action.Alike.get_bind (by rintro d _ ⟨entries, rfl⟩; exact Action.isBlind_ofExcept _)

section Sinks

variable (hsink : ∀ s ∈ sink, s.IsDiscreet) (hsink' : ∀ s ∈ sink', s.IsDiscreet)
include hsink hsink'

theorem alike_note (id : Text) (event : String) (payload : List (String × Value)) :
    ((setting.office sink).note id event payload).Alike
      ((setting.office sink').note id event payload) :=
  Desk.alike_note hsink hsink' id event (Row.of payload)

theorem alike_failGeneration (id message : Text) (started : Binary64) :
    ((setting.office sink).failGeneration id message started).Alike
      ((setting.office sink').failGeneration id message started) :=
  (alike_note hsink hsink' _ _ _).bind fun _ =>
    (Desk.isBlind_millisecondsSince started).bind fun _ => Desk.isBlind_complete _ _

theorem alike_failExecution (id : Text) (generation : Generation) (fault : Fault)
    (started : Binary64) : ((setting.office sink).failExecution id generation fault started).Alike
      ((setting.office sink').failExecution id generation fault started) :=
  (alike_note hsink hsink' _ _ _).bind fun _ =>
    (Desk.isBlind_millisecondsSince started).bind fun _ => Desk.isBlind_complete _ _

theorem alike_succeed (id : Text) (generation : Generation) (rows : List Row) (started : Binary64) :
    ((setting.office sink).succeed id generation rows started).Alike
      ((setting.office sink').succeed id generation rows started) :=
  (Desk.isBlind_millisecondsSince started).bind fun _ => (alike_note hsink hsink' _ _ _).bind fun _ =>
    (Action.isBlind_ofExcept _).bind fun _ => Desk.isBlind_complete _ _

theorem alike_run (id : Text) (generation : Generation) (started : Binary64) :
    ((setting.office sink).runWith (setting.office sink).executor id generation started).Alike
      ((setting.office sink').runWith (setting.office sink').executor id generation started) := by
  refine (alike_execute generation.statement none).attempted.bind fun result => ?_
  cases result with
  | ok rows => exact alike_succeed hsink hsink' id generation rows started
  | error fault =>
    dsimp only
    split_ifs
    · exact alike_failExecution hsink hsink' id generation fault started
    · exact Action.isBlind_throw fault

theorem alike_conclude (id : Text) (started : Binary64) (out : Except Fault Generation) :
    ((setting.office sink).conclude (setting.office sink).executor id started out).Alike
      ((setting.office sink').conclude (setting.office sink').executor id started out) := by
  rcases out with fault | generation
  · by_cases hgeneration : ∃ message, fault = .generation message
    · obtain ⟨message, rfl⟩ := hgeneration
      exact alike_failGeneration hsink hsink' id message started
    · rw [not_exists] at hgeneration
      rw [Office.conclude_error _ _ hgeneration, Office.conclude_error _ _ hgeneration]
      exact Action.isBlind_throw fault
  · exact alike_run hsink hsink' id generation started

/-- **Answering a question is alike with two sinks.** -/
theorem alike_process (hkind : setting.kind.IsBlind) (id question : Text) :
    ((setting.office sink).process id question).Alike
      ((setting.office sink').process id question) := by
  have hcontext : (setting.office sink).context.IsBlind :=
    (Desk.isBlind_recent setting.contextQueries).bind fun _ => Action.isBlind_pure _
  refine Desk.isBlind_seconds.bind fun started => (alike_note hsink hsink' _ _ _).bind fun _ =>
    hcontext.bind fun previous =>
      (hkind.alike hsink hsink' ⟨id, question, previous⟩).attempted.bind fun result => ?_
  have hconclude := @alike_conclude setting sink sink' hsink hsink' id started result
  rcases result with fault | generation
  · cases fault <;> exact hconclude
  · exact hconclude

end Sinks

end Setting

/-! ## Errands -/

/-- What may be asked for in a session. -/
inductive Errand
  | call (c : Call)
  | recent (count : Int)
  | history
  | metrics (time : Option Timestamp)
  | rows (name : Text)
  | tables
  | templates
  | execute (statement : Text) (time : Option Timestamp)
  | generate (inquiry : Inquiry)
  | submit (question : Text)
  | process (id question : Text)

namespace Errand

/-- What is done in an office for an errand. -/
def step (office : Office) : Errand → Action Value
  | call c => do return (← c.step).value
  | recent count => do return .list ((← Desk.recent count).map (·.value))
  | history => do return .list ((← Desk.history).map (·.value))
  | metrics time => do return (← Desk.metrics time).value
  | rows name => do return .list ((← Desk.rows name).map .record)
  | tables => do
    return .record ((← get).dataset.tables.map fun t => (t.1, .list (t.2.map .record)))
  | templates => return .list (QueryTemplate.all.map (·.value))
  | execute statement time => do return .list ((← office.execute statement time).map .record)
  | generate inquiry => do return .record (← office.agent inquiry).row
  | submit question => do return (← office.submit question).value
  | process id question => do return (← office.process id question).value

end Errand

/-- A call to the queries does not look at the journal. -/
theorem Call.isBlind_step (c : Call) : c.step.IsBlind := by
  cases c with
  | create question => exact Desk.isBlind_create question
  | succeed | fail => exact Desk.isBlind_complete _ _
  | get id => exact Desk.isBlind_query id

namespace Setting

variable {setting : Setting} {sink sink' : Option Sink}

/-- **Every errand is alike with two sinks.** -/
theorem alike_errand (hkind : setting.kind.IsBlind) (hsink : ∀ s ∈ sink, s.IsDiscreet)
    (hsink' : ∀ s ∈ sink', s.IsDiscreet) (errand : Errand) :
    (errand.step (setting.office sink)).Alike (errand.step (setting.office sink')) := by
  cases errand with
  | call c => exact c.isBlind_step.bind fun _ => Action.isBlind_pure _
  | recent count => exact (Desk.isBlind_recent count).bind fun _ => Action.isBlind_pure _
  | history => exact Desk.isBlind_history.bind fun _ => Action.isBlind_pure _
  | metrics time => exact (Desk.isBlind_metrics time).bind fun _ => Action.isBlind_pure _
  | rows name => exact (Desk.isBlind_rows name).bind fun _ => Action.isBlind_pure _
  | tables =>
    refine Action.Alike.get_bind ?_
    rintro d _ ⟨entries, rfl⟩
    exact Action.isBlind_pure _
  | templates => exact Action.isBlind_pure _
  | execute statement time => exact (alike_execute statement time).bind fun _ => Action.isBlind_pure _
  | generate inquiry =>
    exact (hkind.alike hsink hsink' inquiry).bind fun _ => Action.isBlind_pure _
  | submit question =>
    exact ((Desk.isBlind_create question).bind fun r =>
      alike_process hsink hsink' hkind r.id question).bind fun _ => Action.isBlind_pure _
  | process id question =>
    exact (alike_process hsink hsink' hkind id question).bind fun _ => Action.isBlind_pure _

/-! ## Whole sessions -/

/-- What each errand of a session gives in an office, and the desk that it leaves, with the entries
of the journal set aside. -/
def answers (office : Office) (d : Desk) : List Errand → List (Except Fault Value × Desk)
  | [] => []
  | errand :: errands =>
    let left := (errand.step office).perform d
    (left.1, left.2.withEntries []) :: answers office left.2 errands

/-- Sessions with two sinks, at desks that are alike. -/
theorem answers_eq_of_alike (hkind : setting.kind.IsBlind) (hsink : ∀ s ∈ sink, s.IsDiscreet)
    (hsink' : ∀ s ∈ sink', s.IsDiscreet) {d d' : Desk} (hd : d.Alike d') (errands : List Errand) :
    answers (setting.office sink') d' errands = answers (setting.office sink) d errands := by
  induction errands generalizing d d' with
  | nil => rfl
  | cons errand errands ih =>
    obtain ⟨hanswer, hleft⟩ := alike_errand hkind hsink hsink' errand d d' hd
    rw [answers, answers, hanswer, hleft.withEntries_eq [], ih hleft]

/-- **The sink never makes a difference to what a session gives**: without a sink, with one that
records and with one that always faults, every errand gives the same and leaves the same desk but for
the entries. -/
theorem answers_eq_of_sinks (hkind : setting.kind.IsBlind) (d : Desk) (errands : List Errand)
    {failing : Sink} (hfailing : failing.Fails) :
    answers (setting.office (some Sink.recorder)) d errands =
        answers (setting.office none) d errands ∧
      answers (setting.office (some failing)) d errands =
        answers (setting.office none) d errands := by
  have hnone : ∀ s ∈ (none : Option Sink), s.IsDiscreet := nofun
  constructor
  · exact answers_eq_of_alike hkind hnone (by simpa using Sink.isDiscreet_recorder) (.refl d) errands
  · exact answers_eq_of_alike hkind hnone (by simpa using hfailing.isDiscreet) (.refl d) errands

/-- The setting of an office that has no model. -/
def modelless : Setting :=
  ⟨.main none Agent.usualTokens, none, Office.usualCount, Office.usualCount⟩

/-- Two errands that are noted: a question, and an inquiry for the agent alone. -/
def noticed : List Errand :=
  [.submit (Text.of "Show overdue invoices"),
    .generate ⟨Text.of "q-9", Text.of "Show late work orders", []⟩]

/-- A session of which a recording sink keeps four entries and a broken one none. -/
theorem answers_eq_of_sinks_broken :
    answers (modelless.office (some Sink.recorder)) Desk.empty noticed =
        answers (modelless.office none) Desk.empty noticed ∧
      answers (modelless.office (some Sink.broken)) Desk.empty noticed =
        answers (modelless.office none) Desk.empty noticed ∧
      (noticed.foldl (fun d errand => ((errand.step (modelless.office (some Sink.recorder))).perform
        d).2) Desk.empty).journal.entries.length = 4 := by
  have hkind : modelless.kind.IsBlind := nofun
  obtain ⟨hrecorder, hbroken⟩ := answers_eq_of_sinks hkind Desk.empty noticed Sink.fails_broken
  exact ⟨hrecorder, hbroken, by decide +kernel⟩

end Setting
end QueryDesk
