import QueryDesk.Proofs.Desk.Ending
import QueryDesk.Proofs.Desk.Inquiry
import QueryDesk.Proofs.Desk.Returned
import QueryDesk.Proofs.Desk.Written
import QueryDesk.Proofs.Query.Settled

/-!
# Orderly agents and executors

An agent or an executor is orderly if it does no more to the queries than to complete some of them,
if none of its faults is a demand to stop, and if it says of a query that it is finished only when
nothing is left to do for the one in question.  All agents of the desk are orderly, as far as the
faults that they are told to meet and the models that they ask allow it, and so is its executor.

When all that takes part is orderly, a question leaves its query open only behind an outcome or a
fault that can be put on record (`Office.Proceeds.orderly`).
-/

set_option autoImplicit false

namespace QueryDesk

/-! ## Faults that can be put on record -/

/-- Says that a fault is no demand to stop and does not say of a query that it is finished. -/
structure Fault.IsOrdinary (fault : Fault) : Prop where
  goesOn : fault.isDemandToStop = false
  unfinished : ∀ id status, fault ≠ .alreadyFinished id status

theorem Fault.isOrdinary_generation (message : Text) : (Fault.generation message).IsOrdinary :=
  ⟨rfl, fun _ _ h => Fault.noConfusion h⟩

theorem Fault.isOrdinary_of_isStatementFault {fault : Fault} (h : fault.isStatementFault = true) :
    fault.IsOrdinary := by
  cases fault <;> first | exact absurd h Bool.false_ne_true | exact ⟨rfl, nofun⟩

theorem Answer.Escapes.isOrdinary {answer : Value} {fault : Fault} (h : Escapes answer fault) :
    fault.IsOrdinary := by
  cases h <;> exact ⟨rfl, nofun⟩

theorem Office.isOrdinary_of_resultText {rows : List Row} {fault : Fault}
    (h : resultText rows = .error fault) : fault.IsOrdinary := by
  rcases fault_of_resultText h with rfl | ⟨kind, rfl⟩ <;> exact ⟨rfl, nofun⟩

/-- A stopwatch that does not measure the time meets a fault of numbers. -/
theorem Desk.isOrdinary_of_elapsed {d : Desk} {started : Binary64} {fault : Fault}
    (h : d.elapsed started = .error fault) : fault.IsOrdinary := by
  rw [elapsed, wholePart.eq_def] at h
  split at h <;> cases h <;> exact ⟨rfl, nofun⟩

theorem Desk.isOrdinary_of_elapsed_map {d : Desk} {started : Binary64} {outcome : Int → Outcome}
    {fault : Fault} (h : (d.elapsed started).map outcome = .error fault) : fault.IsOrdinary := by
  cases helapsed : d.elapsed started with
  | ok n => rw [helapsed] at h; cases h
  | error fault' =>
    rw [helapsed] at h
    cases h
    exact isOrdinary_of_elapsed helapsed

/-! ## Orderly steps -/

variable {α β : Type} {id : Text} {d d' d'' : Desk}

/-- Says that what was done at a desk, with this result, was orderly in respect of the query with an
id. -/
structure Desk.Orderly (id : Text) (d : Desk) (result : Except Fault α) (d' : Desk) : Prop where
  /-- At most some open queries were completed. -/
  store : d.store.MayClose d'.store
  /-- At most some ids were used up. -/
  ids : d'.ids.given ⊆ d.ids.given
  /-- No fault is a demand to stop. -/
  goesOn : ∀ fault, result = .error fault → fault.isDemandToStop = false
  /-- A fault that says that a query is finished leaves nothing to do for the query with the id. -/
  finished : ∀ id' status, result = .error (.alreadyFinished id' status) → ¬d'.store.IsOpen id

namespace Desk.Orderly

/-- Nothing but ordinary faults. -/
theorem of_isOrdinary {result : Except Fault α} (hstore : d.store.MayClose d'.store)
    (hids : d'.ids.given ⊆ d.ids.given)
    (h : ∀ fault, result = .error fault → fault.IsOrdinary) :
    Orderly id d result d' :=
  ⟨hstore, hids, fun fault hfault => (h fault hfault).goesOn,
    fun id' status hfault => absurd rfl ((h _ hfault).unfinished id' status)⟩

/-- Nothing that has to do with queries. -/
theorem of_same {a : α} (hstore : d'.store = d.store) (hids : d'.ids = d.ids) :
    Orderly id d (.ok a) d' :=
  of_isOrdinary (hstore ▸ .refl d.store) (hids ▸ List.Subset.refl _) nofun

/-- A fault that is handed on. -/
theorem of_error {fault : Fault} (h : Orderly id d (.error fault : Except Fault α) d') :
    Orderly id d (.error fault : Except Fault β) d' := by
  refine ⟨h.store, h.ids, fun _ hfault => ?_, fun id' status hfault => ?_⟩
  · cases hfault
    exact h.goesOn fault rfl
  · cases hfault
    exact h.finished id' status rfl

theorem trans {result : Except Fault α} {result' : Except Fault β} (h : Orderly id d result d')
    (h' : Orderly id d' result' d'') : Orderly id d result' d'' :=
  ⟨h.store.trans h'.store, List.Subset.trans h'.ids h.ids, h'.goesOn, h'.finished⟩

end Desk.Orderly

namespace Action

/-- Says that a step is orderly in respect of the query with an id. -/
def IsOrderly (id : Text) (step : Action α) : Prop :=
  ∀ d : Desk, d.Orderly id (step.perform d).1 (step.perform d).2

theorem isOrderly_pure (a : α) : (pure a : Action α).IsOrderly id :=
  fun _ => .of_same rfl rfl

theorem isOrderly_throw {fault : Fault} (h : fault.IsOrdinary) :
    (throw fault : Action α).IsOrderly id :=
  fun d => .of_isOrdinary (.refl d.store) (List.Subset.refl _) fun _ hfault => by
    cases hfault
    exact h

theorem IsOrderly.bind {step : Action α} {next : α → Action β} (h : step.IsOrderly id)
    (hnext : ∀ a, (next a).IsOrderly id) : (step >>= next).IsOrderly id := by
  intro d
  have hstep := h d
  rw [perform_bind]
  generalize step.perform d = result at hstep ⊢
  rcases result with ⟨fault | a, d'⟩
  · exact hstep.of_error
  · exact hstep.trans (hnext a d')

/-- To complete the query itself is orderly. -/
theorem isOrderly_complete {outcome : Outcome} (h : outcome.isOpen = false) :
    (Desk.complete id outcome).IsOrderly id := by
  intro d
  rw [d.perform_complete]
  cases hfind : d.store.find? id with
  | none =>
    rw [Store.complete_of_missing hfind]
    refine .of_isOrdinary (.refl d.store) (List.Subset.refl _) fun _ hfault => ?_
    cases hfault
    exact ⟨rfl, nofun⟩
  | some r =>
    cases hopen : r.outcome.isOpen with
    | true =>
      have hcomplete := Store.complete_of_open hfind hopen outcome
      rw [hcomplete]
      have hstore : d.store.MayClose (d.store.replace { r with outcome }) :=
        .of_complete hcomplete h
      exact .of_isOrdinary hstore (List.Subset.refl _) nofun
    | false =>
      rw [Store.complete_of_closed hfind hopen]
      refine ⟨.refl d.store, List.Subset.refl _, fun _ hfault => by cases hfault; rfl,
        fun _ _ _ hstill => ?_⟩
      exact hstill.not_isClosed ⟨r, hfind, hopen⟩

end Action

/-! ## Orderly agents -/

/-- Says that an agent is orderly in respect of the query that it is asked about. -/
def Agent.IsOrderly (agent : Agent) : Prop :=
  ∀ inquiry, (agent inquiry).IsOrderly inquiry.queryId

/-- Says that an executor is orderly in respect of every query. -/
def Executor.IsOrderly (executor : Executor) : Prop :=
  ∀ id statement, (executor statement).IsOrderly id

/-- Says that a model is orderly in respect of every query. -/
def ModelClient.IsOrderly (client : ModelClient) : Prop :=
  ∀ id request, (client request).IsOrderly id

namespace Agent

theorem isOrderly_constant (generation : Generation) : (constant generation).IsOrderly :=
  fun _ => Action.isOrderly_pure generation

theorem isOrderly_failing {fault : Fault} (h : fault.IsOrdinary) : (failing fault).IsOrderly :=
  fun _ => Action.isOrderly_throw h

/-- An agent that completes the query itself first is as orderly as the agent that it asks then. -/
theorem IsOrderly.meddling {agent : Agent} (h : agent.IsOrderly) : (meddling agent).IsOrderly :=
  fun inquiry => (Action.isOrderly_complete rfl).bind fun _ => h inquiry

theorem IsOrderly.noted {agent : Agent} (h : agent.IsOrderly) : (noted agent).IsOrderly :=
  fun inquiry => Action.IsOrderly.bind (fun _ => .of_same rfl rfl) fun _ => h inquiry

/-- **The main agent is as orderly as its model.** -/
theorem isOrderly_main {client : Option ModelClient} (h : ∀ c ∈ client, c.IsOrderly)
    (sink : Option Sink) (tokens : Int) : (main client sink tokens).IsOrderly := by
  intro inquiry d
  cases client with
  | none =>
    obtain ⟨journal, hrules⟩ := perform_byRules sink inquiry d "no_client"
    rw [main, hrules]
    exact .of_same rfl rfl
  | some client =>
    have hclient := h client rfl inquiry.queryId (request tokens inquiry) d
    rcases hasked : (client (request tokens inquiry)).perform d with ⟨outcome, d₁⟩
    obtain ⟨journal, hmodel⟩ := perform_byModel client sink tokens inquiry d hasked
    rw [hasked] at hclient
    rw [main, hmodel]
    refine .of_isOrdinary hclient.store hclient.ids fun fault hfault => ?_
    by_cases hgeneration : ∃ message, fault = .generation message
    · obtain ⟨message, rfl⟩ := hgeneration
      exact Fault.isOrdinary_generation message
    · rcases (conclusion_eq_error_iff fun message h => hgeneration ⟨message, h⟩).mp hfault with
        ⟨rfl, hstop⟩ | ⟨answer, -, hescapes⟩
      · rw [hclient.goesOn fault rfl] at hstop
        cases hstop
      · exact hescapes.isOrdinary

end Agent

namespace Office

variable {office : Office} {executor : Executor} {question : Text}

/-- **The executor of the office is orderly.** -/
theorem isOrderly_executor (office : Office) : Executor.IsOrderly office.executor := by
  intro id statement d
  obtain ⟨result, clock, journal, hexecute, hfault⟩ := office.perform_execute statement d
  rw [executor, hexecute]
  exact .of_isOrdinary (.refl d.store) (List.Subset.refl _) fun fault h =>
    Fault.isOrdinary_of_isStatementFault (hfault fault h)

/-! ## Orderly questions -/

/-- What the agent did orderly, the office ends orderly. -/
theorem Ends.orderly {started : Binary64} {out : Except Fault Generation} {d₁ : Desk}
    {entries : List Entry} {ending : Except Fault Outcome} (hexecutor : Executor.IsOrderly executor)
    (h : Ends executor id started out d₁ d' entries ending) (hout : d.Orderly id out d₁) :
    d.Orderly id ending d' := by
  -- What the executor does is orderly, and leads to the desk at which the query is settled.
  have hran : ∀ {statement : Text} {result : Except Fault (List Row)},
      (executor statement).perform d₁ = (result, d') → d.Orderly id result d' := by
    intro statement result hrun
    have hexecuted := hexecutor id statement d₁
    rw [hrun] at hexecuted
    exact hout.trans hexecuted
  cases h with
  | agent => exact hout.of_error
  | generation message =>
    exact .of_isOrdinary hout.store hout.ids fun _ => Desk.isOrdinary_of_elapsed_map
  | executor hrun => exact (hran hrun).of_error
  | execution hrun =>
    exact .of_isOrdinary (hran hrun).store (hran hrun).ids fun _ => Desk.isOrdinary_of_elapsed_map
  | untimed hrun helapsed =>
    refine .of_isOrdinary (hran hrun).store (hran hrun).ids fun fault hfault => ?_
    cases hfault
    exact Desk.isOrdinary_of_elapsed helapsed
  | unwritten hrun helapsed htext =>
    refine .of_isOrdinary (hran hrun).store (hran hrun).ids fun fault hfault => ?_
    cases hfault
    exact isOrdinary_of_resultText htext
  | success hrun => exact .of_isOrdinary (hran hrun).store (hran hrun).ids nofun

/-- **With an orderly agent and an orderly executor every question proceeds orderly.** -/
theorem Proceeds.orderly {entries : List Entry} {ending : Except Fault Outcome}
    (hagent : office.agent.IsOrderly) (hexecutor : Executor.IsOrderly executor)
    (h : office.Proceeds executor id question d d' entries ending) : d.Orderly id ending d' := by
  obtain ⟨journal, hasked⟩ := office.exists_deskAsked id question d
  have hstart : d.Orderly id (.ok ()) (office.deskAsked id question d) := by
    rw [hasked]
    exact .of_same rfl rfl
  cases h with
  | history hrecent =>
    refine .of_isOrdinary hstart.store hstart.ids fun fault hfault => ?_
    cases hfault
    obtain rfl := Store.fault_of_recent hrecent
    exact ⟨rfl, nofun⟩
  | answers ha he =>
    obtain ⟨previous, -, hagain⟩ := ha
    have hout := hagent ⟨id, question, previous⟩ (office.deskAsked id question d)
    rw [hagain] at hout
    exact he.orderly hexecutor (hstart.trans hout)

end Office
end QueryDesk
