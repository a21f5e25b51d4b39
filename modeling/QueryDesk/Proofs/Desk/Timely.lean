import QueryDesk.Proofs.Desk.Inquiry
import QueryDesk.Proofs.Desk.Session
import QueryDesk.Proofs.Query.History

/-!
# Sessions that keep time

At a desk whose clock always goes on, each query is opened later than all queries before it, for as
long as the clock has not run down (`Desk.KeepsTime`).  Every errand keeps it so, if the agent does
(`Errand.isTimely_step`), and all agents of the desk do as far as the models that they ask do
(`Agent.isTimely_main`).  So it holds after every session (`Office.keepsTime_after`).
-/

set_option autoImplicit false

namespace QueryDesk

/-! ## Desks -/

namespace Desk

variable {d d' : Desk}

/-- Says that a desk has a clock of its own, and that each of its queries was opened later than those
before it and earlier than all that the clock is going to show, unless the clock has run down. -/
structure KeepsTime (d : Desk) : Prop where
  reads : d.clock.isSome
  nodup : d.store.ids.Nodup
  goesOn : d.HasRunDown ∨ (d.store.times ++ d.shows).Pairwise Timestamp.Precedes

/-- A desk without queries, whose clock always goes on. -/
theorem KeepsTime.of_empty (hreads : d.clock.isSome) (hd : d.store = .empty)
    (hclock : d.AlwaysGoesOn) : d.KeepsTime :=
  ⟨hreads, by rw [hd]; exact List.nodup_nil, .inr (by rw [hd]; exact hclock)⟩

theorem shows_ne_nil (d : Desk) : d.shows ≠ [] := by
  rw [shows]
  split <;> simp

theorem shows_congr (hreads : d.clock.isSome) (h : d'.clock = d.clock) : d'.shows = d.shows := by
  obtain ⟨clock, hclock⟩ := Option.isSome_iff_exists.mp hreads
  rw [shows, shows, h, hclock]

theorem KeepsTime.congr (h : d.KeepsTime) (hids : d'.store.ids = d.store.ids)
    (htimes : d'.store.times = d.store.times) (hclock : d'.clock = d.clock) : d'.KeepsTime := by
  have hshows : d'.shows = d.shows := shows_congr h.reads hclock
  exact ⟨hclock ▸ h.reads, hids ▸ h.nodup, by rw [HasRunDown, htimes, hshows]; exact h.goesOn⟩

/-- When the clock has shown a time, a query may have been opened at that time. -/
theorem KeepsTime.of_hasShown {time : Timestamp} (h : d.KeepsTime) (hshown : d.HasShown time d')
    (hnodup : d'.store.ids.Nodup)
    (htimes : d'.store.times.Sublist (d.store.times ++ [time])) : d'.KeepsTime := by
  refine ⟨hshown.own ▸ h.reads, hnodup, ?_⟩
  rcases hshown.next with hnext | ⟨-, hstays⟩
  · rcases h.goesOn with ⟨last, hlast⟩ | hgoes
    · rw [hlast] at hnext
      exact absurd (List.cons.inj hnext).2.symm d'.shows_ne_nil
    · right
      rw [hnext, ← List.singleton_append, ← List.append_assoc] at hgoes
      exact hgoes.sublist (htimes.append_right _)
  · exact .inl ⟨time, hstays⟩

end Desk

/-! ## Steps -/

namespace Action

variable {α β : Type} {step : Action α}

/-- Says that a step keeps a desk that keeps time so. -/
def IsTimely (step : Action α) : Prop := ∀ d : Desk, d.KeepsTime → (step.perform d).2.KeepsTime

/-- A step that changes neither the queries nor the clock. -/
theorem isTimely_of_frame
    (h : ∀ d, (step.perform d).2.store = d.store ∧ (step.perform d).2.clock = d.clock) :
    step.IsTimely := fun d hd =>
  hd.congr (by rw [(h d).1]) (by rw [(h d).1]) (h d).2

theorem isTimely_pure (a : α) : (pure a : Action α).IsTimely := fun _ hd => hd

theorem isTimely_throw (fault : Fault) : (throw fault : Action α).IsTimely := fun _ hd => hd

theorem isTimely_lift (result : Except Fault α) : (liftM result : Action α).IsTimely :=
  fun _ hd => hd

theorem isTimely_ofExcept (result : Except Fault α) : (ofExcept result).IsTimely := fun _ hd => hd

theorem isTimely_get : (get : Action Desk).IsTimely := fun _ hd => hd

theorem IsTimely.bind {next : α → Action β} (h : step.IsTimely) (hnext : ∀ a, (next a).IsTimely) :
    (step >>= next).IsTimely := by
  intro d hd
  have hstep := h d hd
  rw [perform_bind]
  rcases hperform : step.perform d with ⟨fault | a, d'⟩
  · rw [hperform] at hstep
    exact hstep
  · rw [hperform] at hstep
    exact hnext a d' hstep

theorem IsTimely.attempted (h : step.IsTimely) : step.attempted.IsTimely := h

end Action

namespace Desk

theorem isTimely_seconds : seconds.IsTimely := Action.isTimely_of_frame fun _ => ⟨rfl, rfl⟩

theorem isTimely_millisecondsSince (started : Binary64) : (millisecondsSince started).IsTimely :=
  isTimely_seconds.bind fun _ => Action.isTimely_ofExcept _

theorem isTimely_note (sink : Option Sink) (id : Text) (event : String) (payload : Row) :
    (note sink id event payload).IsTimely := by
  refine Action.isTimely_of_frame fun d => ?_
  obtain ⟨journal, hnote⟩ := d.perform_note sink id event payload
  rw [hnote]
  exact ⟨rfl, rfl⟩

theorem isTimely_noteAsked (v : Value) : (noteAsked v).IsTimely :=
  Action.isTimely_of_frame fun _ => ⟨rfl, rfl⟩

theorem isTimely_reply : reply.IsTimely := Action.isTimely_of_frame fun _ => ⟨rfl, rfl⟩

/-- A look at the desk changes nothing. -/
theorem isTimely_look {α : Type} (look : Desk → Except Fault α) :
    ((get : Action Desk) >>= fun d => (liftM (look d) : Action α)).IsTimely :=
  Action.isTimely_get.bind fun d => Action.isTimely_lift (look d)

/-- **A look at the clock takes the next time off it.** -/
theorem isTimely_now : now.IsTimely := by
  intro d hd
  obtain ⟨time, clock, journal, hnow, hshown⟩ := d.perform_now_shows
  rw [hnow]
  exact hd.of_hasShown hshown hd.nodup (List.sublist_append_left _ _)

/-- **A query is opened at the next time of the clock.** -/
theorem isTimely_create (question : Text) : (create question).IsTimely := by
  intro d hd
  have hnodup := (Call.does_perform (.create question) d).nodup hd.nodup
  obtain ⟨time, d', hcreate, hstore, hshown⟩ := d.perform_create_shows question
  rw [Call.step, hcreate] at hnodup
  rw [hcreate]
  refine hd.of_hasShown hshown hnodup ?_
  rw [hstore, Store.times_add]

/-- **A completion leaves the times of the queries alone.** -/
theorem isTimely_complete (id : Text) (outcome : Outcome) : (complete id outcome).IsTimely := by
  intro d hd
  rw [d.perform_complete]
  cases hcomplete : d.store.complete id outcome with
  | error fault => exact hd
  | ok result =>
    obtain ⟨r, store⟩ := result
    obtain ⟨-, -, -, -, hreplace⟩ := Store.open_of_complete hcomplete
    refine hd.congr ?_ (Store.times_of_complete hd.nodup hcomplete) rfl
    rw [hreplace]
    exact Store.ids_replace d.store r

/-- A time that is given, or else that on the clock. -/
theorem isTimely_timeOr {α : Type} {next : Timestamp → Action α} (time : Option Timestamp)
    (h : ∀ t, (next t).IsTimely) : (do
      let t ← match time with
        | some t => pure t
        | none => now
      next t).IsTimely := by
  cases time with
  | none => exact isTimely_now.bind h
  | some t => exact (Action.isTimely_pure t).bind h

end Desk

/-! ## Agents -/

/-- Says that a model keeps time at the desk. -/
def ModelClient.IsTimely (client : ModelClient) : Prop := ∀ request, (client request).IsTimely

/-- Says that an agent keeps time at the desk. -/
def Agent.IsTimely (agent : Agent) : Prop := ∀ inquiry, (agent inquiry).IsTimely

namespace ModelClient

theorem isTimely_direct : direct.IsTimely :=
  fun _ => (Desk.isTimely_noteAsked _).bind fun _ => Desk.isTimely_reply

theorem isTimely_named (model : Text) : (named model).IsTimely := fun _ =>
  (Action.isTimely_ofExcept _).bind fun _ =>
    (Desk.isTimely_noteAsked _).bind fun _ => Desk.isTimely_reply

end ModelClient

namespace Agent

theorem isTimely_constant (generation : Generation) : (constant generation).IsTimely :=
  fun _ => Action.isTimely_pure generation

theorem isTimely_failing (fault : Fault) : (failing fault).IsTimely :=
  fun _ => Action.isTimely_throw fault

theorem IsTimely.meddling {agent : Agent} (h : agent.IsTimely) : (meddling agent).IsTimely :=
  fun inquiry => (Desk.isTimely_complete _ _).bind fun _ => h inquiry

theorem IsTimely.noted {agent : Agent} (h : agent.IsTimely) : (noted agent).IsTimely :=
  fun inquiry => (Desk.isTimely_noteAsked _).bind fun _ => h inquiry

/-- **The main agent keeps time if its model does.** -/
theorem isTimely_main {client : Option ModelClient} (h : ∀ c ∈ client, c.IsTimely)
    (sink : Option Sink) (tokens : Int) : (main client sink tokens).IsTimely := by
  intro inquiry d hd
  cases client with
  | none =>
    obtain ⟨journal, hrules⟩ := perform_byRules sink inquiry d "no_client"
    rw [main, hrules]
    exact hd.congr rfl rfl rfl
  | some client =>
    have hclient := h client rfl (request tokens inquiry) d hd
    obtain ⟨journal, hmodel⟩ := perform_byModel client sink tokens inquiry d rfl
    rw [main, hmodel]
    exact hclient.congr rfl rfl rfl

end Agent

/-! ## Questions and errands -/

namespace Office

variable {office : Office}

theorem isTimely_execute (statement : Text) (time : Option Timestamp) :
    (office.execute statement time).IsTimely :=
  (Action.isTimely_ofExcept _).bind fun _ => Desk.isTimely_timeOr time fun _ =>
    Action.isTimely_get.bind fun _ => Action.isTimely_ofExcept _

theorem isTimely_failGeneration (id message : Text) (started : Binary64) :
    (office.failGeneration id message started).IsTimely :=
  (Desk.isTimely_note _ _ _ _).bind fun _ =>
    (Desk.isTimely_millisecondsSince started).bind fun _ => Desk.isTimely_complete _ _

theorem isTimely_failExecution (id : Text) (generation : Generation) (fault : Fault)
    (started : Binary64) : (office.failExecution id generation fault started).IsTimely :=
  (Desk.isTimely_note _ _ _ _).bind fun _ =>
    (Desk.isTimely_millisecondsSince started).bind fun _ => Desk.isTimely_complete _ _

theorem isTimely_succeed (id : Text) (generation : Generation) (rows : List Row)
    (started : Binary64) : (office.succeed id generation rows started).IsTimely :=
  (Desk.isTimely_millisecondsSince started).bind fun _ => (Desk.isTimely_note _ _ _ _).bind fun _ =>
    (Action.isTimely_ofExcept _).bind fun _ => Desk.isTimely_complete _ _

theorem isTimely_run (id : Text) (generation : Generation) (started : Binary64) :
    (office.runWith office.executor id generation started).IsTimely := by
  refine (isTimely_execute generation.statement none).attempted.bind fun result => ?_
  cases result with
  | ok rows => exact isTimely_succeed id generation rows started
  | error fault =>
    dsimp only
    split_ifs
    · exact isTimely_failExecution id generation fault started
    · exact Action.isTimely_throw fault

theorem isTimely_context : office.context.IsTimely :=
  (Desk.isTimely_look _).bind fun _ => Action.isTimely_pure _

/-- **Answering a question keeps time if the agent does.** -/
theorem isTimely_process (h : office.agent.IsTimely) (id question : Text) :
    (office.process id question).IsTimely := by
  refine Desk.isTimely_seconds.bind fun started => (Desk.isTimely_note _ _ _ _).bind fun _ =>
    isTimely_context.bind fun previous => (h ⟨id, question, previous⟩).attempted.bind fun result => ?_
  rcases result with fault | generation
  · cases fault with
    | generation message => exact isTimely_failGeneration id message started
    | _ => exact Action.isTimely_throw _
  · exact isTimely_run id generation started

end Office

theorem Call.isTimely_step (c : Call) : c.step.IsTimely := by
  cases c with
  | create question => exact Desk.isTimely_create question
  | succeed | fail => exact Desk.isTimely_complete _ _
  | get id => exact Desk.isTimely_look _

/-- **Every errand keeps time if the agent does.** -/
theorem Errand.isTimely_step {office : Office} (h : office.agent.IsTimely) (errand : Errand) :
    (errand.step office).IsTimely := by
  cases errand with
  | call c => exact c.isTimely_step.bind fun _ => Action.isTimely_pure _
  | recent count => exact (Desk.isTimely_look _).bind fun _ => Action.isTimely_pure _
  | history => exact (Desk.isTimely_look _).bind fun _ => Action.isTimely_pure _
  | metrics time =>
    exact (Desk.isTimely_timeOr time fun _ => Desk.isTimely_look _).bind fun _ =>
      Action.isTimely_pure _
  | rows name => exact (Desk.isTimely_look _).bind fun _ => Action.isTimely_pure _
  | tables => exact Action.isTimely_get.bind fun _ => Action.isTimely_pure _
  | templates => exact Action.isTimely_pure _
  | execute statement time =>
    exact (Office.isTimely_execute statement time).bind fun _ => Action.isTimely_pure _
  | generate inquiry => exact (h inquiry).bind fun _ => Action.isTimely_pure _
  | submit question =>
    exact ((Desk.isTimely_create question).bind fun r => Office.isTimely_process h r.id question).bind
      fun _ => Action.isTimely_pure _
  | process id question =>
    exact (Office.isTimely_process h id question).bind fun _ => Action.isTimely_pure _

namespace Office

/-- The desk after a session. -/
def afterErrands (office : Office) (d : Desk) (errands : List Errand) : Desk :=
  errands.foldl (fun d errand => ((errand.step office).perform d).2) d

/-- **A session keeps time if the agent does.** -/
theorem keepsTime_after {office : Office} (h : office.agent.IsTimely) {d : Desk} (hd : d.KeepsTime)
    (errands : List Errand) : (office.afterErrands d errands).KeepsTime := by
  induction errands generalizing d with
  | nil => exact hd
  | cons errand errands ih => exact ih (errand.isTimely_step h d hd)

end Office
end QueryDesk
