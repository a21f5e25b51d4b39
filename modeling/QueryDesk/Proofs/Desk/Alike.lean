import QueryDesk.Proofs.Desk.Inquiry

/-!
# Steps that do not look at the journal

Two desks are alike if they differ in nothing but the entries of their journals.  A step that does
not look at the entries gives the same at desks that are alike, and leaves desks that are alike
(`Action.IsBlind`); more generally two steps may differ in what they note (`Action.Alike`).  Each
operation of the desk is blind, and so is what is put together from blind steps.  An agent of any
kind is alike with two sinks that keep nothing but entries (`AgentKind.IsBlind.alike`).
-/

set_option autoImplicit false

namespace QueryDesk

/-! ## Desks and steps -/

namespace Desk

/-- The desk with other entries in its journal. -/
def withEntries (d : Desk) (entries : List Entry) : Desk :=
  { d with journal := { d.journal with entries } }

/-- Says that two desks differ in the entries of their journals at most. -/
def Alike (d d' : Desk) : Prop := ∃ entries, d' = d.withEntries entries

theorem Alike.refl (d : Desk) : d.Alike d := ⟨d.journal.entries, rfl⟩

/-- Desks that are alike are the same with their entries set aside. -/
theorem Alike.withEntries_eq {d d' : Desk} (h : d.Alike d') (entries : List Entry) :
    d'.withEntries entries = d.withEntries entries := by
  obtain ⟨others, rfl⟩ := h
  rfl

end Desk

namespace Action

variable {α β : Type} {step step' : Action α}

/-- Says that two steps give the same at desks that are alike, and leave desks that are alike. -/
def Alike (step step' : Action α) : Prop :=
  ∀ d d' : Desk, d.Alike d' → (step'.perform d').1 = (step.perform d).1 ∧
    (step.perform d).2.Alike (step'.perform d').2

/-- Says that a step does not look at the entries of the journal. -/
def IsBlind (step : Action α) : Prop := step.Alike step

/-- A step that leaves the desk as it is. -/
theorem isBlind_ofExcept (result : Except Fault α) : (ofExcept result).IsBlind :=
  fun _ _ h => ⟨rfl, h⟩

theorem isBlind_lift (result : Except Fault α) : (liftM result : Action α).IsBlind :=
  fun _ _ h => ⟨rfl, h⟩

theorem isBlind_pure (a : α) : (pure a : Action α).IsBlind := fun _ _ h => ⟨rfl, h⟩

theorem isBlind_throw (fault : Fault) : (throw fault : Action α).IsBlind := fun _ _ h => ⟨rfl, h⟩

/-- What is done with the desk itself is alike if it makes no use of the entries. -/
theorem Alike.get_bind {next next' : Desk → Action β}
    (h : ∀ d d', d.Alike d' → (next d).Alike (next' d')) :
    ((get : Action Desk) >>= next).Alike (get >>= next') :=
  fun d d' hd => h d d' hd d d' hd

theorem Alike.bind {next next' : α → Action β} (h : step.Alike step')
    (hnext : ∀ a, (next a).Alike (next' a)) : (step >>= next).Alike (step' >>= next') := by
  intro d d' hd
  obtain ⟨hresult, hdesk⟩ := h d d' hd
  rw [perform_bind, perform_bind]
  generalize step.perform d = out at hresult hdesk ⊢
  generalize step'.perform d' = out' at hresult hdesk ⊢
  obtain ⟨result, d₁⟩ := out
  obtain ⟨result', d₁'⟩ := out'
  obtain rfl : result' = result := hresult
  cases result' with
  | error fault => exact ⟨rfl, hdesk⟩
  | ok a => exact hnext a d₁ d₁' hdesk

theorem Alike.attempted (h : step.Alike step') : step.attempted.Alike step'.attempted := by
  intro d d' hd
  obtain ⟨hresult, hdesk⟩ := h d d' hd
  exact ⟨congrArg Except.ok hresult, hdesk⟩

end Action

/-! ## Operations of the desk -/

namespace Desk

theorem isBlind_modify {f : Desk → Desk}
    (h : ∀ d entries, f (d.withEntries entries) = (f d).withEntries entries) :
    (modify f : Action PUnit).IsBlind := by
  rintro d _ ⟨entries, rfl⟩
  exact ⟨rfl, entries, h d entries⟩

theorem isBlind_now : now.IsBlind := by
  rintro ⟨dataset, store, ids, clock, stopwatch, replies, asked, journal⟩ _ ⟨entries, rfl⟩
  cases clock <;> exact ⟨rfl, entries, rfl⟩

theorem isBlind_seconds : seconds.IsBlind := by
  rintro d _ ⟨entries, rfl⟩
  exact ⟨rfl, entries, rfl⟩

theorem isBlind_millisecondsSince (started : Binary64) : (millisecondsSince started).IsBlind :=
  isBlind_seconds.bind fun _ => Action.isBlind_ofExcept _

theorem isBlind_create (question : Text) : (create question).IsBlind := by
  refine isBlind_now.bind fun time => ?_
  rintro d _ ⟨entries, rfl⟩
  exact ⟨rfl, entries, rfl⟩

theorem isBlind_complete (id : Text) (outcome : Outcome) : (complete id outcome).IsBlind := by
  refine Action.Alike.get_bind ?_
  rintro d _ ⟨entries, rfl⟩
  refine Action.Alike.bind (Action.isBlind_lift (d.store.complete id outcome)) ?_
  rintro ⟨r, store⟩
  exact (isBlind_modify fun _ _ => rfl).bind fun _ => Action.isBlind_pure r

/-- A look at the desk is blind if it makes no use of the entries. -/
theorem isBlind_look {α : Type} {look : Desk → Except Fault α}
    (h : ∀ d entries, look (d.withEntries entries) = look d) :
    ((get : Action Desk) >>= fun d => (liftM (look d) : Action α)).IsBlind := by
  refine Action.Alike.get_bind ?_
  rintro d _ ⟨entries, rfl⟩
  rw [h]
  exact Action.isBlind_lift (look d)

theorem isBlind_query (id : Text) : (query id).IsBlind := isBlind_look fun _ _ => rfl

theorem isBlind_recent (count : Int) : (recent count).IsBlind := isBlind_look fun _ _ => rfl

theorem isBlind_history : history.IsBlind := isBlind_look fun _ _ => rfl

theorem isBlind_rows (name : Text) : (rows name).IsBlind := isBlind_look fun _ _ => rfl

/-- A time that is given, or else that on the clock. -/
theorem isBlind_timeOr {α : Type} {next : Timestamp → Action α} (time : Option Timestamp)
    (h : ∀ t, (next t).IsBlind) : (do
      let t ← match time with
        | some t => pure t
        | none => now
      next t).IsBlind := by
  cases time with
  | none => exact isBlind_now.bind h
  | some t => exact (Action.isBlind_pure t).bind h

theorem isBlind_metrics (time : Option Timestamp) : (metrics time).IsBlind :=
  isBlind_timeOr time fun _ => isBlind_look fun _ _ => rfl

theorem isBlind_noteAsked (v : Value) : (noteAsked v).IsBlind := isBlind_modify fun _ _ => rfl

theorem isBlind_reply : reply.IsBlind := by
  rintro d _ ⟨entries, rfl⟩
  exact ⟨rfl, entries, rfl⟩

end Desk

/-! ## Sinks -/

/-- Says that a sink keeps nothing but entries. -/
def Sink.IsDiscreet (sink : Sink) : Prop :=
  ∀ e j, ∃ entries, ((sink e).run j).2 = { j with entries }

/-- Says that a sink keeps nothing and always faults, with a fault that is no demand to stop. -/
def Sink.Fails (sink : Sink) : Prop :=
  ∀ e j, ∃ fault, (sink e).run j = (.error fault, j) ∧ fault.isDemandToStop = false

namespace Sink

theorem isDiscreet_recorder : recorder.IsDiscreet := fun _ _ => ⟨_, rfl⟩

theorem Fails.isDiscreet {sink : Sink} (h : sink.Fails) : sink.IsDiscreet := by
  intro e j
  obtain ⟨fault, hrun, -⟩ := h e j
  exact ⟨j.entries, by rw [hrun]⟩

theorem fails_broken : broken.Fails := fun _ _ => ⟨_, rfl, by decide⟩

end Sink

namespace Desk

/-- A note in a discreet sink, or in none, changes entries only, and never faults. -/
theorem exists_perform_note {sink : Option Sink} (hsink : ∀ s ∈ sink, s.IsDiscreet) (id : Text)
    (event : String) (payload : Row) (d : Desk) : ∃ entries,
    (note sink id event payload).perform d = (.ok (), d.withEntries entries) := by
  cases sink with
  | none => exact ⟨d.journal.entries, rfl⟩
  | some sink =>
    obtain ⟨entries, hkept⟩ := hsink sink rfl ⟨id, Text.of event, payload⟩ d.journal
    refine ⟨entries, ?_⟩
    rw [withEntries, ← hkept]
    rfl

/-- **Two notes are alike**, whatever discreet sinks there are or are not. -/
theorem alike_note {sink sink' : Option Sink} (hsink : ∀ s ∈ sink, s.IsDiscreet)
    (hsink' : ∀ s ∈ sink', s.IsDiscreet) (id : Text) (event : String) (payload : Row) :
    (note sink id event payload).Alike (note sink' id event payload) := by
  rintro d _ ⟨others, rfl⟩
  obtain ⟨entries, hnote⟩ := exists_perform_note hsink id event payload d
  obtain ⟨entries', hnote'⟩ := exists_perform_note hsink' id event payload (d.withEntries others)
  rw [hnote, hnote']
  exact ⟨rfl, entries', rfl⟩

end Desk

/-! ## Agents -/

/-- Says that a model does not look at the entries of the journal. -/
def ModelClient.IsBlind (client : ModelClient) : Prop := ∀ request, (client request).IsBlind

/-- Says that an agent does not look at the entries of the journal. -/
def Agent.IsBlind (agent : Agent) : Prop := ∀ inquiry, (agent inquiry).IsBlind

namespace ModelClient

theorem isBlind_direct : direct.IsBlind :=
  fun _ => (Desk.isBlind_noteAsked _).bind fun _ => Desk.isBlind_reply

theorem isBlind_named (model : Text) : (named model).IsBlind :=
  fun _ => (Action.isBlind_ofExcept _).bind fun _ =>
    (Desk.isBlind_noteAsked _).bind fun _ => Desk.isBlind_reply

end ModelClient

namespace Agent

theorem isBlind_constant (generation : Generation) : (constant generation).IsBlind :=
  fun _ => Action.isBlind_pure generation

theorem isBlind_failing (fault : Fault) : (failing fault).IsBlind :=
  fun _ => Action.isBlind_throw fault

theorem IsBlind.meddling {agent : Agent} (h : agent.IsBlind) : (meddling agent).IsBlind :=
  fun inquiry => (Desk.isBlind_complete _ _).bind fun _ => h inquiry

theorem IsBlind.noted {agent : Agent} (h : agent.IsBlind) : (noted agent).IsBlind :=
  fun inquiry => (Desk.isBlind_noteAsked _).bind fun _ => h inquiry

section Main

variable {sink sink' : Option Sink} (hsink : ∀ s ∈ sink, s.IsDiscreet)
  (hsink' : ∀ s ∈ sink', s.IsDiscreet)
include hsink hsink'

theorem alike_byRules (reason : String) (inquiry : Inquiry) :
    (byRules sink reason inquiry).Alike (byRules sink' reason inquiry) :=
  (Desk.alike_note hsink hsink' _ _ _).bind fun _ => Action.isBlind_pure _

theorem alike_byModel {client : ModelClient} (hclient : client.IsBlind) (tokens : Int)
    (inquiry : Inquiry) :
    (byModel client sink tokens inquiry).Alike (byModel client sink' tokens inquiry) := by
  refine (hclient (request tokens inquiry)).attempted.bind fun result => ?_
  cases result with
  | error fault =>
    dsimp only
    split_ifs
    · exact Action.isBlind_throw fault
    · exact alike_byRules hsink hsink' "quota" inquiry
    · exact Action.isBlind_throw _
  | ok answer =>
    refine (Action.isBlind_ofExcept (Answer.read answer)).bind fun generation => ?_
    exact (Desk.alike_note hsink hsink' _ _ _).bind fun _ => Action.isBlind_pure generation

end Main

end Agent

namespace AgentKind

/-- Says that an agent does not look at the entries of the journal, whatever its sink. -/
def IsBlind : AgentKind → Prop
  | main client _ => ∀ c ∈ client, c.IsBlind
  | other agent => agent.IsBlind

/-- **An agent of any kind is alike with two discreet sinks**, or with none. -/
theorem IsBlind.alike {kind : AgentKind} (h : kind.IsBlind) {sink sink' : Option Sink}
    (hsink : ∀ s ∈ sink, s.IsDiscreet) (hsink' : ∀ s ∈ sink', s.IsDiscreet) (inquiry : Inquiry) :
    (kind.agent sink inquiry).Alike (kind.agent sink' inquiry) := by
  cases kind with
  | main client tokens =>
    cases client with
    | none => exact Agent.alike_byRules hsink hsink' "no_client" inquiry
    | some client => exact Agent.alike_byModel hsink hsink' (h client rfl) tokens inquiry
  | other agent => exact h inquiry

end AgentKind
end QueryDesk
