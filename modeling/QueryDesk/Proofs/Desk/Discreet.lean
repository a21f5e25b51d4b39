import QueryDesk.Proofs.Desk.Unaided

/-!
# Agents that keep to themselves

The main agent notes what it does, and its model may keep a list of what it was asked.  If that is
all the model does, then what the agent returns for a question is returned in the sense of
`Office.Returns`: the office finds its records, its queries and its clocks as they were.
-/

set_option autoImplicit false

namespace QueryDesk

/-- Says that two desks agree but for the journal, what was asked and what a model will reply. -/
structure Desk.SameBooks (d d₁ : Desk) : Prop where
  dataset : d₁.dataset = d.dataset
  store : d₁.store = d.store
  clock : d₁.clock = d.clock
  stopwatch : d₁.stopwatch = d.stopwatch

/-- Says that asking a model leaves the books of the desk alone, whatever it is asked. -/
def ModelClient.IsDiscreet (client : ModelClient) : Prop :=
  ∀ (request : ModelRequest) (d : Desk), d.SameBooks ((client request).perform d).2

namespace ModelClient

theorem isDiscreet_direct : direct.IsDiscreet := fun _ _ => ⟨rfl, rfl, rfl, rfl⟩

theorem isDiscreet_named (model : Text) : (named model).IsDiscreet := by
  intro request d
  rw [named, Action.perform_bind, Action.perform_ofExcept]
  cases request.payload model <;> exact ⟨rfl, rfl, rfl, rfl⟩

end ModelClient

namespace Agent

variable (client : Option ModelClient) (sink : Option Sink) (tokens : Int) (inquiry : Inquiry)
  (d : Desk)

/-- With a discreet model, or none, the main agent leaves the books alone. -/
theorem sameBooks_main (h : ∀ c ∈ client, c.IsDiscreet) :
    d.SameBooks ((main client sink tokens inquiry).perform d).2 := by
  cases client with
  | none =>
    obtain ⟨journal, hrules⟩ := perform_byRules sink inquiry d "no_client"
    rw [main, hrules]
    exact ⟨rfl, rfl, rfl, rfl⟩
  | some client =>
    obtain ⟨journal, hmodel⟩ := perform_byModel client sink tokens inquiry d rfl
    have hbooks := h client rfl (request tokens inquiry) d
    rw [main, hmodel]
    exact ⟨hbooks.dataset, hbooks.store, hbooks.clock, hbooks.stopwatch⟩

end Agent

namespace Office

variable {office : Office} {d : Desk} {question : Text} {generation : Generation}

/-- A ready desk has a context for a question. -/
theorem exists_previous (office : Office) {clock : Supply Timestamp} (hd : d.IsReady clock)
    (question : Text) :
    ∃ previous, (office.context.perform (d.opened question)).1 = .ok previous := by
  have hopened : ∀ r ∈ (d.opened question).store.records, r.createdAt.ahead.isSome := by
    rw [Desk.opened, Desk.perform_create_of_clock hd.reads]
    exact hd.opened_concat rfl
  obtain ⟨records, hrecent⟩ := Store.exists_recent hopened office.contextQueries
  exact ⟨_, by rw [office.perform_context, hrecent]; rfl⟩

/-- **What the main agent makes of a question is returned** at a ready desk. -/
theorem exists_returns_of_main {client : Option ModelClient} {sink : Option Sink} {tokens : Int}
    {clock : Supply Timestamp} (hagent : office.agent = Agent.main client sink tokens)
    (hclient : ∀ c ∈ client, c.IsDiscreet) (hd : d.IsReady clock)
    (hmade : ∀ inquiry d', inquiry.question = question → d'.replies = d.replies →
      ((office.agent inquiry).perform d').1 = .ok generation) :
    ∃ d₁, office.Returns question d generation d₁ := by
  obtain ⟨previous, hprevious⟩ := office.exists_previous hd question
  have hbooks := Agent.sameBooks_main client sink tokens
    ⟨(d.ids.fresh d.store.ids).1, question, previous⟩
    (office.deskAsked (d.ids.fresh d.store.ids).1 question (d.opened question)) hclient
  rw [← hagent] at hbooks
  obtain ⟨journal, hasked⟩ := office.exists_deskAsked (d.ids.fresh d.store.ids).1 question
    (d.opened question)
  obtain ⟨time, clock, wall, hcreate⟩ := d.perform_create question
  have hopened : d.opened question = _ := congrArg Prod.snd hcreate
  have hfind := Store.find?_add (d.ids.fresh_not_mem d.store.ids) question time
    (d.ids.fresh d.store.ids).1
  rw [if_pos rfl] at hfind
  obtain ⟨n, hn⟩ := hd.exists_elapsed
  refine ⟨_, ⟨previous, hprevious, Prod.ext (hmade _ _ rfl ?_) rfl⟩, ?_, ?_,
    ⟨(d.store.add (d.ids.fresh d.store.ids).1 question time).1, ?_, rfl⟩, n, ?_⟩
  · rw [hasked, hopened]
  · rw [hbooks.dataset, hasked, hopened]
  · rw [hbooks.clock, hasked]
  · rw [hbooks.store, hasked, hopened]
    exact hfind
  · rw [Desk.elapsed, hbooks.stopwatch, hasked, hopened]
    exact hn

end Office
end QueryDesk
