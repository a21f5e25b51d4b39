import QueryDesk.Proofs.Desk.Steps
import QueryDesk.Proofs.Query.Topics

/-!
# What an agent makes of an inquiry

The main agent asks a model, if there is one, and what it gives is settled by what the model does
(`Agent.perform_main`): a statement by the rules if there is no model or its quota is used up, a
fault of generation for any other fault of the model, and what is read from its answer otherwise.

So a statement always begins with `SELECT` and a confidence always lies between zero and one, a
quota that is used up is always made good by the rules, and a fault that is none of generation is a
demand to stop or escapes from an answer (`Agent.main_outcomes`).
-/

set_option autoImplicit false

namespace QueryDesk
namespace Agent

/-! ## Asking a model -/

section Asking

variable (client : ModelClient) (sink : Option Sink) (tokens : Int) (inquiry : Inquiry) (d : Desk)

/-- What a model is asked for an inquiry. -/
def request : ModelRequest :=
  ⟨Prompt.messages inquiry.question inquiry.previous, some tokens, true⟩

/-- What the agent makes of what a model does. -/
def conclusion (question : Text) : Except Fault Value → Except Fault Generation
  | .error fault =>
    if fault.isDemandToStop then .error fault
    else if fault.isQuota then .ok (FallbackRule.choose question).generation
    else .error (.generation (Text.of "AI processing failed: " ++ fault.message))
  | .ok answer => Answer.read answer

/-- The rules always give a statement, and change the journal only. -/
theorem perform_byRules (reason : String) : ∃ journal,
    (byRules sink reason inquiry).perform d =
      (.ok (FallbackRule.choose inquiry.question).generation, { d with journal }) := by
  obtain ⟨journal, hnote⟩ := Desk.perform_note d sink inquiry.queryId "sql_fallback_used"
    (Row.of [("reason", .text (Text.of reason))] ++
      (FallbackRule.choose inquiry.question).generation.row)
  exact ⟨journal, Action.perform_bind_of_ok hnote _⟩

/-- What a model does decides what the agent gives; beyond that the journal is all that changes. -/
theorem perform_byModel {outcome : Except Fault Value} {d₁ : Desk}
    (h : (client (request tokens inquiry)).perform d = (outcome, d₁)) : ∃ journal,
    (byModel client sink tokens inquiry).perform d =
      (conclusion inquiry.question outcome, { d₁ with journal }) := by
  have hattempted : (client (request tokens inquiry)).attempted.perform d = (.ok outcome, d₁) := by
    rw [Action.perform_attempted, h]
  show ∃ journal, ((client (request tokens inquiry)).attempted >>= _).perform d = _
  rw [Action.perform_bind_of_ok hattempted]
  cases outcome with
  | error fault =>
    dsimp only [conclusion]
    by_cases hstop : fault.isDemandToStop = true
    · rw [if_pos hstop, if_pos hstop]
      exact ⟨d₁.journal, rfl⟩
    · by_cases hquota : fault.isQuota = true
      · rw [if_neg hstop, if_pos hquota, if_neg hstop, if_pos hquota]
        exact perform_byRules sink inquiry d₁ "quota"
      · rw [if_neg hstop, if_neg hquota, if_neg hstop, if_neg hquota]
        exact ⟨d₁.journal, rfl⟩
  | ok answer =>
    dsimp only [conclusion]
    cases hread : Answer.read answer with
    | error fault => exact ⟨d₁.journal, rfl⟩
    | ok generation =>
      obtain ⟨journal, hnote⟩ := Desk.perform_note d₁ sink inquiry.queryId "sql_generated"
        generation.row
      exact ⟨journal, Action.perform_bind_of_ok hnote _⟩

end Asking

/-! ## The main agent -/

variable (client : Option ModelClient) (sink : Option Sink) (tokens : Int) (inquiry : Inquiry)
  (d : Desk)

/-- What a model does with an inquiry, if there is one to ask. -/
def outcome? : Option (Except Fault Value) :=
  client.map fun client => ((client (request tokens inquiry)).perform d).1

/-- The result of the main agent is settled by what its model does. -/
theorem perform_main : ((main client sink tokens inquiry).perform d).1 =
    (outcome? client tokens inquiry d).elim
      (.ok (FallbackRule.choose inquiry.question).generation) (conclusion inquiry.question) := by
  cases client with
  | none =>
    obtain ⟨journal, hrules⟩ := perform_byRules sink inquiry d "no_client"
    rw [main, hrules]
    rfl
  | some client =>
    obtain ⟨journal, hmodel⟩ := perform_byModel client sink tokens inquiry d rfl
    rw [main, hmodel]
    rfl

/-- Says that a generation has a statement that begins with `SELECT` in upper case and a confidence
between zero and one. -/
structure IsUsable (generation : Generation) : Prop where
  select : Text.of "SELECT" <+: generation.statement.upper
  share : generation.confidence.IsShare

theorem isUsable_choose (question : Text) : IsUsable (FallbackRule.choose question).generation :=
  ⟨FallbackRule.prefix_upper_choose question, FallbackRule.isShare_choose question⟩

section Conclusion

variable {question : Text} {outcome : Except Fault Value}

theorem isUsable_of_conclusion {generation : Generation}
    (h : conclusion question outcome = .ok generation) : IsUsable generation := by
  cases outcome with
  | error fault =>
    rw [conclusion] at h
    split at h
    · cases h
    · split at h
      · exact Except.ok.inj h ▸ isUsable_choose question
      · cases h
  | ok answer =>
    obtain ⟨-, hselect, hshare⟩ := Answer.generation_of_read h
    exact ⟨hselect, hshare⟩

/-- A fault that is none of generation is not the agent's own. -/
theorem conclusion_eq_error_iff {fault : Fault} (hfault : ∀ message, fault ≠ .generation message) :
    conclusion question outcome = .error fault ↔
      (outcome = .error fault ∧ fault.isDemandToStop = true) ∨
        ∃ answer, outcome = .ok answer ∧ Answer.Escapes answer fault := by
  cases outcome with
  | error fault' =>
    simp only [conclusion, Except.error.injEq, reduceCtorEq, false_and, exists_false, or_false]
    split
    · next hstop =>
      refine ⟨fun h => ?_, fun h => congrArg _ h.1⟩
      obtain rfl := Except.error.inj h
      exact ⟨rfl, hstop⟩
    · next hstop =>
      have hnot : ¬(fault' = fault ∧ fault.isDemandToStop = true) := by
        rintro ⟨rfl, h⟩
        exact hstop h
      split
      · exact iff_of_false nofun hnot
      · exact iff_of_false (fun h => hfault _ (Except.error.inj h).symm) hnot
  | ok answer =>
    rw [conclusion, Answer.read_eq_error_iff hfault]
    simp

end Conclusion

/-- **What comes of an inquiry.**  A statement is usable.  A quota that is used up gives a statement
by the rules.  A fault that is none of generation is a demand to stop, or it escapes from the answer
of the model. -/
theorem main_outcomes :
    (∀ generation, ((main client sink tokens inquiry).perform d).1 = .ok generation →
      IsUsable generation) ∧
    (∀ fault, outcome? client tokens inquiry d = some (.error fault) →
      fault.isDemandToStop = false → fault.isQuota = true →
      ((main client sink tokens inquiry).perform d).1 =
        .ok (FallbackRule.choose inquiry.question).generation) ∧
    (∀ fault, (∀ message, fault ≠ .generation message) →
      (((main client sink tokens inquiry).perform d).1 = .error fault ↔
        (outcome? client tokens inquiry d = some (.error fault) ∧ fault.isDemandToStop = true) ∨
        ∃ answer, outcome? client tokens inquiry d = some (.ok answer) ∧
          Answer.Escapes answer fault)) := by
  rw [perform_main]
  cases outcome? client tokens inquiry d with
  | none =>
    refine ⟨fun generation h => ?_, nofun, fun fault _ => ?_⟩
    · exact Except.ok.inj h ▸ isUsable_choose _
    · simp
  | some outcome =>
    refine ⟨fun generation h => isUsable_of_conclusion h, ?_, fun fault hfault => ?_⟩
    · intro fault houtcome hstop hquota
      rw [Option.some.inj houtcome, Option.elim_some, conclusion,
        if_neg (Bool.eq_false_iff.mp hstop), if_pos hquota]
    · rw [Option.elim_some, conclusion_eq_error_iff hfault]
      simp

/-- A model whose client is told to slow down. -/
def slowedDown : ModelClient :=
  fun _ => throw (.foreign (Text.of "RateLimitError") (Text.of "slow down"))

/-- Then the rules give a statement. -/
theorem main_slowedDown :
    ((main (some slowedDown) none usualTokens ⟨[], Text.of "Show low inventory", []⟩).perform
      Desk.empty).1 = .ok (FallbackRule.choose (Text.of "Show low inventory")).generation :=
  (main_outcomes (some slowedDown) none usualTokens ⟨[], Text.of "Show low inventory", []⟩
    Desk.empty).2.1 _ rfl (by decide) (by decide +kernel)

/-- A model with one answer, whose confidence is too large for a real number. -/
def tooSure : ModelClient := fun _ => pure <| .object (Row.of [("output_text",
  .text (Text.of "\x7b\"sql\": \"SELECT * FROM invoices\", \"confidence\": 1" ++
    (List.replicate 309 (.char '0') ++ Text.of "\x7d")))])

/-- Not every fault of the main agent is one of generation, whatever its model answers. -/
theorem exists_main_error_ne_generation : ¬∀ (client : Option ModelClient) (sink : Option Sink)
    (tokens : Int) (inquiry : Inquiry) (d : Desk) (fault : Fault),
    (∀ cause, outcome? client tokens inquiry d = some (.error cause) →
      cause.isDemandToStop = false) →
    ((main client sink tokens inquiry).perform d).1 = .error fault →
      ∃ message, fault = .generation message := by
  intro h
  have hresult : ((main (some tooSure) none usualTokens ⟨[], [], []⟩).perform Desk.empty).1.map
      (fun _ => ()) = .error .wholeTooLargeForReal := by
    decide +kernel
  cases hmain : ((main (some tooSure) none usualTokens ⟨[], [], []⟩).perform Desk.empty).1 with
  | ok generation =>
    rw [hmain] at hresult
    cases hresult
  | error fault =>
    rw [hmain] at hresult
    have houtcome : ∀ cause, outcome? (some tooSure) usualTokens ⟨[], [], []⟩ Desk.empty
        ≠ some (.error cause) := fun _ hcause => by cases hcause
    obtain ⟨message, hmessage⟩ := h _ _ _ _ _ _ (fun cause hc => absurd hc (houtcome cause)) hmain
    obtain rfl := Except.error.inj hresult
    cases hmessage

end Agent

/-! ## Kinds of agents -/

/-- An agent that is still to be told what sink it has: the main agent notes what it does in the sink
of the office, any other agent has none. -/
inductive AgentKind
  | main (client : Option ModelClient) (tokens : Int)
  | other (agent : Agent)

namespace AgentKind

/-- The agent with a sink. -/
def agent (sink : Option Sink) : AgentKind → Agent
  | main client tokens => Agent.main client sink tokens
  | other agent => agent

end AgentKind
end QueryDesk
