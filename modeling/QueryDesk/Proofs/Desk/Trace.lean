import QueryDesk.Proofs.Desk.Ending
import QueryDesk.Proofs.Desk.Inquiry
import QueryDesk.Proofs.Desk.Written

/-!
# What the journal tells of an answered question

When answering a question gives a query, the journal tells the same as the query, as long as nobody
but the desk and its main agent writes to it (`Office.tells_of_process`): first that the question was
received, then where its statement comes from if the main agent made one, and last how it ended, with
the statement, the time, the number of rows or the message that the query has.
-/

set_option autoImplicit false

namespace QueryDesk

/-! ## Agents that write to no journal of their own -/

/-- Says that a step adds nothing to the journal. -/
def Action.IsSilent {α : Type} (step : Action α) : Prop :=
  ∀ d : Desk, (step.perform d).2.journal.entries = d.journal.entries

/-- Says that an agent adds nothing to the journal itself: the model of a main agent does not, and any
other agent does not. -/
def AgentKind.IsSilent : AgentKind → Prop
  | main client _ => ∀ c ∈ client, ∀ request, (c request).IsSilent
  | other agent => ∀ inquiry, (agent inquiry).IsSilent

/-- A part of what an entry says; null if there is no such part. -/
def Entry.part (e : Entry) (name : String) : Value := Value.field e.payload (Text.of name)

theorem Entry.part_of (id event : Text) (fields : List (String × Value)) (name : String) :
    Entry.part ⟨id, event, Row.of fields⟩ name = (fields.lookup name).getD .null :=
  Value.field_of fields name

/-! ## What the main agent notes -/

namespace Agent

/-- What the main agent notes about an inquiry, by what comes of it: where a statement comes from, and
nothing if there is none. -/
def IsNoted (id : Text) : Except Fault Generation → List Entry → Prop
  | .ok generation, own => ∃ e, own = [e] ∧ e.queryId = id ∧
      (e.event = Text.of "sql_generated" ∨ e.event = Text.of "sql_fallback_used") ∧
      e.part "sql" = .text generation.statement
  | .error _, own => own = []

variable (inquiry : Inquiry) (d : Desk)

theorem exists_isNoted_byRules (reason : String) : ∃ own,
    ((byRules (some Sink.recorder) reason inquiry).perform d).2.journal.entries =
        d.journal.entries ++ own ∧
      IsNoted inquiry.queryId ((byRules (some Sink.recorder) reason inquiry).perform d).1 own := by
  have hrules : (byRules (some Sink.recorder) reason inquiry).perform d = _ :=
    Action.perform_bind_of_ok (d.perform_note_recorder inquiry.queryId "sql_fallback_used" _) _
  rw [hrules]
  exact ⟨_, rfl, _, rfl, rfl, .inr rfl, Entry.part_of _ _ (("reason", _) :: _) "sql"⟩

theorem exists_isNoted_byModel {client : ModelClient} (tokens : Int)
    (hclient : (client (request tokens inquiry)).IsSilent) : ∃ own,
    ((byModel client (some Sink.recorder) tokens inquiry).perform d).2.journal.entries =
        d.journal.entries ++ own ∧
      IsNoted inquiry.queryId
        ((byModel client (some Sink.recorder) tokens inquiry).perform d).1 own := by
  have hentries := hclient d
  rcases hasked : (client (request tokens inquiry)).perform d with ⟨outcome, d₁⟩
  have hattempted : (client (request tokens inquiry)).attempted.perform d = (.ok outcome, d₁) := by
    rw [Action.perform_attempted, hasked]
  have hmodel : (byModel client (some Sink.recorder) tokens inquiry).perform d = _ :=
    Action.perform_bind_of_ok hattempted _
  rw [hasked] at hentries
  rw [hmodel, ← hentries]
  cases outcome with
  | error fault =>
    dsimp only
    split_ifs
    · exact ⟨[], (List.append_nil _).symm, rfl⟩
    · exact exists_isNoted_byRules inquiry d₁ "quota"
    · exact ⟨[], (List.append_nil _).symm, rfl⟩
  | ok answer =>
    dsimp only
    rw [Action.perform_bind, Action.perform_ofExcept]
    cases Answer.read answer with
    | error fault => exact ⟨[], (List.append_nil _).symm, rfl⟩
    | ok generation =>
      have hnote := d₁.perform_note_recorder inquiry.queryId "sql_generated" generation.row
      dsimp only
      rw [Action.perform_bind_of_ok hnote]
      exact ⟨_, rfl, _, rfl, rfl, .inl rfl, Entry.part_of _ _ _ "sql"⟩

/-- **The main agent notes one entry for a statement, and none for a fault.** -/
theorem exists_isNoted_main {client : Option ModelClient} (tokens : Int)
    (hclient : ∀ c ∈ client, (c (request tokens inquiry)).IsSilent) : ∃ own,
    ((main client (some Sink.recorder) tokens inquiry).perform d).2.journal.entries =
        d.journal.entries ++ own ∧
      IsNoted inquiry.queryId
        ((main client (some Sink.recorder) tokens inquiry).perform d).1 own := by
  cases client with
  | none => exact exists_isNoted_byRules inquiry d "no_client"
  | some client => exact exists_isNoted_byModel inquiry d tokens (hclient client rfl)

end Agent

/-! ## What the journal tells -/

namespace QueryRecord

/-- Says that entries tell where the statement of a query comes from; there is one of them at most. -/
structure IsMadeIn (r : QueryRecord) (own : List Entry) : Prop where
  about : ∀ e ∈ own, e.queryId = r.id
  length : own.length ≤ 1
  event : ∀ e ∈ own, e.event = Text.of "sql_generated" ∨ e.event = Text.of "sql_fallback_used"
  statement : ∀ e ∈ own, ∃ statement, r.outcome.statement? = some statement ∧
    e.part "sql" = .text statement

/-- Says that an entry tells how a query ended. -/
structure EndsIn (r : QueryRecord) (last : Entry) : Prop where
  about : last.queryId = r.id
  event : last.event = Text.of "query_executed" ∨ last.event = Text.of "query_failed"
  executed_iff : last.event = Text.of "query_executed" ↔ r.outcome.status = Text.of "success"
  failed_iff : last.event = Text.of "query_failed" ↔ r.outcome.status = Text.of "error"
  executed : last.event = Text.of "query_executed" → ∃ statement milliseconds text items,
    r.outcome.statement? = some statement ∧ last.part "sql" = .text statement ∧
    r.outcome.milliseconds? = some milliseconds ∧
    last.part "execution_time_ms" = .whole milliseconds ∧
    r.outcome.rows? = some text ∧ Json.read text = .ok (.list items) ∧
    last.part "row_count" = .whole items.length
  failed : last.event = Text.of "query_failed" → ∃ message,
    r.outcome.message? = some message ∧ last.part "error" = .text message ∧
    (last.part "stage" = .text (Text.of "generation") ∧ r.outcome.statement? = none ∨
      ∃ statement, last.part "stage" = .text (Text.of "execution") ∧
        r.outcome.statement? = some statement ∧ last.part "sql" = .text statement)

end QueryRecord

namespace Office

variable {office : Office} {id question : Text} {d d' : Desk} {r : QueryRecord}

/-- A question that gives a query was settled by a completion. -/
theorem outcome_of_settle {ending : Except Fault Outcome}
    (h : (Desk.settle id ending).perform d = (.ok r, d')) :
    ending = .ok r.outcome ∧ r.id = id ∧ d'.journal = d.journal := by
  cases ending with
  | error fault => cases h
  | ok outcome =>
    rw [Desk.settle, d.perform_complete] at h
    split at h
    · next r' store hcomplete =>
      obtain ⟨hr, rfl⟩ := Prod.mk.inj h
      cases hr
      obtain ⟨old, hfind, -, rfl, -⟩ := Store.open_of_complete hcomplete
      exact ⟨rfl, (Store.id_of_find? hfind :), rfl⟩
    · cases h

/-- The agent notes what it made of a question, if it is the main one, and nothing otherwise. -/
theorem exists_isNoted_of_answers {kind : AgentKind} {out : Except Fault Generation} {d₁ : Desk}
    (hsink : office.sink = some Sink.recorder) (hkind : kind.IsSilent)
    (hagent : office.agent = kind.agent (some Sink.recorder))
    (ha : office.Answers id question d out d₁) : ∃ own,
    d₁.journal.entries = d.journal.entries ++ .received id question :: own ∧
      match kind with
      | .main .. => Agent.IsNoted id out own
      | .other _ => own = [] := by
  obtain ⟨previous, -, hasked⟩ := ha
  have hentries := office.entries_deskAsked hsink id question d
  rw [hagent] at hasked
  cases kind with
  | main client tokens =>
    obtain ⟨own, hown, hnoted⟩ := Agent.exists_isNoted_main ⟨id, question, previous⟩
      (office.deskAsked id question d) tokens fun c hc => hkind c hc _
    rw [AgentKind.agent] at hasked
    rw [hasked] at hown hnoted
    refine ⟨own, ?_, hnoted⟩
    rw [hown, hentries, List.append_assoc, List.singleton_append]
  | other agent =>
    have hsilent := hkind ⟨id, question, previous⟩ (office.deskAsked id question d)
    rw [AgentKind.agent] at hasked
    rw [hasked] at hsilent
    exact ⟨[], by rw [hsilent, hentries], rfl⟩

section Completes

variable {out : Except Fault Generation} {last : Entry} {own : List Entry}

/-- A completed query has the statement that the agent made, if it made one. -/
theorem Completes.statement?_eq {outcome : Outcome} (h : Completes id out last outcome) :
    outcome.statement? = out.toOption.map (·.statement) := by
  cases h <;> rfl

/-- The entry for the completion of a query tells how it ended. -/
theorem Completes.endsIn (h : Completes r.id out last r.outcome) : r.EndsIn last := by
  obtain ⟨id, question, createdAt, outcome⟩ := r
  have hevents : Text.of "query_failed" ≠ Text.of "query_executed" := by decide
  have hstatus : Text.of "error" ≠ Text.of "success" := by decide
  cases h with
  | generation message n =>
    refine ⟨rfl, .inr rfl, iff_of_false hevents hstatus, iff_of_true rfl rfl,
      fun h => absurd h hevents, fun _ => ⟨message, rfl, ?_, .inl ⟨?_, rfl⟩⟩⟩
    · exact Entry.part_of _ _ _ "error"
    · exact Entry.part_of _ _ _ "stage"
  | execution generation message n =>
    refine ⟨rfl, .inr rfl, iff_of_false hevents hstatus, iff_of_true rfl rfl,
      fun h => absurd h hevents, fun _ => ⟨message, rfl, ?_, .inr ⟨_, ?_, rfl, ?_⟩⟩⟩
    · exact Entry.part_of _ _ _ "error"
    · exact Entry.part_of _ _ _ "stage"
    · exact Entry.part_of _ _ _ "sql"
  | @success generation rows text n htext =>
    obtain ⟨items, hread, hlength⟩ := exists_read_of_resultText htext
    refine ⟨rfl, .inl rfl, iff_of_true rfl rfl, iff_of_false hevents.symm hstatus.symm,
      fun _ => ⟨_, n, text, items, rfl, ?_, rfl, ?_, rfl, hread, ?_⟩,
      fun h => absurd h hevents.symm⟩
    · exact Entry.part_of _ _ _ "sql"
    · exact Entry.part_of _ _ _ "execution_time_ms"
    · rw [hlength]
      exact Entry.part_of _ _ _ "row_count"

/-- What the main agent notes tells where the statement of a query comes from. -/
theorem Completes.isMadeIn (h : Completes r.id out last r.outcome)
    (hown : Agent.IsNoted r.id out own) : r.IsMadeIn own := by
  have hstatement := h.statement?_eq
  cases out with
  | error fault =>
    obtain rfl : own = [] := hown
    exact ⟨by simp, by simp, by simp, by simp⟩
  | ok generation =>
    obtain ⟨e, rfl, hid, hevent, hsql⟩ := hown
    exact ⟨by simpa using hid, by simp, by simpa using hevent, by simpa using ⟨_, hstatement, hsql⟩⟩

end Completes

/-- **The journal tells what became of a question that gives a query.** -/
theorem tells_of_process {kind : AgentKind} (hsink : office.sink = some Sink.recorder)
    (hagent : office.agent = kind.agent (some Sink.recorder)) (hkind : kind.IsSilent)
    (h : (office.process id question).perform d = (.ok r, d')) : ∃ own last,
    d'.journal.entries = d.journal.entries ++ .received r.id question :: (own ++ [last]) ∧
      r.IsMadeIn own ∧ r.EndsIn last ∧
      ∀ client tokens, kind = .main client tokens →
        (own.length = 1 ↔ r.outcome.statement?.isSome) := by
  obtain ⟨d₂, entries, ending, hproceeds, stopwatch, journal, hperform, hentries⟩ :=
    office.exists_proceeds office.executor id question d
  rw [process] at h
  rw [h] at hperform
  obtain ⟨rfl, rfl, hjournal⟩ := outcome_of_settle hperform.symm
  have hlast : d'.journal.entries = d₂.journal.entries ++ entries := hjournal ▸ hentries hsink
  cases hproceeds with
  | @answers out d₁ _ _ _ ha he =>
    obtain ⟨last, rfl, hcompletes⟩ := he.exists_completes
    obtain ⟨own, hentries₁, hown⟩ := exists_isNoted_of_answers hsink hkind hagent ha
    refine ⟨own, last, ?_, ?_, hcompletes.endsIn, ?_⟩
    · rw [hlast, he.entries_eq, hentries₁, List.append_assoc, List.cons_append]
    · cases kind with
      | main client tokens => exact hcompletes.isMadeIn hown
      | other agent =>
        obtain rfl : own = [] := hown
        exact ⟨by simp, by simp, by simp, by simp⟩
    · rintro client tokens rfl
      rw [hcompletes.statement?_eq]
      cases out with
      | error fault => simp [show own = [] from hown]
      | ok generation =>
        obtain ⟨e, rfl, -⟩ := hown
        simp

/-- An office that records what happens and has no model. -/
def recordingOffice : Office :=
  ⟨Agent.main none (some Sink.recorder) Agent.usualTokens, some Sink.recorder, none, usualCount,
    usualCount⟩

/-- A desk with a query that was just opened, and with no business records. -/
def openDesk : Desk := { Desk.empty with store := ⟨[openQuery]⟩ }

/-- A question about overdue bills is answered with no rows, and the journal tells so. -/
theorem tells_of_process_without_rows : ∃ r own last,
    ((recordingOffice.process openQuery.id openQuery.question).perform openDesk).1 = .ok r ∧
      r.outcome.rows? = some (Text.of "[]") ∧
      ((recordingOffice.process openQuery.id openQuery.question).perform
          openDesk).2.journal.entries = .received r.id openQuery.question :: (own ++ [last]) ∧
      r.IsMadeIn own ∧ r.EndsIn last ∧ own.length = 1 := by
  have hkind : (AgentKind.main none Agent.usualTokens).IsSilent := nofun
  have hagent : recordingOffice.agent =
      (AgentKind.main none Agent.usualTokens).agent (some Sink.recorder) := rfl
  have hrows : ((recordingOffice.process openQuery.id openQuery.question).perform
      openDesk).1.toOption.map (fun r => (r.outcome.rows?, r.outcome.statement?.isSome)) =
        some (some (Text.of "[]"), true) := by decide +kernel
  obtain ⟨r, hr, hrow⟩ := Option.map_eq_some_iff.mp hrows
  obtain ⟨hrow, hmade⟩ := Prod.mk.inj hrow
  have hresult := Except.ok_of_toOption hr
  obtain ⟨own, last, hentries, hmadeIn, hends, hone⟩ :=
    tells_of_process rfl hagent hkind (Prod.ext hresult rfl : _ = (Except.ok r, _))
  exact ⟨r, own, last, hresult, hrow, hentries, hmadeIn, hends, (hone _ _ rfl).mpr hmade⟩

end Office
end QueryDesk
