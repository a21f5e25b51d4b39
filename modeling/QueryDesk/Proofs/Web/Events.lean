import QueryDesk.Proofs.Desk.Discreet
import QueryDesk.Proofs.Desk.Orderly
import QueryDesk.Proofs.Desk.Trace
import QueryDesk.Proofs.Web.Requests

/-!
# Queries and events

The journal and the store both say how a query ended: by an event, and by an outcome.  Behind the
answer of the web front end the two agree, unless the question ended with a fault that only the front
end takes care of (`Office.Unnoted`), for the front end closes the query and notes nothing.  Over any
requests that is the only way in which they come to disagree (`Server.agreesWith_iff`).
-/

set_option autoImplicit false

namespace QueryDesk

/-! ## Events that tell of an end -/

namespace Entry

/-- How many entries tell of an event of a query. -/
def count (event : String) (id : Text) (entries : List Entry) : Nat :=
  entries.countP fun e => e.queryId == id && e.event == Text.of event

/-- Says that an entry tells of the end of its query. -/
def IsDecisive (e : Entry) : Prop :=
  e.event = Text.of "query_failed" ∨ e.event = Text.of "query_executed"

/-- Says that no entry tells of the end of a query. -/
def Mute (id : Text) (entries : List Entry) : Prop :=
  ∀ e ∈ entries, e.queryId = id → ¬e.IsDecisive

variable {id : Text} {entries more : List Entry}

theorem count_append (event : String) (id : Text) (entries more : List Entry) :
    count event id (entries ++ more) = count event id entries + count event id more :=
  List.countP_append

theorem Mute.count_failed (h : Mute id entries) : count "query_failed" id entries = 0 := by
  refine List.countP_eq_zero.mpr fun e he htest => ?_
  rw [Bool.and_eq_true, beq_iff_eq, beq_iff_eq] at htest
  exact h e he htest.1 (.inl htest.2)

theorem Mute.count_executed (h : Mute id entries) : count "query_executed" id entries = 0 := by
  refine List.countP_eq_zero.mpr fun e he htest => ?_
  rw [Bool.and_eq_true, beq_iff_eq, beq_iff_eq] at htest
  exact h e he htest.1 (.inr htest.2)

end Entry

namespace QueryRecord

variable {r : QueryRecord} {entries more : List Entry}

/-- Says that a query and the entries about it agree: it failed just if they tell of one failure and
of no execution, and it succeeded just if they tell of one execution and of no failure. -/
structure AgreesWith (r : QueryRecord) (entries : List Entry) : Prop where
  error : r.outcome.status = Text.of "error" ↔
    Entry.count "query_failed" r.id entries = 1 ∧ Entry.count "query_executed" r.id entries = 0
  success : r.outcome.status = Text.of "success" ↔
    Entry.count "query_executed" r.id entries = 1 ∧ Entry.count "query_failed" r.id entries = 0

/-- Agreement is a matter of how many failures and how many executions there are. -/
theorem agreesWith_iff_of_counts {failed executed : Nat}
    (hfailed : Entry.count "query_failed" r.id entries = failed)
    (hexecuted : Entry.count "query_executed" r.id entries = executed) :
    r.AgreesWith entries ↔
      (r.outcome.status = Text.of "error" ↔ failed = 1 ∧ executed = 0) ∧
        (r.outcome.status = Text.of "success" ↔ executed = 1 ∧ failed = 0) := by
  subst hfailed hexecuted
  exact ⟨fun h => ⟨h.error, h.success⟩, fun h => ⟨h.1, h.2⟩⟩

theorem agreesWith_congr
    (hfailed : Entry.count "query_failed" r.id more = Entry.count "query_failed" r.id entries)
    (hexecuted : Entry.count "query_executed" r.id more = Entry.count "query_executed" r.id entries) :
    r.AgreesWith more ↔ r.AgreesWith entries := by
  rw [agreesWith_iff_of_counts hfailed hexecuted, agreesWith_iff_of_counts rfl rfl]

/-- Entries that do not tell of the end of a query make no difference behind others. -/
theorem agreesWith_append_left (h : Entry.Mute r.id more) :
    r.AgreesWith (entries ++ more) ↔ r.AgreesWith entries :=
  agreesWith_congr (by rw [Entry.count_append, h.count_failed, Nat.add_zero])
    (by rw [Entry.count_append, h.count_executed, Nat.add_zero])

/-- Nor do they in front of others. -/
theorem agreesWith_append_right (h : Entry.Mute r.id entries) :
    r.AgreesWith (entries ++ more) ↔ r.AgreesWith more :=
  agreesWith_congr (by rw [Entry.count_append, h.count_failed, Nat.zero_add])
    (by rw [Entry.count_append, h.count_executed, Nat.zero_add])

/-- With nothing noted a query is to be open. -/
theorem agreesWith_nil_iff : r.AgreesWith [] ↔ r.outcome.isOpen = true := by
  have hnone : ∀ event, Entry.count event r.id [] = 0 := fun _ => rfl
  rw [agreesWith_iff_of_counts (hnone _) (hnone _)]
  cases r.outcome <;> simp [Outcome.status, Outcome.isOpen, Text.of_inj]

theorem agreesWith_failed_iff {e : Entry} (hid : e.queryId = r.id)
    (hevent : e.event = Text.of "query_failed") :
    r.AgreesWith [e] ↔ r.outcome.status = Text.of "error" := by
  have hfailed : Entry.count "query_failed" r.id [e] = 1 := by simp [Entry.count, hid, hevent]
  have hexecuted : Entry.count "query_executed" r.id [e] = 0 := by
    simp [Entry.count, hevent, Text.of_inj]
  rw [agreesWith_iff_of_counts hfailed hexecuted]
  cases r.outcome <;> simp [Outcome.status, Text.of_inj]

theorem agreesWith_executed_iff {e : Entry} (hid : e.queryId = r.id)
    (hevent : e.event = Text.of "query_executed") :
    r.AgreesWith [e] ↔ r.outcome.status = Text.of "success" := by
  have hexecuted : Entry.count "query_executed" r.id [e] = 1 := by
    simp [Entry.count, hid, hevent]
  have hfailed : Entry.count "query_failed" r.id [e] = 0 := by
    simp [Entry.count, hevent, Text.of_inj]
  rw [agreesWith_iff_of_counts hfailed hexecuted]
  cases r.outcome <;> simp [Outcome.status, Text.of_inj]

end QueryRecord

/-! ## Questions that end with nothing noted -/

/-- Says that an agent leaves the queries alone and tells of no end in the journal, whatever it is
asked. -/
structure Agent.IsReserved (agent : Agent) : Prop where
  store : ∀ inquiry d, ((agent inquiry).perform d).2.store = d.store
  entries : ∀ inquiry d, ∃ own, ((agent inquiry).perform d).2.journal.entries =
    d.journal.entries ++ own ∧ ∀ e ∈ own, ¬e.IsDecisive

/-- **The main agent is reserved** if its model is: it notes only where its statements come from. -/
theorem Agent.isReserved_main {client : Option ModelClient} (tokens : Int)
    (hdiscreet : ∀ c ∈ client, c.IsDiscreet)
    (hsilent : ∀ c ∈ client, ∀ request, (c request).IsSilent) :
    (main client (some Sink.recorder) tokens).IsReserved := by
  refine ⟨fun inquiry d => (sameBooks_main client (some Sink.recorder) tokens inquiry d
    hdiscreet).store, fun inquiry d => ?_⟩
  obtain ⟨own, hown, hnoted⟩ := exists_isNoted_main inquiry d tokens fun c hc => hsilent c hc _
  refine ⟨own, hown, fun e he => ?_⟩
  cases hresult : ((main client (some Sink.recorder) tokens inquiry).perform d).1 with
  | error fault =>
    rw [hresult] at hnoted
    obtain rfl : own = [] := hnoted
    exact (List.not_mem_nil he).elim
  | ok generation =>
    rw [hresult] at hnoted
    obtain ⟨e', rfl, -, hevent, -⟩ := hnoted
    obtain rfl := List.mem_singleton.mp he
    have hother : ∀ event ∈ [Text.of "sql_generated", Text.of "sql_fallback_used"],
        event ≠ Text.of "query_failed" ∧ event ≠ Text.of "query_executed" := by decide
    obtain ⟨hfailed, hexecuted⟩ := hother e.event (by simpa using hevent)
    exact fun h => h.elim hfailed hexecuted

namespace Office

/-- The ways in which a question ends at the desk where its query was opened so that the query is
closed as failed and no failure is noted. -/
inductive Unnoted (office : Office) (id question : Text) (d : Desk) : Prop
  /-- The queries of the store cannot be brought into an order of time. -/
  | history {fault : Fault} (h : d.store.recent office.contextQueries = .error fault)
  /-- The agent meets a fault that is none of generation. -/
  | agent {fault : Fault} {d₁ : Desk} (ha : office.Answers id question d (.error fault) d₁)
    (hordinary : fault.IsOrdinary) (h : ∀ message, fault ≠ .generation message)
  /-- The statement is run, but the stopwatch does not measure the time. -/
  | untimed {generation : Generation} {d₁ d' : Desk} {rows : List Row} {fault : Fault}
    (ha : office.Answers id question d (.ok generation) d₁)
    (hrun : (office.executor generation.statement).perform d₁ = (.ok rows, d'))
    (h : d'.elapsed d.stopwatch.current = .error fault)
  /-- The statement is run, and noted as run, but its rows have no form in a result. -/
  | unwritten {generation : Generation} {d₁ d' : Desk} {rows : List Row} {fault : Fault}
    (ha : office.Answers id question d (.ok generation) d₁)
    (hrun : (office.executor generation.statement).perform d₁ = (.ok rows, d'))
    (h : resultText rows = .error fault)

variable {office : Office} {id question : Text} {d d' d₁ : Desk} {out : Except Fault Generation}
  {entries : List Entry} {ending : Except Fault Outcome}

theorem Answers.exists_recent (h : office.Answers id question d out d₁) :
    ∃ records, d.store.recent office.contextQueries = .ok records := by
  obtain ⟨previous, hprevious, -⟩ := h
  rw [perform_context] at hprevious
  cases hrecent : d.store.recent office.contextQueries with
  | ok records => exact ⟨records, rfl⟩
  | error fault =>
    rw [hrecent] at hprevious
    cases hprevious

/-- What an agent did not come to a statement of is not noted if its fault is an ordinary one that is
none of generation. -/
theorem unnoted_iff_of_error {fault : Fault} (ha : office.Answers id question d (.error fault) d₁) :
    office.Unnoted id question d ↔
      fault.IsOrdinary ∧ ∀ message, fault ≠ .generation message := by
  constructor
  · intro h
    cases h with
    | history hfault =>
      obtain ⟨records, hrecords⟩ := ha.exists_recent
      rw [hfault] at hrecords
      cases hrecords
    | agent ha' hordinary h =>
      obtain ⟨hsame, -⟩ := ha.unique office ha'
      cases hsame
      exact ⟨hordinary, h⟩
    | untimed ha' | unwritten ha' => cases (ha.unique office ha').1
  · rintro ⟨hordinary, h⟩
    exact .agent ha hordinary h

/-- What became of a statement is not noted as a failure if it could be run, and then either its time
or its rows could not be kept. -/
theorem unnoted_iff_of_ok {generation : Generation} {result : Except Fault (List Row)}
    (ha : office.Answers id question d (.ok generation) d₁)
    (hrun : (office.executor generation.statement).perform d₁ = (result, d')) :
    office.Unnoted id question d ↔ ∃ rows fault, result = .ok rows ∧
      (d'.elapsed d.stopwatch.current = .error fault ∨ resultText rows = .error fault) := by
  constructor
  · intro h
    cases h with
    | history hfault =>
      obtain ⟨records, hrecords⟩ := ha.exists_recent
      rw [hfault] at hrecords
      cases hrecords
    | agent ha' => cases (ha.unique office ha').1
    | untimed ha' hrun' h =>
      obtain ⟨hsame, rfl⟩ := ha.unique office ha'
      cases hsame
      rw [hrun] at hrun'
      cases hrun'
      exact ⟨_, _, rfl, .inl h⟩
    | unwritten ha' hrun' h =>
      obtain ⟨hsame, rfl⟩ := ha.unique office ha'
      cases hsame
      rw [hrun] at hrun'
      cases hrun'
      exact ⟨_, _, rfl, .inr h⟩
  · rintro ⟨rows, fault, rfl, h | h⟩
    · exact .untimed ha hrun h
    · exact .unwritten ha hrun h

end Office

namespace Server

open Office

variable {office : Office} {id question : Text} {d d' : Desk} {r : QueryRecord}
  {entries : List Entry} {ending : Except Fault Outcome}

theorem fate_of_isOrdinary {fault : Fault} (h : fault.IsOrdinary) :
    fate (.error fault) = some (givenUp fault) := by
  rw [fate_error h.unfinished, h.goesOn]
  rfl

theorem fate_of_not_isOrdinary {fault : Fault} (h : ¬fault.IsOrdinary) :
    fate (.error fault) = none := by
  by_cases hfinished : ∃ id status, fault = .alreadyFinished id status
  · obtain ⟨id, status, rfl⟩ := hfinished
    rfl
  · have hother : ∀ id status, fault ≠ .alreadyFinished id status :=
      fun id status hfault => hfinished ⟨id, status, hfault⟩
    rw [fate_error hother, if_pos]
    cases hstop : fault.isDemandToStop with
    | true => rfl
    | false => exact absurd ⟨hstop, hother⟩ h

/-! ## What becomes of a query -/

/-- The outcome of a query behind its answer. -/
def outcomeOf (ending : Except Fault Outcome) : Outcome := (fate ending).getD .processing

/-- A failure is a failure, whether its time was measured or not. -/
theorem status_outcomeOf_elapsed {started : Binary64} {outcome : Int → Outcome}
    (h : ∀ n, (outcome n).status = Text.of "error") :
    (outcomeOf ((d.elapsed started).map outcome)).status = Text.of "error" := by
  cases helapsed : d.elapsed started with
  | ok n => exact h n
  | error fault =>
    have hfate := fate_of_isOrdinary (Desk.isOrdinary_of_elapsed helapsed)
    show ((fate (.error fault)).getD .processing).status = _
    rw [hfate]
    rfl

/-- **What is noted last and what becomes of the query agree**, unless the end of the question is one
that is not noted. -/
theorem agreesWith_iff_of_proceeds (hr : r.outcome = outcomeOf ending)
    (h : office.Proceeds office.executor r.id question d d' entries ending) :
    r.AgreesWith entries ↔ ¬office.Unnoted r.id question d := by
  cases h with
  | history hrecent =>
    have hfault := Store.fault_of_recent hrecent
    refine iff_of_false ?_ (not_not_intro (.history hrecent))
    rw [QueryRecord.agreesWith_nil_iff, hr, hfault]
    exact Bool.false_ne_true
  | @answers out d₁ _ _ _ ha he =>
    cases he with
    | @agent fault _ hgeneration =>
      rw [QueryRecord.agreesWith_nil_iff, unnoted_iff_of_error ha, hr, outcomeOf]
      by_cases hordinary : fault.IsOrdinary
      · rw [fate_of_isOrdinary hordinary]
        exact iff_of_false Bool.false_ne_true (not_not_intro ⟨hordinary, hgeneration⟩)
      · rw [fate_of_not_isOrdinary hordinary]
        exact iff_of_true rfl fun h => hordinary h.1
    | generation message =>
      rw [QueryRecord.agreesWith_failed_iff rfl rfl, unnoted_iff_of_error ha, hr]
      exact iff_of_true (status_outcomeOf_elapsed fun _ => rfl) fun h => h.2 message rfl
    | @executor generation _ _ fault hrun hfault =>
      obtain ⟨result, clock, journal, hexecute, hstatement⟩ :=
        office.perform_execute generation.statement d₁
      rw [Office.executor, hexecute] at hrun
      rw [hstatement fault (Prod.mk.inj hrun).1] at hfault
      cases hfault
    | execution hrun =>
      rw [QueryRecord.agreesWith_failed_iff rfl rfl, unnoted_iff_of_ok ha hrun, hr]
      refine iff_of_true (status_outcomeOf_elapsed fun _ => rfl) ?_
      rintro ⟨rows, fault, ⟨⟩, -⟩
    | untimed hrun helapsed =>
      have hfate := fate_of_isOrdinary (Desk.isOrdinary_of_elapsed helapsed)
      rw [QueryRecord.agreesWith_nil_iff, unnoted_iff_of_ok ha hrun, hr, outcomeOf, hfate]
      exact iff_of_false Bool.false_ne_true (not_not_intro ⟨_, _, rfl, .inl helapsed⟩)
    | unwritten hrun helapsed htext =>
      have hfate := fate_of_isOrdinary (isOrdinary_of_resultText htext)
      rw [QueryRecord.agreesWith_executed_iff rfl rfl, unnoted_iff_of_ok ha hrun, hr, outcomeOf,
        hfate]
      refine iff_of_false ?_ (not_not_intro ⟨_, _, rfl, .inr htext⟩)
      exact show Text.of "error" ≠ Text.of "success" by decide
    | success hrun helapsed htext =>
      rw [QueryRecord.agreesWith_executed_iff rfl rfl, unnoted_iff_of_ok ha hrun, hr]
      refine iff_of_true rfl ?_
      rintro ⟨rows, fault, ⟨⟩, h | h⟩
      · rw [helapsed] at h
        cases h
      · rw [htext] at h
        cases h

/-- On the way to its end a question leaves the queries alone, and nothing that is noted tells of an
end; what is noted last is about its query. -/
theorem exists_own (hsink : office.sink = some Sink.recorder) (hagent : office.agent.IsReserved)
    (h : office.Proceeds office.executor id question d d' entries ending) :
    d'.store = d.store ∧ (∀ e ∈ entries, e.queryId = id) ∧
      ∃ own, d'.journal.entries = d.journal.entries ++ own ∧ ∀ e ∈ own, ¬e.IsDecisive := by
  have hreceived : ¬(Entry.received id question).IsDecisive := by
    have hother : Text.of "question_received" ≠ Text.of "query_failed" ∧
        Text.of "question_received" ≠ Text.of "query_executed" := by decide
    exact fun h => h.elim hother.1 hother.2
  have hasked := office.entries_deskAsked hsink id question d
  cases h with
  | history =>
    exact ⟨office.store_deskAsked id question d, nofun, _, hasked,
      List.forall_mem_singleton.mpr hreceived⟩
  | answers ha he =>
    obtain ⟨previous, -, hagain⟩ := ha
    have hstore := hagent.store ⟨id, question, previous⟩ (office.deskAsked id question d)
    obtain ⟨own, hown, hsilent⟩ :=
      hagent.entries ⟨id, question, previous⟩ (office.deskAsked id question d)
    rw [hagain] at hstore hown
    refine ⟨(he.store_eq.trans hstore).trans (office.store_deskAsked id question d), he.about,
      .received id question :: own, ?_, List.forall_mem_cons.mpr ⟨hreceived, hsilent⟩⟩
    rw [he.entries_eq, hown, hasked, List.append_assoc, List.singleton_append]

/-- What a request adds to the store and to the journal: nothing, or a query and entries that tell of
the end of no other. -/
inductive Adds (office : Office) (request : Request) (d : Desk) : Response → Desk → Prop
  | nothing {response : Response} {d' : Desk} (hstore : d'.store = d.store)
    (hentries : d'.journal.entries = d.journal.entries) : Adds office request d response d'
  | query {question : Text} {r : QueryRecord} {outcome : Outcome} {more : List Entry}
    {response : Response} {d' : Desk} (hread : Submission.read request.body = .ok question)
    (hopens : d.Opens question r) (hrecords : d'.store.records = d.store.records ++ [{ r with outcome }])
    (hentries : d'.journal.entries = d.journal.entries ++ more)
    (hmore : ∀ e ∈ more, e.IsDecisive → e.queryId = r.id)
    (hagrees : ({ r with outcome } : QueryRecord).AgreesWith more ↔
      ¬(response.status = 200 ∧ office.Unnoted r.id question (d.opened question))) :
    Adds office request d response d'

/-- **What a request adds.** -/
theorem Handles.adds {request : Request} {response : Response}
    (hsink : office.sink = some Sink.recorder) (hagent : office.agent.IsReserved)
    (h : Handles office office.executor request d response d') :
    Adds office request d response d' := by
  cases h with
  | looks hsame => exact .nothing hsame.store hsame.entries
  | @leaves question r fault _ hread hopens =>
    refine .query hread hopens hopens.records ?_ (fun _ he => (List.not_mem_nil he).elim) ?_
    · rw [hopens.entries, List.append_nil]
    · rw [QueryRecord.agreesWith_nil_iff, hopens.outcome]
      exact iff_of_true rfl fun h => absurd h.1 (by decide)
  | @takes question r shown _ _ hread hopens _ hfinish =>
    obtain ⟨d₁, entries, ending, stopwatch, journal, hproceeds, hfinished, hlast⟩ :=
      perform_finish office office.executor r.id question (d.opened question)
    obtain ⟨hstore, habout, own, hown, hsilent⟩ := exists_own hsink hagent hproceeds
    obtain rfl := (Prod.mk.inj (hfinish.symm.trans hfinished)).2
    have hopened : (d.opened question).store = ⟨d.store.records ++ [r]⟩ :=
      congrArg Store.mk hopens.records
    have hopen : r.outcome.isOpen = true := by rw [hopens.outcome]; rfl
    refine @Adds.query office request d question r (outcomeOf ending) (own ++ entries) _ _ hread
      hopens ?_ ?_ ?_ ?_
    · rw [hstore, hopened, Store.closing_concat hopens.id_not_mem hopen, hopens.outcome]
      rfl
    · rw [hlast hsink, hown, hopens.entries, List.append_assoc]
    · exact List.forall_mem_append.mpr ⟨fun e he hdecisive => absurd hdecisive (hsilent e he),
        fun e he _ => habout e he⟩
    · have hmute : Entry.Mute r.id own := fun e he _ => hsilent e he
      have hstatus : (Response.ok shown).status = 200 := rfl
      have hends : ({ r with outcome := outcomeOf ending } : QueryRecord).AgreesWith entries ↔ _ :=
        agreesWith_iff_of_proceeds rfl hproceeds
      rw [hstatus, eq_self, true_and, ← hends]
      exact QueryRecord.agreesWith_append_right hmute

/-! ## Runs -/

/-- Entries tell of the end of a query only if it is in the store. -/
def TellsOfKnown (d : Desk) : Prop :=
  ∀ e ∈ d.journal.entries, e.IsDecisive → e.queryId ∈ d.store.ids

/-- Says where a query comes from that is there after some requests, and whether the journal agrees
with it: it was opened for the question of one of them, and they disagree just if that was answered
with 200 and the question ended with nothing noted. -/
def Accounted (office : Office) (d : Desk) (requests : List Request) (r : QueryRecord) : Prop :=
  ∃ earlier request later question opened response,
    requests = earlier ++ request :: later ∧
    ((answer office request).perform (after office office.executor d earlier)).1 = .ok response ∧
    Submission.read request.body = .ok question ∧
    (after office office.executor d earlier).Opens question opened ∧ opened.id = r.id ∧
    (r.AgreesWith (after office office.executor d requests).journal.entries ↔
      ¬(response.status = 200 ∧ office.Unnoted r.id question
        ((after office office.executor d earlier).opened question)))

/-- The entries that a request adds tell only of the end of a query that is there. -/
theorem Adds.tellsOfKnown {request : Request} {response : Response}
    (h : Adds office request d response d') (hd : TellsOfKnown d) : TellsOfKnown d' := by
  cases h with
  | nothing hstore hentries =>
    rw [TellsOfKnown, hstore, hentries]
    exact hd
  | query _ _ hrecords hentries hmore _ =>
    have hids : d'.store.ids = _ := congrArg (·.map (·.id)) hrecords
    rw [TellsOfKnown, hentries, hids, List.map_append]
    refine List.forall_mem_append.mpr ⟨fun e he hdecisive => ?_, fun e he hdecisive => ?_⟩
    · exact List.mem_append_left _ (hd e he hdecisive)
    · exact List.mem_append_right _ (List.mem_singleton.mpr (hmore e he hdecisive))

theorem Accounted.concat {requests : List Request} {request : Request}
    (h : Accounted office d requests r)
    (hsame : r.AgreesWith (after office office.executor d (requests ++ [request])).journal.entries ↔
      r.AgreesWith (after office office.executor d requests).journal.entries) :
    Accounted office d (requests ++ [request]) r := by
  obtain ⟨earlier, request', later, question, opened, response, rfl, hanswer, hread, hopens, hid,
    hagrees⟩ := h
  exact ⟨earlier, request', later ++ [request], question, opened, response, by simp, hanswer, hread,
    hopens, hid, hsame.trans hagrees⟩

/-- **The store and the journal agree about every query**, whatever requests come in whatever order,
unless the question of the query ended with nothing noted. -/
theorem agreesWith_iff (hsink : office.sink = some Sink.recorder)
    (hagent : office.agent.IsReserved) (hstore : d.store = .empty) (hjournal : d.journal.entries = [])
    (requests : List Request) :
    ∀ r ∈ (after office office.executor d requests).store.records,
      Accounted office d requests r := by
  suffices TellsOfKnown (after office office.executor d requests) ∧
      ∀ r ∈ (after office office.executor d requests).store.records,
        Accounted office d requests r from this.2
  induction requests using List.reverseRecOn with
  | nil =>
    have hnone : (after office office.executor d []).store.records = [] := by
      rw [after, List.foldl_nil, hstore]
      rfl
    have hsilent : (after office office.executor d []).journal.entries = [] := hjournal
    rw [TellsOfKnown, hnone, hsilent]
    exact ⟨fun _ he => (List.not_mem_nil he).elim, fun _ hr => (List.not_mem_nil hr).elim⟩
  | append_singleton requests request ih =>
    obtain ⟨hknown, haccounted⟩ := ih
    obtain ⟨response, hanswer, hhandles⟩ :=
      exists_handles_after office office.executor request d requests
    have hadds := hhandles.adds hsink hagent
    refine ⟨hadds.tellsOfKnown hknown, fun r hr => ?_⟩
    cases hadds with
    | nothing hstore' hentries =>
      rw [hstore'] at hr
      exact (haccounted r hr).concat (by rw [hentries])
    | @query question opened outcome more _ _ hread hopens hrecords hentries hmore hagrees =>
      rw [hrecords, List.mem_append, List.mem_singleton] at hr
      rcases hr with hr | rfl
      · -- The new entries do not tell of the end of a query that was there before.
        have hid : r.id ∈ (after office office.executor d requests).store.ids :=
          List.mem_map_of_mem hr
        have hmute : Entry.Mute r.id more := fun e he hsame hdecisive =>
          hopens.id_not_mem (hmore e he hdecisive ▸ hsame ▸ hid)
        exact (haccounted r hr).concat (by rw [hentries, QueryRecord.agreesWith_append_left hmute])
      · -- The old entries do not tell of the end of a query that is new.
        have hmute : Entry.Mute opened.id
            (after office office.executor d requests).journal.entries :=
          fun e he hsame hdecisive => hopens.id_not_mem (hsame ▸ hknown e he hdecisive)
        refine ⟨requests, request, [], question, opened, response, rfl, hanswer, hread, hopens, rfl,
          ?_⟩
        rw [hentries, ← hagrees]
        exact QueryRecord.agreesWith_append_right hmute

/-- An office that records what happens, and whose agent makes a statement about all invoices. -/
def invoicesOffice : Office :=
  ⟨Agent.constant ⟨Text.of "SELECT * FROM invoices", Text.of "All invoices", .ofNat 1, .model⟩,
    some Sink.recorder, none, Office.usualCount, Office.usualCount⟩

/-- The query of a question that is answered is a success, and the journal tells so. -/
theorem agreesWith_iff_invoices : ∃ r,
    (after invoicesOffice invoicesOffice.executor Desk.empty
      [invoicesAsked "/api/queries"]).store.records = [r] ∧
    r.outcome.status = Text.of "success" ∧
    Accounted invoicesOffice Desk.empty [invoicesAsked "/api/queries"] r := by
  have hrecords : ((after invoicesOffice invoicesOffice.executor Desk.empty
      [invoicesAsked "/api/queries"]).store.records.map fun r => r.outcome.status) =
        [Text.of "success"] := by decide +kernel
  obtain ⟨r, hr, hstatus⟩ := List.map_eq_singleton_iff.mp hrecords
  have hreserved : invoicesOffice.agent.IsReserved :=
    ⟨fun _ _ => rfl, fun _ _ => ⟨[], (List.append_nil _).symm, nofun⟩⟩
  exact ⟨r, hr, hstatus, agreesWith_iff rfl hreserved rfl rfl _ r (hr ▸ List.mem_singleton_self r)⟩

/-- An office that records what happens, and whose agent faults. -/
def boomOffice : Office :=
  ⟨Agent.failing boom, some Sink.recorder, none, Office.usualCount, Office.usualCount⟩

/-- A query that failed with no failure noted. -/
theorem exists_not_agreesWith : ∃ r,
    (after boomOffice boomOffice.executor Desk.empty
      [invoicesAsked "/api/queries"]).store.records = [r] ∧
    r.outcome.status = Text.of "error" ∧
    ¬r.AgreesWith (after boomOffice boomOffice.executor Desk.empty
      [invoicesAsked "/api/queries"]).journal.entries := by
  have hrecords : ((after boomOffice boomOffice.executor Desk.empty
      [invoicesAsked "/api/queries"]).store.records.map fun r => (r.id, r.outcome.status)) =
        [(Text.of "q-1", Text.of "error")] := by decide +kernel
  have hcount : Entry.count "query_failed" (Text.of "q-1") (after boomOffice boomOffice.executor
      Desk.empty [invoicesAsked "/api/queries"]).journal.entries = 0 := by decide +kernel
  obtain ⟨r, hr, hmarks⟩ := List.map_eq_singleton_iff.mp hrecords
  obtain ⟨hid, hstatus⟩ := Prod.mk.inj hmarks
  refine ⟨r, hr, hstatus, fun hagrees => ?_⟩
  have hnoted := (hagrees.error.mp hstatus).1
  rw [hid, hcount] at hnoted
  cases hnoted

end Server
end QueryDesk
