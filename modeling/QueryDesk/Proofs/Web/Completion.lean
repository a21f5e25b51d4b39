import QueryDesk.Proofs.Desk.Orderly
import QueryDesk.Proofs.Web.Requests

/-!
# Submissions are completed

With an orderly agent and an orderly executor, every submission that is taken adds one query, which
is shown in process and has an outcome when the next request comes; nothing else ever changes a query
(`Server.completes_submissions`).  So after any requests all queries are settled, and nobody waits
for an answer in vain.
-/

set_option autoImplicit false

namespace QueryDesk

/-- An outcome that is not open is named a success or an error. -/
theorem Outcome.status_of_closed {o : Outcome} (h : o.isOpen = false) :
    o.status = Text.of "success" ∨ o.status = Text.of "error" := by
  cases o with
  | processing => cases h
  | success => exact .inl rfl
  | error => exact .inr rfl

namespace Server

variable {office : Office} {executor : Executor} {request : Request} {d d' : Desk}
  {response : Response}

/-- Behind an orderly question the query is left alone only if it is not open. -/
theorem not_isOpen_of_fate {id : Text} {ending : Except Fault Outcome}
    (h : d.Orderly id ending d') (hfate : fate ending = none) : ¬d'.store.IsOpen id := by
  rcases ending with fault | outcome
  · by_cases hfinished : ∃ id' status, fault = .alreadyFinished id' status
    · obtain ⟨id', status, rfl⟩ := hfinished
      exact h.finished id' status rfl
    · rw [fate_error fun id' status hfault => hfinished ⟨id', status, hfault⟩,
        h.goesOn fault rfl] at hfate
      cases hfate
  · cases hfate

/-- **Behind the answer the query comes to an end**, and to all others nothing happens but that some
open ones may be completed. -/
theorem finish_orderly (hagent : office.agent.IsOrderly) (hexecutor : Executor.IsOrderly executor)
    {id question : Text} (h : (finish office executor id question).perform d = (.ok (), d')) :
    d.store.MayClose d'.store ∧ d'.ids.given ⊆ d.ids.given ∧ ¬d'.store.IsOpen id := by
  obtain ⟨d₁, entries, ending, stopwatch, journal, hproceeds, hfinish, -⟩ :=
    perform_finish office executor id question d
  have horderly := hproceeds.orderly hagent hexecutor
  rw [h] at hfinish
  obtain rfl := (Prod.mk.inj hfinish).2
  have hclosed : ∀ outcome ∈ fate ending, outcome.isOpen = false :=
    fun outcome => isOpen_of_fate hproceeds
  refine ⟨horderly.store.trans (Store.mayClose_closing hclosed), horderly.ids, ?_⟩
  have hnot := fun hfate : fate ending = none => not_isOpen_of_fate horderly hfate
  cases hfate : fate ending with
  | none => exact hnot hfate
  | some outcome => exact Store.not_isOpen_closing (hclosed outcome hfate)

/-! ## One request -/

/-- What becomes of the queries when a request is answered. -/
structure Settles (request : Request) (d : Desk) (response : Response) (d' : Desk) : Prop where
  /-- A submission that is answered with 200 adds one record under a new id.  The answer shows it in
  process, and behind the answer it is a success or an error. -/
  taken : IsSubmission request → response.status = 200 → ∃ r outcome,
    response = .ok (recordValue r) ∧ r.outcome = .processing ∧ r.id ∉ d.store.ids ∧
      (outcome.status = Text.of "success" ∨ outcome.status = Text.of "error") ∧
        d'.store.records = d.store.records ++ [{ r with outcome }]
  /-- Whatever else is asked for, no record is added or changed. -/
  left : ¬(IsSubmission request ∧ response.status = 200) → d'.store = d.store

/-- The desk that a request is to find: all queries are settled, and all ids to come can be
written. -/
structure Finds (d : Desk) : Prop where
  store : d.store.IsSettled
  ids : d.ids.IsPaired

/-- At such a desk every query that is opened can be shown. -/
theorem ofValue_recordValue_of_opens {body question : Text} {r : QueryRecord} (hids : d.ids.IsPaired)
    (hread : Submission.read body = .ok question) (hopens : d.Opens question r) :
    Body.ofValue (recordValue r) = .ok (recordValue r) :=
  ofValue_recordValue hopens.outcome (hopens.isPaired hids).1
    (hopens.asks ▸ Submission.isPaired_of_read hread)

/-- **What one request does**, and that the next one finds the desk as this one did. -/
theorem Handles.settles (hagent : office.agent.IsOrderly) (hexecutor : Executor.IsOrderly executor)
    (hd : Finds d) (h : Handles office executor request d response d') :
    Settles request d response d' ∧ Finds d' := by
  cases h with
  | looks hsame hstatus =>
    refine ⟨⟨fun hsubmission h200 => absurd h200 (hstatus hsubmission), fun _ => hsame.store⟩, ?_, ?_⟩
    · rw [hsame.store]
      exact hd.store
    · rw [hsame.ids]
      exact hd.ids
  | leaves hsubmission hread hopens hshown =>
    rw [ofValue_recordValue_of_opens hd.ids hread hopens] at hshown
    cases hshown
  | @takes question r shown _ hsubmission hread hopens hshown hfinish =>
    rw [ofValue_recordValue_of_opens hd.ids hread hopens] at hshown
    obtain rfl := Except.ok.inj hshown
    obtain ⟨hmay, hids, hclosed⟩ := finish_orderly hagent hexecutor hfinish
    have hopened : (d.opened question).store = ⟨d.store.records ++ [r]⟩ :=
      congrArg Store.mk hopens.records
    rw [hopened] at hmay
    obtain ⟨r', hr', hrecords⟩ := hmay.records_eq hd.store hopens.id_not_mem
    have hfind : d'.store.find? r.id = some r' := by
      have hid : r'.id = r.id := by cases hr' <;> rfl
      have hstore : d'.store = ⟨d.store.records ++ [r']⟩ := congrArg Store.mk hrecords
      rw [hstore, Store.find?_concat (hid ▸ hopens.id_not_mem), if_pos hid.symm]
    cases hr' with
    | stays =>
      have hopen : r.outcome.isOpen = true := by rw [hopens.outcome]; rfl
      exact absurd ⟨r, hfind, hopen⟩ hclosed
    | @closes outcome _ houtcome =>
      refine ⟨⟨fun _ _ => ⟨r, outcome, rfl, hopens.outcome, hopens.id_not_mem,
        Outcome.status_of_closed houtcome, hrecords⟩, fun hnot => absurd ⟨hsubmission, rfl⟩ hnot⟩,
        ⟨?_, ?_⟩, ?_⟩
      · rw [hmay.ids]
        exact Store.nodup_concat hd.store.nodup hopens.id_not_mem
      · rw [hrecords]
        exact List.forall_mem_append.mpr ⟨hd.store.closed, List.forall_mem_singleton.mpr houtcome⟩
      · exact fun id hid => (hopens.isPaired hd.ids).2 id (hids hid)

/-! ## Runs -/

section

variable (hagent : office.agent.IsOrderly) (hexecutor : Executor.IsOrderly executor) (hd : Finds d)
include hagent hexecutor hd

/-- Every request finds all queries settled. -/
theorem finds_after (requests : List Request) : Finds (after office executor d requests) := by
  induction requests using List.reverseRecOn with
  | nil => exact hd
  | append_singleton requests request ih =>
    obtain ⟨response, -, hhandles⟩ := exists_handles_after office executor request d requests
    exact (hhandles.settles hagent hexecutor ih).2

/-- Whatever is asked for later, all records stay as they are. -/
theorem records_after (requests more : List Request) :
    (after office executor d requests).store.records <+:
      (after office executor d (requests ++ more)).store.records := by
  induction more using List.reverseRecOn with
  | nil => simp only [List.append_nil, List.prefix_rfl]
  | append_singleton more request ih =>
    have hfinds := finds_after hagent hexecutor hd (requests ++ more)
    obtain ⟨response, -, hhandles⟩ :=
      exists_handles_after office executor request d (requests ++ more)
    have hsettles := (hhandles.settles hagent hexecutor hfinds).1
    rw [← List.append_assoc]
    by_cases h : IsSubmission request ∧ response.status = 200
    · obtain ⟨r, outcome, -, -, -, -, hrecords⟩ := hsettles.taken h.1 h.2
      rw [hrecords]
      exact ih.trans (List.prefix_append _ _)
    · rw [hsettles.left h]
      exact ih

end

/-- An office whose agent completes the query itself and then faults. -/
def meddlingOffice : Office :=
  ⟨Agent.meddling (Agent.failing boom), none, none, Office.usualCount, Office.usualCount⟩

theorem isOrderly_meddlingOffice : meddlingOffice.agent.IsOrderly := by
  have hboom : boom.IsOrdinary := ⟨by decide, nofun⟩
  exact (Agent.isOrderly_failing hboom).meddling

/-- An office whose agent says that some other query is finished. -/
def mistakenOffice : Office :=
  ⟨Agent.failing (.alreadyFinished (Text.of "q-9") (Text.of "success")), none, none,
    Office.usualCount, Office.usualCount⟩

end Server
end QueryDesk
