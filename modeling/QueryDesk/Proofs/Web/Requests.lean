import QueryDesk.Proofs.Desk.Ending
import QueryDesk.Proofs.Desk.Returned
import QueryDesk.Proofs.Journal.Files
import QueryDesk.Proofs.Query.Records
import QueryDesk.Proofs.Query.Settled
import QueryDesk.Proofs.Text.Paired
import QueryDesk.Web.Server

/-!
# What a request does

A request to the web front end looks at the desk and leaves the queries alone, or it submits a
question (`Server.Handles`).  A question that is taken gets a query that is shown open and is
finished behind the answer: as the question ended, or as failed if it ended with a fault that nobody
but the front end takes care of (`Server.perform_finish`).
-/

set_option autoImplicit false

namespace QueryDesk

/-! ## Looking -/

/-- Says that a desk has the same queries, the same ids to give and the same journal entries as
before. -/
structure Desk.SameQueries (d d' : Desk) : Prop where
  store : d'.store = d.store
  ids : d'.ids = d.ids
  entries : d'.journal.entries = d.journal.entries

namespace Desk.SameQueries

variable {d d' d'' : Desk}

theorem refl (d : Desk) : d.SameQueries d := ⟨rfl, rfl, rfl⟩

theorem trans (h : d.SameQueries d') (h' : d'.SameQueries d'') : d.SameQueries d'' :=
  ⟨h'.store.trans h.store, h'.ids.trans h.ids, h'.entries.trans h.entries⟩

end Desk.SameQueries

namespace Action

variable {α β : Type}

/-- Says that a step leaves the queries alone and notes nothing. -/
def Looks (step : Action α) : Prop := ∀ d : Desk, d.SameQueries (step.perform d).2

theorem looks_pure (a : α) : (pure a : Action α).Looks := .refl

theorem looks_ofExcept (result : Except Fault α) : (ofExcept result).Looks := .refl

theorem looks_lift (result : Except Fault α) : (liftM result : Action α).Looks := .refl

theorem looks_get : (get : Action Desk).Looks := .refl

theorem Looks.bind {step : Action α} {next : α → Action β} (h : step.Looks)
    (hnext : ∀ a, (next a).Looks) : (step >>= next).Looks := by
  intro d
  have hstep := h d
  rw [perform_bind]
  generalize step.perform d = result at hstep ⊢
  rcases result with ⟨fault | a, d'⟩
  · exact hstep
  · exact hstep.trans (hnext a d')

theorem Looks.attempted {step : Action α} (h : step.Looks) : step.attempted.Looks := h

end Action

namespace Desk

theorem looks_now : now.Looks := by
  intro d
  obtain ⟨time, clock, journal, hnow, hentries⟩ := d.exists_now
  rw [hnow]
  exact ⟨rfl, rfl, hentries⟩

theorem looks_metrics : (metrics none).Looks :=
  looks_now.bind fun _ => Action.looks_get.bind fun _ => Action.looks_lift _

theorem looks_recent (count : Int) : (recent count).Looks :=
  Action.looks_get.bind fun _ => Action.looks_lift _

theorem looks_history : history.Looks :=
  Action.looks_get.bind fun _ => Action.looks_lift _

theorem looks_query (id : Text) : (query id).Looks :=
  Action.looks_get.bind fun _ => Action.looks_lift _

theorem looks_rows (name : Text) : (rows name).Looks :=
  Action.looks_get.bind fun _ => Action.looks_lift _

end Desk

namespace Server

theorem looks_present (v : Value) : (present v).Looks :=
  (Action.looks_ofExcept _).bind fun _ => Action.looks_pure _

/-- Only a submission changes a query. -/
theorem looks_follow (office : Office) (executor : Executor) (body : Text) {route : Route}
    (h : route ≠ .submission) : (follow office executor body route).Looks := by
  cases route with
  | submission => exact absurd rfl h
  | health | templates => exact looks_present _
  | metrics => exact Desk.looks_metrics.bind fun _ => looks_present _
  | recent => exact (Desk.looks_recent _).bind fun _ => looks_present _
  | history => exact Desk.looks_history.bind fun _ => looks_present _
  | query id =>
    refine (Desk.looks_query id).attempted.bind fun result => ?_
    cases result with
    | ok r => exact looks_present _
    | error fault => exact Action.looks_pure _
  | collection name =>
    show (Server.rows name).Looks
    rw [Server.rows]
    split
    · exact (Desk.looks_rows _).bind fun _ => looks_present _
    · exact Action.looks_pure _

end Server

/-! ## Open queries in bodies -/

theorem Body.ofText_of_isPaired {t : Text} (h : t.IsPaired) : Body.ofText t = .ok t := by
  rw [Body.ofText, (FileTree.unwritable?_eq_none_iff t).mpr h]

/-- A question that is taken can be written. -/
theorem Submission.isPaired_of_read {body question : Text} (h : read body = .ok question) :
    question.IsPaired := by
  have hfields : ∀ fields, ofFields fields = .ok question → question.IsPaired := by
    intro fields hfields
    rw [ofFields] at hfields
    split at hfields
    · cases hfields
    · split_ifs at hfields with hbad
      cases hfields
      rw [Bool.or_eq_true, not_or, Bool.not_eq_true, Bool.not_eq_true, List.any_eq_false] at hbad
      exact fun g hg => Bool.eq_false_iff.mpr (hbad.2 g hg)
    · cases hfields
  rw [read] at h
  split at h
  · cases h
  · cases h
  · exact hfields _ h
  · cases h

/-- An open query is shown as it is if its id can be written. -/
theorem Server.ofValue_recordValue {r : QueryRecord} (hopen : r.outcome = .processing)
    (hid : r.id.IsPaired) (hquestion : r.question.IsPaired) :
    Body.ofValue (recordValue r) = .ok (recordValue r) := by
  have hcreated := r.createdAt.isPaired_shortWritten
  simp [recordValue, QueryRecord.valueWith, hopen, Row.of, Body.ofValue, Body.ofFields,
    Body.ofText_of_isPaired, hid, hquestion, hcreated, Outcome.statement?, Outcome.interpretation?,
    Outcome.rows?, Outcome.message?, Outcome.milliseconds?, Outcome.status, Value.ofText?,
    Value.ofWhole?, bind, Except.bind]

/-! ## Opening a query -/

namespace IdSource

/-- Says that the ids that a source was given can be written. -/
def IsPaired (source : IdSource) : Prop := ∀ id ∈ source.given, id.IsPaired

/-- An id of such a source can be written, and so can those to come. -/
theorem IsPaired.fresh {source : IdSource} (h : source.IsPaired) (taken : List Text) :
    (source.fresh taken).1.IsPaired ∧ (source.fresh taken).2.IsPaired := by
  rw [IdSource.fresh]
  split
  · next id rest hrest =>
    have hmem : ∀ id' ∈ id :: rest, id'.IsPaired := fun id' hid' =>
      h id' ((List.dropWhile_suffix _).subset (hrest ▸ hid'))
    exact ⟨hmem id List.mem_cons_self, fun id' hid' => hmem id' (List.mem_cons_of_mem id hid')⟩
  · refine ⟨?_, fun id hid => (List.not_mem_nil hid).elim⟩
    simp [name]

end IdSource

namespace Desk

/-- Says what the query is that a question opens at a desk: an open one under a fresh id, behind all
others.  Nothing is noted. -/
structure Opens (d : Desk) (question : Text) (r : QueryRecord) : Prop where
  perform : (create question).perform d = (.ok r, d.opened question)
  id : r.id = (d.ids.fresh d.store.ids).1
  asks : r.question = question
  outcome : r.outcome = .processing
  records : (d.opened question).store.records = d.store.records ++ [r]
  ids : (d.opened question).ids = (d.ids.fresh d.store.ids).2
  entries : (d.opened question).journal.entries = d.journal.entries

theorem exists_opens (d : Desk) (question : Text) : ∃ r, d.Opens question r := by
  obtain ⟨time, clock, journal, hnow, hentries⟩ := d.exists_now
  have hcreate : (create question).perform d =
      (.ok (d.store.add (d.ids.fresh d.store.ids).1 question time).1, { d with
        store := (d.store.add (d.ids.fresh d.store.ids).1 question time).2
        ids := (d.ids.fresh d.store.ids).2
        clock
        journal }) := by
    rw [create, Action.perform_bind_of_ok hnow]
    rfl
  have hopened := congrArg Prod.snd hcreate
  refine ⟨(d.store.add (d.ids.fresh d.store.ids).1 question time).1,
    Prod.ext (by rw [hcreate]) rfl, rfl, rfl, rfl, ?_, ?_, ?_⟩
  · rw [opened, hopened]
    rfl
  · rw [opened, hopened]
  · rw [opened, hopened]
    exact hentries

variable {d : Desk} {question : Text} {r : QueryRecord}

theorem Opens.id_not_mem (h : d.Opens question r) : r.id ∉ d.store.ids :=
  h.id ▸ d.ids.fresh_not_mem d.store.ids

theorem Opens.isPaired (h : d.Opens question r) (hids : d.ids.IsPaired) :
    r.id.IsPaired ∧ (d.opened question).ids.IsPaired := by
  rw [h.id, h.ids]
  exact hids.fresh d.store.ids

end Desk

/-! ## Finishing a query -/

namespace Server

/-- The outcome of a query that is given up for a fault. -/
def givenUp (fault : Fault) : Outcome :=
  .error (if fault.message.isEmpty then noMessage else fault.message) 0 none none

/-- The outcome that a query is to have behind its answer, by how its question ended; none if nobody
is to touch it. -/
def fate : Except Fault Outcome → Option Outcome
  | .ok outcome => some outcome
  | .error (.alreadyFinished ..) => none
  | .error fault => if fault.isDemandToStop then none else some (givenUp fault)

theorem fate_error {fault : Fault} (h : ∀ id status, fault ≠ .alreadyFinished id status) :
    fate (.error fault) = if fault.isDemandToStop then none else some (givenUp fault) := by
  cases fault <;> first | rfl | exact absurd rfl (h _ _)

/-- What becomes of a query behind its answer is an end. -/
theorem isOpen_of_fate {office : Office} {executor : Executor} {id question : Text} {d d' : Desk}
    {entries : List Entry} {ending : Except Fault Outcome} {outcome : Outcome}
    (h : office.Proceeds executor id question d d' entries ending)
    (hfate : fate ending = some outcome) : outcome.isOpen = false := by
  rcases ending with fault | o
  · rw [fate.eq_def] at hfate
    split at hfate
    · next hok => cases hok
    · cases hfate
    · split_ifs at hfate
      cases hfate
      rfl
  · cases hfate
    exact h.isOpen_eq

/-- Closes a query as given up, if it can be closed. -/
def giveUp (id : Text) (fault : Fault) : Action Unit := do
  let _ ← (Desk.complete id (givenUp fault)).attempted

/-- What is done behind an answer with what came of a question. -/
def cleanUp (id : Text) : Except Fault QueryRecord → Action Unit
  | .ok _ => pure ()
  | .error (.alreadyFinished ..) => pure ()
  | .error fault => if fault.isDemandToStop then pure () else giveUp id fault

theorem perform_giveUp (id : Text) (fault : Fault) (d : Desk) :
    (giveUp id fault).perform d =
      (.ok (), { d with store := d.store.closing id (some (givenUp fault)) }) := by
  rw [giveUp, Action.perform_bind, Action.perform_attempted, d.perform_complete, Store.closing]
  cases d.store.complete id (givenUp fault) <;> rfl

theorem perform_cleanUp_error (id : Text) (fault : Fault) (d : Desk) :
    (cleanUp id (.error fault)).perform d =
      (.ok (), { d with store := d.store.closing id (fate (.error fault)) }) := by
  by_cases hfinished : ∃ id' status, fault = .alreadyFinished id' status
  · obtain ⟨id', status, rfl⟩ := hfinished
    rfl
  · have hother : ∀ id' status, fault ≠ .alreadyFinished id' status :=
      fun id' status h => hfinished ⟨id', status, h⟩
    have hcleanUp : cleanUp id (.error fault) =
        if fault.isDemandToStop then pure () else giveUp id fault := by
      cases fault <;> first | rfl | exact absurd rfl (hother _ _)
    rw [hcleanUp, fate_error hother]
    split
    · rfl
    · exact perform_giveUp id fault d

/-- A query that was to be settled is cleaned up behind. -/
theorem perform_cleanUp_settle (id : Text) (ending : Except Fault Outcome) (d : Desk) :
    ((Desk.settle id ending).attempted >>= cleanUp id).perform d =
      (.ok (), { d with store := d.store.closing id (fate ending) }) := by
  rw [Action.perform_bind, Action.perform_attempted]
  rcases ending with fault | outcome
  · exact perform_cleanUp_error id fault d
  · dsimp only
    rw [Desk.settle, d.perform_complete, fate, Store.closing]
    cases hcomplete : d.store.complete id outcome with
    | ok result => rfl
    | error fault =>
      -- What the store refused once it refuses again.
      dsimp only
      rw [perform_cleanUp_error, Store.closing_of_error hcomplete]

section

variable (office : Office) (executor : Executor)

/-- **Behind an answer the question ends in one of the ways, and its query is finished.** -/
theorem perform_finish (id question : Text) (d : Desk) : ∃ d' entries ending stopwatch journal,
    office.Proceeds executor id question d d' entries ending ∧
      (finish office executor id question).perform d = (.ok (), { d' with
        store := d'.store.closing id (fate ending), stopwatch, journal }) ∧
      (office.sink = some Sink.recorder → journal.entries = d'.journal.entries ++ entries) := by
  obtain ⟨d', entries, ending, hproceeds, stopwatch, journal, hperform, hentries⟩ :=
    office.exists_proceeds executor id question d
  refine ⟨d', entries, ending, stopwatch, journal, hproceeds, ?_, hentries⟩
  have hfinish : finish office executor id question =
      (office.processWith executor id question).attempted >>= cleanUp id := rfl
  have hsettle := perform_cleanUp_settle id ending { d' with stopwatch, journal }
  rw [Action.perform_bind, Action.perform_attempted, ← hperform] at hsettle
  rw [hfinish, Action.perform_bind, Action.perform_attempted, hsettle]

end

/-! ## Handling a request -/

/-- Says that a request is a submission: it comes with `POST` and arrives at `/api/queries`, where one
line break behind the path is overlooked. -/
def IsSubmission (request : Request) : Prop :=
  request.method.upper = Text.of "POST" ∧
    Route.isFixed (arrival (Address.path request.address) mostJourneys) "/api/queries" = true

/-- The route that a request is found to take. -/
def route? (request : Request) : Option Route :=
  (Route.all (arrival (Address.path request.address) mostJourneys)).find?
    (·.method == request.method.upper)

/-- No other method and no other path leads to a submission. -/
theorem route?_eq_submission_iff {request : Request} :
    route? request = some .submission ↔ IsSubmission request := by
  rw [route?, IsSubmission]
  generalize arrival (Address.path request.address) mostJourneys = path
  generalize request.method.upper = method
  constructor
  · intro h
    have hmethod : Text.of "POST" = method := by simpa [Route.method] using List.find?_some h
    have hmem := List.mem_of_find?_eq_some h
    simp only [Route.all, List.mem_append, List.mem_map, Option.mem_toList, Option.map_eq_some_iff,
      reduceCtorEq, and_false, exists_false, or_false, List.mem_filter] at hmem
    obtain ⟨place, ⟨hplace, hfixed⟩, hroute⟩ := hmem
    have hall : ∀ place ∈ Route.fixed, place.2 = .submission → place.1 = "/api/queries" := by decide
    exact ⟨hmethod.symm, hall place hplace hroute ▸ hfixed⟩
  · rintro ⟨rfl, hfixed⟩
    rw [Route.isFixed, Bool.or_eq_true, beq_iff_eq, beq_iff_eq] at hfixed
    rcases hfixed with rfl | rfl <;> decide

/-- The answer to a request, from what came of attending to it. -/
def responseTo (request : Request) (result : Except Fault Response) : Response :=
  let response := match result with
    | .ok response => response
    | .error _ => .failed
  if request.method.upper = Text.of "HEAD" then response.withoutBody else response

/-- The answer to a submission keeps its body. -/
theorem responseTo_of_isSubmission {request : Request} (h : IsSubmission request)
    (result : Except Fault Response) : responseTo request result =
      match result with
      | .ok response => response
      | .error _ => .failed := by
  refine if_neg ?_
  rw [h.1]
  decide

theorem status_refused_ne (refusal : Refusal) : (Response.refused refusal).status ≠ 200 := by
  cases refusal <;> decide

section

variable (office : Office) (executor : Executor) (request : Request) (d : Desk)

/-- What is done about a request where it arrives. -/
def attention : Action Response :=
  attend office executor request.method.upper request.body
    (arrival (Address.path request.address) mostJourneys)

theorem perform_answerWith : (answerWith office executor request).perform d =
    (.ok (responseTo request ((attention office executor request).perform d).1),
      ((attention office executor request).perform d).2) := by
  rw [answerWith, attention, Action.perform_bind, Action.perform_attempted]
  rfl

/-- What a request does at a desk: the answer, and the desk that is left. -/
inductive Handles : Response → Desk → Prop
  /-- The request looks at the desk, or a submission is refused. -/
  | looks {response : Response} {d' : Desk} (h : d.SameQueries d')
    (hstatus : IsSubmission request → response.status ≠ 200) : Handles response d'
  /-- A question is taken.  Its query is shown, and finished behind the answer. -/
  | takes {question : Text} {r : QueryRecord} {shown : Value} {d' : Desk}
    (hsubmission : IsSubmission request) (hread : Submission.read request.body = .ok question)
    (hopens : d.Opens question r) (hshown : Body.ofValue (recordValue r) = .ok shown)
    (hfinish : (finish office executor r.id question).perform (d.opened question) = (.ok (), d')) :
    Handles (.ok shown) d'
  /-- A question is taken, but its query cannot be shown and is left open. -/
  | leaves {question : Text} {r : QueryRecord} {fault : Fault}
    (hsubmission : IsSubmission request) (hread : Submission.read request.body = .ok question)
    (hopens : d.Opens question r) (hshown : Body.ofValue (recordValue r) = .error fault) :
    Handles .failed (d.opened question)

/-- A submission is refused, or its question is taken. -/
theorem handles_of_isSubmission (h : IsSubmission request) :
    Handles office executor request d
      (responseTo request ((submit office executor request.body).perform d).1)
      ((submit office executor request.body).perform d).2 := by
  rw [responseTo_of_isSubmission h, submit]
  cases hread : Submission.read request.body with
  | error refusal => exact .looks (.refl d) fun _ => status_refused_ne refusal
  | ok question =>
    obtain ⟨r, hopens⟩ := d.exists_opens question
    dsimp only
    rw [Action.perform_bind_of_ok hopens.perform, Action.perform_bind, present,
      Action.perform_bind, Action.perform_ofExcept]
    cases hshown : Body.ofValue (recordValue r) with
    | error fault => exact .leaves h hread hopens hshown
    | ok shown =>
      obtain ⟨d', entries, ending, stopwatch, journal, -, hfinish, -⟩ :=
        perform_finish office executor r.id question (d.opened question)
      dsimp only
      rw [Action.perform_pure]
      dsimp only
      rw [Action.perform_bind_of_ok hfinish]
      exact .takes h hread hopens hshown hfinish

/-- **Every request is answered, and does one of these things.** -/
theorem exists_handles : ∃ response d',
    (answerWith office executor request).perform d = (.ok response, d') ∧
      Handles office executor request d response d' := by
  refine ⟨_, _, perform_answerWith office executor request d, ?_⟩
  by_cases hsubmission : IsSubmission request
  · have hattention : attention office executor request = submit office executor request.body := by
      have hroute := route?_eq_submission_iff.mpr hsubmission
      rw [route?] at hroute
      rw [attention, attend, hroute]
      rfl
    rw [hattention]
    exact handles_of_isSubmission office executor request d hsubmission
  · refine .looks ?_ (fun h => absurd h hsubmission)
    rw [attention, attend]
    split
    · next route hroute =>
      refine looks_follow office executor request.body ?_ d
      rintro rfl
      exact hsubmission (route?_eq_submission_iff.mp hroute)
    · split
      · exact Action.looks_pure _ d
      · exact Action.looks_pure _ d

/-! ## Runs -/

/-- The desk after some requests. -/
def after (requests : List Request) : Desk :=
  requests.foldl (fun d request => ((answerWith office executor request).perform d).2) d

theorem after_append (requests more : List Request) : after office executor d (requests ++ more) =
    after office executor (after office executor d requests) more := List.foldl_append

theorem exists_handles_after (earlier : List Request) : ∃ response,
    ((answerWith office executor request).perform (after office executor d earlier)).1 =
        .ok response ∧
      Handles office executor request (after office executor d earlier) response
        (after office executor d (earlier ++ [request])) := by
  obtain ⟨response, d', hperform, hhandles⟩ :=
    exists_handles office executor request (after office executor d earlier)
  have hafter : after office executor d (earlier ++ [request]) = d' := by
    rw [after_append]
    exact congrArg Prod.snd hperform
  rw [hafter, hperform]
  exact ⟨response, rfl, hhandles⟩

end

/-! ## Samples -/

/-- A request that submits the question *Show invoices* at an address. -/
def invoicesAsked (address : String) : Request :=
  ⟨Text.of "POST", Text.of address, Text.of "\x7b\"userQuestion\": \"Show invoices\"\x7d"⟩

/-- A fault from outside. -/
def boom : Fault := .foreign (Text.of "RuntimeError") (Text.of "boom")

end Server
end QueryDesk
