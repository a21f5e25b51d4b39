import QueryDesk.Proofs.Desk.Unaided
import QueryDesk.Proofs.Table.Filter

/-!
# Desks that stay ready

What is done at a ready desk without a model leaves it ready: its clocks give no readings but those
that they would have given, and a query that is added was opened by such a clock.  So one can go on
at the desk for as long as one likes, and what was done by then is told by the questions that were
answered (`Desk.HasAnswered`).
-/

set_option autoImplicit false

namespace QueryDesk

namespace Desk

variable {d d' d'' : Desk} {clock clock' : Supply Timestamp} {questions questions' : List Text}

/-- A desk with the records of a ready one, and with clocks that are part of its clocks, is ready
again, if the clocks by which its queries were opened knew universal time. -/
theorem IsReady.of_isPartOf (h : d.IsReady clock) (hdataset : d'.dataset = d.dataset)
    (hreads : d'.clock = some clock') (hclock : clock'.IsPartOf clock)
    (hstopwatch : d'.stopwatch.IsPartOf d.stopwatch)
    (hopened : ∀ r ∈ d'.store.records, r.createdAt.ahead.isSome) : d'.IsReady clock' where
  typed := hdataset ▸ h.typed
  reads := hreads
  aware t ht := h.aware t (hclock ht)
  opened := hopened
  counted seconds hseconds := h.counted seconds (hstopwatch hseconds)

/-- Says what a ready desk has come to when some questions were answered at it: it is ready for the
next one, and behind the queries that were there stands one for each question, which succeeded. -/
structure HasAnswered (d : Desk) (questions : List Text) (d' : Desk) : Prop where
  ready : ∃ clock, d'.IsReady clock
  added : ∃ added, d'.store.records = d.store.records ++ added ∧
    added.map (·.question) = questions ∧ ∀ r ∈ added, r.outcome.status = Text.of "success"

/-- A desk that stays ready and keeps its queries has answered no questions. -/
theorem HasAnswered.of_store_eq (hd : d'.IsReady clock) (h : d'.store = d.store) :
    d.HasAnswered [] d' :=
  ⟨⟨clock, hd⟩, [], by rw [h, List.append_nil], rfl, nofun⟩

theorem HasAnswered.trans (h : d.HasAnswered questions d')
    (h' : d'.HasAnswered questions' d'') : d.HasAnswered (questions ++ questions') d'' := by
  obtain ⟨added, hadded, hquestions, hsuccess⟩ := h.added
  obtain ⟨added', hadded', hquestions', hsuccess'⟩ := h'.added
  refine ⟨h'.ready, added ++ added', ?_, ?_, List.forall_mem_append.mpr ⟨hsuccess, hsuccess'⟩⟩
  · rw [hadded', hadded, List.append_assoc]
  · rw [List.map_append, hquestions, hquestions']

end Desk

namespace Office

variable (office : Office) {d : Desk} {clock : Supply Timestamp}

/-- **A question leaves a ready desk ready**, with a query that succeeded. -/
theorem exists_hasAnswered_submit
    (hagent : ∃ sink tokens, office.agent = Agent.main none sink tokens)
    (htables : office.tables = none) (hd : d.IsReady clock) (question : Text) :
    ∃ r text elapsed d', (office.submit question).perform d = (.ok r, d') ∧
      r.outcome = unaidedOutcome question text elapsed ∧
      Json.read text = .ok (.list (((Topic.of question).rows d.dataset clock.take.2.current).map
        fun row => .record row.inWriting)) ∧
      d.HasAnswered [question] d' := by
  obtain ⟨r, text, elapsed, journal, hr, hsubmit, hread⟩ :=
    office.perform_submit_unaided hagent htables hd question
  have hopened : ∀ r' ∈ d.store.records ++ [r], r'.createdAt.ahead.isSome :=
    hd.opened_concat (by rw [hr])
  refine ⟨r, text, elapsed, _, hsubmit, hr ▸ rfl, hread, ⟨_, hd.of_isPartOf rfl rfl ?_ ?_ hopened⟩,
    [r], rfl, by rw [hr]; rfl, List.forall_mem_singleton.mpr (by rw [hr]; rfl)⟩
  · exact (Supply.isPartOf_take _).trans (Supply.isPartOf_take _)
  · exact (Supply.isPartOf_take _).trans (Supply.isPartOf_take _)

/-- A statement is run on the tables of the desk at the time on the clock; the clock is read once
or, if the statement has no target, not at all. -/
theorem exists_perform_execute (htables : office.tables = none) (hclock : d.clock = some clock)
    (statement : Text) : ∃ clock', clock'.IsPartOf clock ∧
      (office.execute statement none).perform d =
        (Table.execute d.dataset.tables statement clock.current,
          { d with clock := some clock' }) := by
  cases htarget : Statement.target statement with
  | error fault =>
    refine ⟨clock, .refl clock, ?_⟩
    rw [execute, htarget, Table.execute, htarget, ← hclock]
    rfl
  | ok table =>
    refine ⟨clock.take.2, clock.isPartOf_take, ?_⟩
    rw [execute, htarget, Table.execute, htarget]
    show (Desk.now >>= _).perform d = _
    rw [Action.perform_bind_of_ok (Desk.perform_now_of_clock hclock), htables]
    rfl

/-- **A statement leaves a ready desk ready**, whether it can be run or not, and adds no query. -/
theorem exists_hasAnswered_execute (htables : office.tables = none) (hd : d.IsReady clock)
    (statement : Text) : ∃ d', (office.execute statement none).perform d =
      (Table.execute d.dataset.tables statement clock.current, d') ∧ d.HasAnswered [] d' := by
  obtain ⟨clock', hclock', hexecute⟩ := office.exists_perform_execute htables hd.reads statement
  exact ⟨_, hexecute, .of_store_eq (hd.of_isPartOf rfl rfl hclock' (.refl _) hd.opened) rfl⟩

end Office

/-- A statement that cannot be run meets a fault of the statement. -/
theorem Table.isStatementFault_of_execute {tables : Tables} {statement : Text} {now : Timestamp}
    {fault : Fault} (h : execute tables statement now = .error fault) :
    fault.isStatementFault = true := by
  rcases Except.bind_eq_error_iff.mp h with htarget | ⟨table, -, hselect⟩
  · exact Office.isStatementFault_of_target htarget
  · exact Office.isStatementFault_of_select hselect

end QueryDesk
