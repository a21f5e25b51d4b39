import QueryDesk.Proofs.Desk.Inquiry
import QueryDesk.Proofs.Desk.Returned
import QueryDesk.Proofs.Desk.Written
import QueryDesk.Proofs.Number.Range
import QueryDesk.Proofs.Query.Records
import QueryDesk.Proofs.Table.Reports

/-!
# Answers without a model

Without a model a question is answered by the rules, and its answer can be said beforehand: the
query succeeds, and its rows are those that the topic of the question shows at the time on the clock
(`Office.submit_unaided`).  The clock is read twice, when the query is opened and when its statement
is run; it is the second reading that counts.  The query stands behind those that were there, and
they stay as they are (`Office.perform_submit_unaided`).
-/

set_option autoImplicit false

namespace QueryDesk

/-! ## Readings -/

namespace Supply

variable {α : Type} {s s' s'' : Supply α}

/-- Says that a supply has no readings but those of another. -/
def IsPartOf (s s' : Supply α) : Prop := s.current :: s.later ⊆ s'.current :: s'.later

theorem IsPartOf.refl (s : Supply α) : s.IsPartOf s := List.Subset.refl _

theorem IsPartOf.trans (h : s.IsPartOf s') (h' : s'.IsPartOf s'') : s.IsPartOf s'' :=
  List.Subset.trans h h'

/-- What is left when a reading was taken. -/
theorem isPartOf_take (s : Supply α) : s.take.2.IsPartOf s := by
  obtain ⟨current, _ | ⟨next, later⟩⟩ := s
  · exact List.Subset.refl _
  · exact List.subset_cons_self _ _

end Supply

/-! ## The clock and the store -/

namespace Desk

/-- Says that a desk can answer questions without a model: its records hold what they are declared
to hold, its clock, whatever it shows, knows universal time, and so did the clocks by which its
queries were opened, and its stopwatch counts fewer than `2 ^ 64` seconds. -/
structure IsReady (d : Desk) (clock : Supply Timestamp) : Prop where
  typed : d.dataset.IsTyped
  reads : d.clock = some clock
  aware : ∀ t ∈ clock.current :: clock.later, t.ahead.isSome
  opened : ∀ r ∈ d.store.records, r.createdAt.ahead.isSome
  counted : ∀ seconds ∈ d.stopwatch.current :: d.stopwatch.later, seconds.IsWithin (64 + 1074)

variable {d : Desk} {clock : Supply Timestamp}

theorem exists_wholePart {x : Binary64} (h : x.isFinite) : ∃ n, wholePart x = .ok n := by
  cases x with
  | finite negative significand unit => exact ⟨_, rfl⟩
  | _ => exact absurd h Bool.false_ne_true

/-- A query that is opened by the clock of a ready desk was opened by a clock that knew universal
time, like those that were there. -/
theorem IsReady.opened_concat (h : d.IsReady clock) {r : QueryRecord}
    (hr : r.createdAt = clock.current) :
    ∀ r' ∈ d.store.records ++ [r], r'.createdAt.ahead.isSome := by
  refine List.forall_mem_append.mpr ⟨h.opened, List.forall_mem_singleton.mpr ?_⟩
  rw [hr]
  exact h.aware _ List.mem_cons_self

/-- The stopwatch of a ready desk measures a whole number of milliseconds. -/
theorem IsReady.exists_elapsed (h : d.IsReady clock) : ∃ elapsed,
    { d with stopwatch := d.stopwatch.take.2 }.elapsed d.stopwatch.current = .ok elapsed := by
  have hstarted : d.stopwatch.current.IsWithin (64 + 1074) := h.counted _ List.mem_cons_self
  have hstopped : d.stopwatch.take.2.current.IsWithin (64 + 1074) :=
    h.counted _ (d.stopwatch.isPartOf_take List.mem_cons_self)
  have hthousand : (Binary64.ofNat 1000).IsWithin (10 + 1074) := by decide +kernel
  have hseconds := hstopped.sub hstarted (by decide) (by decide)
  exact exists_wholePart (hseconds.mul hthousand (by decide) (by decide)).1

end Desk

/-- Records whose clocks knew universal time can be brought into an order of time. -/
theorem Store.exists_history {s : Store} (h : ∀ r ∈ s.records, r.createdAt.ahead.isSome) :
    ∃ records, s.history = .ok records ∧ records.Perm s.records := by
  have hdecides : Sorting.Decides isOlder s.records.reverse := by
    intro r hr r' hr'
    exact Timestamp.exists_isBefore (h r (List.mem_reverse.mp hr)) (h r' (List.mem_reverse.mp hr'))
  obtain ⟨records, hsort, hperm⟩ := Sorting.exists_sort hdecides
  exact ⟨records.reverse, by rw [history, hsort]; rfl,
    (List.reverse_perm records).trans (hperm.trans (List.reverse_perm s.records))⟩

theorem Store.exists_recent {s : Store} (h : ∀ r ∈ s.records, r.createdAt.ahead.isSome)
    (count : Int) : ∃ records, s.recent count = .ok records := by
  obtain ⟨records, hhistory, -⟩ := exists_history h
  exact ⟨records.take count.toNat, by rw [recent, hhistory]; rfl⟩

namespace Office

variable (office : Office) {d : Desk} {clock : Supply Timestamp} {id question : Text}

/-- What becomes of a query whose statement is made by the rules. -/
def unaidedOutcome (question kept : Text) (elapsed : Int) : Outcome :=
  .success (Topic.of question).statement
    (some (FallbackRule.choose question).generation.interpretation) kept elapsed

/-- The question of a query that was just opened is answered by the rules. -/
theorem perform_process_unaided {sink : Option Sink} {tokens elapsed : Int} {r : QueryRecord}
    {rows : List Row} {text : Text} {records : List QueryRecord}
    (hagent : office.agent = Agent.main none sink tokens) (htables : office.tables = none)
    (hclock : d.clock = some clock)
    (hrecent : d.store.recent office.contextQueries = .ok records)
    (hrows : Table.execute d.dataset.tables (Topic.of question).statement clock.current = .ok rows)
    (helapsed : { d with stopwatch := d.stopwatch.take.2 }.elapsed d.stopwatch.current =
      .ok elapsed)
    (htext : resultText rows = .ok text) (hfind : d.store.find? id = some r)
    (hopen : r.outcome.isOpen = true) : ∃ journal,
      (office.process id question).perform d =
        (.ok { r with outcome := unaidedOutcome question text elapsed }, { d with
          store := d.store.replace { r with outcome := unaidedOutcome question text elapsed }
          clock := some clock.take.2
          stopwatch := d.stopwatch.take.2.take.2
          journal }) := by
  obtain ⟨journal, hasked⟩ := office.exists_deskAsked id question d
  obtain ⟨previous, hprevious⟩ : ∃ previous, (office.context.perform d).1 = .ok previous :=
    ⟨_, by rw [office.perform_context, hrecent]; rfl⟩
  obtain ⟨journal', hrules⟩ := Agent.perform_byRules sink ⟨id, question, previous⟩
    (office.deskAsked id question d) "no_client"
  have hanswers : office.Answers id question d (.ok (FallbackRule.choose question).generation)
      { d with stopwatch := d.stopwatch.take.2, journal := journal' } := by
    refine ⟨previous, hprevious, ?_⟩
    rw [hagent, Agent.main, hrules, hasked]
  have hstatement : (FallbackRule.choose question).generation.statement =
      (Topic.of question).statement := by
    rw [Topic.choose_eq]
    rfl
  have hprocess := office.perform_process_of_answers_ok hanswers htables hclock
    (hstatement ▸ hrows) helapsed htext hfind hopen
  rwa [outcomeOf, hstatement] at hprocess

/-- **A question without a model adds one query**, which succeeded with what the topic of the
question shows; it stands behind all others, and they stay as they are. -/
theorem perform_submit_unaided
    (hagent : ∃ sink tokens, office.agent = Agent.main none sink tokens)
    (htables : office.tables = none) (hd : d.IsReady clock) (question : Text) :
    ∃ r text elapsed journal,
      r = ⟨(d.ids.fresh d.store.ids).1, question, clock.current,
        unaidedOutcome question text elapsed⟩ ∧
      (office.submit question).perform d = (.ok r, { d with
        store := ⟨d.store.records ++ [r]⟩
        ids := (d.ids.fresh d.store.ids).2
        clock := some clock.take.2.take.2
        stopwatch := d.stopwatch.take.2.take.2
        journal }) ∧
      Json.read text = .ok (.list (((Topic.of question).rows d.dataset clock.take.2.current).map
        fun row => .record row.inWriting)) := by
  obtain ⟨sink, tokens, hagent⟩ := hagent
  obtain ⟨elapsed, helapsed⟩ := hd.exists_elapsed
  have hrows := (Topic.of question).execute_statement hd.typed clock.take.2.current
  have hsub := (Topic.of question).rows_subset hd.typed clock.take.2.current
  obtain ⟨text, htext, hread⟩ := exists_resultText
    (fun row hrow => hd.typed.isTyped_of_mem (hsub hrow))
    (fun row hrow => Dataset.isNamed_of_mem (hsub hrow))
  have hfresh := d.ids.fresh_not_mem d.store.ids
  have hopened := hd.opened_concat
    (r := (d.store.add (d.ids.fresh d.store.ids).1 question clock.current).1) rfl
  obtain ⟨records, hrecent⟩ := Store.exists_recent
    (s := (d.store.add (d.ids.fresh d.store.ids).1 question clock.current).2) hopened
    office.contextQueries
  have hfind := Store.find?_add hfresh question clock.current (d.ids.fresh d.store.ids).1
  rw [if_pos rfl] at hfind
  obtain ⟨journal, hprocess⟩ := office.perform_process_unaided (d := { d with
    store := (d.store.add (d.ids.fresh d.store.ids).1 question clock.current).2
    ids := (d.ids.fresh d.store.ids).2
    clock := some clock.take.2 }) hagent htables rfl hrecent hrows helapsed htext hfind rfl
  have hreplaced := Store.replace_concat
    (r := (d.store.add (d.ids.fresh d.store.ids).1 question clock.current).1) hfresh
    (unaidedOutcome question text elapsed)
  have hsubmit : (office.submit question).perform d = _ :=
    Action.perform_bind_of_ok (Desk.perform_create_of_clock hd.reads question) _
  refine ⟨_, text, elapsed, journal, rfl, hsubmit.trans (hprocess.trans ?_), hread⟩
  exact congrArg (fun store => (_, { d with
    store
    ids := (d.ids.fresh d.store.ids).2
    clock := some clock.take.2.take.2
    stopwatch := d.stopwatch.take.2.take.2
    journal })) hreplaced

/-- **Without a model a question is answered with what its topic shows.** -/
theorem submit_unaided (hagent : ∃ sink tokens, office.agent = Agent.main none sink tokens)
    (htables : office.tables = none) (hd : d.IsReady clock) (question : Text) :
    ∃ record interpretation text elapsed, ((office.submit question).perform d).1 = .ok record ∧
      record.outcome = .success (Topic.of question).statement interpretation text elapsed ∧
      Json.read text = .ok (.list (((Topic.of question).rows d.dataset clock.take.2.current).map
        fun row => .record row.inWriting)) := by
  obtain ⟨r, text, elapsed, journal, rfl, hsubmit, hread⟩ :=
    office.perform_submit_unaided hagent htables hd question
  exact ⟨_, _, text, elapsed, congrArg Prod.fst hsubmit, rfl, hread⟩

/-- An office without a model. -/
def rulesOffice : Office :=
  ⟨Agent.main none none Agent.usualTokens, none, none, usualCount, usualCount⟩

/-- A bill that is due on a day of June. -/
def billDueIn (day : Nat) : Invoice :=
  ⟨Text.of "1", Text.of "INV-1", Text.of "Acme", .midnight ⟨2024, 5, 1⟩, .midnight ⟨2024, 6, day⟩,
    Text.of "10.00", Text.of "pending", none⟩

/-- A clock that stands still in the middle of June. -/
def juneClock : Supply Timestamp := ⟨.midnight ⟨2024, 6, 15⟩, []⟩

/-- A desk with a bill that is overdue by that clock and one that is not. -/
def billsDesk : Desk :=
  { Desk.empty with
    dataset := ⟨[], [], [billDueIn 20, billDueIn 10], []⟩
    clock := some juneClock }

theorem isReady_billsDesk : billsDesk.IsReady juneClock where
  typed := ⟨by simp [billsDesk], by simp [billsDesk], by simp [billsDesk]⟩
  reads := rfl
  aware := by simp [juneClock, Timestamp.midnight]
  opened := by simp [billsDesk, Desk.empty, Store.empty]
  counted := by simp [billsDesk, Desk.empty, Binary64.isWithin_zero]

theorem rows_billsDesk :
    Topic.overdueInvoices.rows billsDesk.dataset juneClock.take.2.current =
      [(billDueIn 10).row] := by
  have hkept : ([billDueIn 20, billDueIn 10].filter fun i => i.status = Text.of "pending" ∧
      i.dueDate.instant < juneClock.take.2.current.instant) = [billDueIn 10] := by
    rw [List.filter_cons_of_neg (by decide +kernel), List.filter_cons_of_pos (by decide +kernel),
      List.filter_nil]
  show ((Table.arranged false _ 20 ([billDueIn 20, billDueIn 10].filter _)).map _) = _
  rw [hkept, Table.arranged, List.mergeSort_singleton]
  rfl

/-- A question about overdue bills is answered with the one that is overdue. -/
theorem submit_unaided_overdue_bills :
    billsDesk.IsReady juneClock ∧ ∃ record interpretation text elapsed,
      ((rulesOffice.submit (Text.of "Any OVERDUE invoices?")).perform billsDesk).1 = .ok record ∧
        record.outcome = .success Topic.overdueInvoices.statement interpretation text elapsed ∧
        Json.read text = .ok (.list [.record (billDueIn 10).row.inWriting]) := by
  have htopic : Topic.of (Text.of "Any OVERDUE invoices?") = .overdueInvoices := by decide +kernel
  have hanswered := rulesOffice.submit_unaided ⟨none, Agent.usualTokens, rfl⟩ rfl isReady_billsDesk
    (Text.of "Any OVERDUE invoices?")
  rw [htopic, rows_billsDesk] at hanswered
  exact ⟨isReady_billsDesk, hanswered⟩

end Office
end QueryDesk
