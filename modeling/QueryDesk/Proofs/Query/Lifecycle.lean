import Mathlib.Data.List.Induction
import QueryDesk.Proofs.Query.Calls

/-!
# The lifecycle of queries

What holds of the queries of a desk after any calls in any order.  A step lemma says what one call
keeps, and induction over the calls says what they keep together: the way of each record from its
creation to its one completion (`Desk.lifecycle`).

The calls of several workers are calls in some order, so all this holds for them as well.
-/

set_option autoImplicit false

namespace QueryDesk
namespace Desk

variable {d : Desk} {calls : List Call} {c : Call} {id : Text} {r : QueryRecord}

/-- The desk after some calls. -/
def after (d : Desk) (calls : List Call) : Desk :=
  calls.foldl (fun d c => (c.step.perform d).2) d

/-- What a call gives after some calls. -/
def answer (d : Desk) (calls : List Call) (c : Call) : Except Fault QueryRecord :=
  (c.step.perform (d.after calls)).1

theorem after_append (d : Desk) (calls more : List Call) :
    d.after (calls ++ more) = (d.after calls).after more := List.foldl_append

theorem does_after (d : Desk) (calls : List Call) (c : Call) :
    c.Does (d.after calls) (d.answer calls c) (d.after (calls ++ [c])) := by
  rw [after_append]
  exact c.does_perform (d.after calls)

/-! ## Ids -/

theorem nodup_after (h : d.store.ids.Nodup) (calls : List Call) :
    (d.after calls).store.ids.Nodup := by
  induction calls using List.reverseRecOn with
  | nil => exact h
  | append_singleton calls c ih => exact (d.does_after calls c).nodup ih

/-- A record that is there stays, with its question and its time. -/
theorem find?_after (hr : (d.after calls).store.find? id = some r) (more : List Call) :
    ∃ r', (d.after (calls ++ more)).store.find? id = some r' ∧ r'.question = r.question ∧
      r'.createdAt = r.createdAt := by
  induction more using List.reverseRecOn with
  | nil => exact ⟨r, by rwa [List.append_nil], rfl, rfl⟩
  | append_singleton more c ih =>
    obtain ⟨r', hr', hquestion, htime⟩ := ih
    obtain ⟨r'', hr'', hquestion', htime', -⟩ := (d.does_after (calls ++ more) c).find?_of_find? hr'
    refine ⟨r'', ?_, hquestion'.trans hquestion, htime'.trans htime⟩
    rwa [← List.append_assoc]

theorem mem_ids_after (hid : id ∈ (d.after calls).store.ids) (more : List Call) :
    id ∈ (d.after (calls ++ more)).store.ids := by
  obtain ⟨r, hr⟩ := Store.mem_ids_iff.mp hid
  obtain ⟨r', hr', -⟩ := find?_after hr more
  exact Store.mem_ids_iff.mpr ⟨r', hr'⟩

/-! ## Completion -/

/-- Among some calls was one to complete a record that was there at the time. -/
def Called (d : Desk) (calls : List Call) (id : Text) : Prop :=
  ∃ earlier c later o, calls = earlier ++ c :: later ∧ c.completion? = some (id, o) ∧
    id ∈ (d.after earlier).store.ids

theorem called_concat : d.Called (calls ++ [c]) id ↔
    d.Called calls id ∨ ∃ o, c.completion? = some (id, o) ∧ id ∈ (d.after calls).store.ids := by
  constructor
  · rintro ⟨earlier, c', later, o, h, hc, hid⟩
    rcases List.eq_nil_or_concat later with rfl | ⟨later, last, rfl⟩
    · obtain ⟨rfl, hlast⟩ := List.append_inj' h rfl
      cases hlast
      exact .inr ⟨o, hc, hid⟩
    · rw [List.concat_eq_append, ← List.cons_append, ← List.append_assoc] at h
      exact .inl ⟨earlier, c', later, o, (List.append_inj' h rfl).1, hc, hid⟩
  · rintro (⟨earlier, c', later, o, rfl, hc, hid⟩ | ⟨o, hc, hid⟩)
    · exact ⟨earlier, c', later ++ [c], o, by simp, hc, hid⟩
    · exact ⟨calls, c, [], o, rfl, hc, hid⟩

theorem mem_ids_of_called (h : d.Called calls id) : id ∈ (d.after calls).store.ids := by
  obtain ⟨earlier, c, later, o, rfl, -, hid⟩ := h
  exact mem_ids_after hid _

/-- A record was closed by a call that it bears the marks of. -/
def ClosedBy (d : Desk) (calls : List Call) (r : QueryRecord) : Prop :=
  ∃ earlier c later, calls = earlier ++ c :: later ∧
    c.completion? = some (r.id, r.outcome) ∧ d.answer earlier c = .ok r

theorem ClosedBy.concat (h : d.ClosedBy calls r) (c : Call) : d.ClosedBy (calls ++ [c]) r := by
  obtain ⟨earlier, c', later, rfl, hc, hanswer⟩ := h
  exact ⟨earlier, c', later ++ [c], by simp, hc, hanswer⟩

/-- Where a record stands after some calls: nobody has called for its end and it waits, or the first
such call has closed it. -/
theorem stands_after (hd : d.store = .empty) (calls : List Call)
    (hr : (d.after calls).store.find? id = some r) :
    (r.outcome = .processing ∧ ¬d.Called calls id) ∨
      (r.outcome.isOpen = false ∧ d.Called calls id ∧ d.ClosedBy calls r) := by
  induction calls using List.reverseRecOn generalizing r with
  | nil =>
    have hempty : d.store.find? id = some r := hr
    rw [hd] at hempty
    cases hempty
  | append_singleton calls c ih =>
    have hdoes := d.does_after calls c
    cases hold : (d.after calls).store.find? id with
    | none =>
      obtain ⟨hprocessing, hc⟩ := hdoes.outcome_of_find?_eq_none hold hr
      refine .inl ⟨hprocessing, fun hcalled => ?_⟩
      rw [called_concat] at hcalled
      rcases hcalled with hcalled | ⟨o, ho, -⟩
      · exact Store.not_mem_ids_iff.mpr hold (mem_ids_of_called hcalled)
      · rw [hc] at ho
        cases ho
    | some old =>
      have hid : id ∈ (d.after calls).store.ids := Store.mem_ids_iff.mpr ⟨old, hold⟩
      obtain ⟨r', hr', -, -, hsame | ⟨hopen, hanswer, hc⟩⟩ := hdoes.find?_of_find? hold
      · rw [hr] at hr'
        cases hr'
        subst hsame
        rcases ih hold with ⟨hprocessing, hnot⟩ | ⟨hclosed, hcalled, hby⟩
        · refine .inl ⟨hprocessing, fun hcalled => ?_⟩
          rw [called_concat] at hcalled
          rcases hcalled with hcalled | ⟨o, ho, -⟩
          · exact hnot hcalled
          · obtain ⟨r', hr', hclosed⟩ := hdoes.isClosed_of_completion? ho hold
            rw [hr] at hr'
            cases hr'
            rw [hprocessing] at hclosed
            cases hclosed
        · exact .inr ⟨hclosed, called_concat.mpr (.inl hcalled), hby.concat c⟩
      · rw [hr] at hr'
        cases hr'
        have hrid := Store.id_of_find? hr
        refine .inr ⟨Call.isOpen_of_completion? hc, called_concat.mpr (.inr ⟨_, hc, hid⟩), ?_⟩
        exact ⟨calls, c, [], rfl, by rw [hrid]; exact hc, hanswer⟩

/-! ## The lifecycle -/

/-- What holds of the queries of a desk, whatever calls are made. -/
structure Lifecycle (d : Desk) (calls : List Call) : Prop where
  /-- No two records have the same id. -/
  nodup : (d.after calls).store.ids.Nodup
  /-- A record stays whatever is called later, and so do its id, its question and its time. -/
  stays : ∀ r ∈ (d.after calls).store.records, ∀ more : List Call,
    ∃ r' ∈ (d.after (calls ++ more)).store.records,
      r'.id = r.id ∧ r'.question = r.question ∧ r'.createdAt = r.createdAt
  /-- A record in process has no results. -/
  processing : ∀ r ∈ (d.after calls).store.records, r.outcome.status = Text.of "processing" →
    r.outcome.statement? = none ∧ r.outcome.interpretation? = none ∧ r.outcome.rows? = none ∧
      r.outcome.message? = none ∧ r.outcome.milliseconds? = none
  /-- A successful record has no message, and all else that the call that completed it gave. -/
  success : ∀ r ∈ (d.after calls).store.records, r.outcome.status = Text.of "success" →
    r.outcome.message? = none ∧
      ∃ (earlier later : List Call) (statement : Text) (interpretation : Option Text) (rows : Text)
        (milliseconds : Int),
        calls = earlier ++ .succeed r.id statement interpretation rows milliseconds :: later ∧
        d.answer earlier (.succeed r.id statement interpretation rows milliseconds) = .ok r ∧
        r.outcome.statement? = some statement ∧ r.outcome.interpretation? = interpretation ∧
        r.outcome.rows? = some rows ∧ r.outcome.milliseconds? = some milliseconds
  /-- A failed record has no rows, and all else that the call that completed it gave. -/
  error : ∀ r ∈ (d.after calls).store.records, r.outcome.status = Text.of "error" →
    r.outcome.rows? = none ∧
      ∃ (earlier later : List Call) (message : Text) (milliseconds : Int)
        (statement interpretation : Option Text),
        calls = earlier ++ .fail r.id message milliseconds statement interpretation :: later ∧
        d.answer earlier (.fail r.id message milliseconds statement interpretation) = .ok r ∧
        r.outcome.message? = some message ∧ r.outcome.milliseconds? = some milliseconds ∧
        r.outcome.statement? = statement ∧ r.outcome.interpretation? = interpretation
  /-- A question that is asked gets a record with an id that no other has. -/
  created : ∀ question : Text, ∃ r, d.answer calls (.create question) = .ok r ∧
    r.id ∉ (d.after calls).store.ids ∧ r.question = question ∧ r.outcome = .processing ∧
      r ∈ (d.after (calls ++ [.create question])).store.records
  /-- A call for an id that is not there says so. -/
  unknown : ∀ (c : Call) (id : Text), c.subject? = some id → id ∉ (d.after calls).store.ids →
    d.answer calls c = .error (.unknownQuery id)
  /-- The first call to complete a record completes it. -/
  first : ∀ (c : Call) (id : Text) (o : Outcome), c.completion? = some (id, o) →
    id ∈ (d.after calls).store.ids → ¬d.Called calls id →
      ∃ r, d.answer calls c = .ok r ∧ r.id = id ∧ r.outcome = o ∧
        r ∈ (d.after (calls ++ [c])).store.records
  /-- Every later call to complete it finds it finished. -/
  later : ∀ (c : Call) (id : Text) (o : Outcome), c.completion? = some (id, o) →
    d.Called calls id → ∃ r ∈ (d.after calls).store.records,
      r.id = id ∧ d.answer calls c = .error (.alreadyFinished id r.outcome.status)
  /-- A call that faults changes nothing. -/
  faulting : ∀ (c : Call) (fault : Fault), d.answer calls c = .error fault →
    d.after (calls ++ [c]) = d.after calls
  /-- A call that succeeds changes no record but its own. -/
  others : ∀ (c : Call) (r : QueryRecord), d.answer calls c = .ok r → ∀ other : QueryRecord,
    other.id ≠ r.id →
      (other ∈ (d.after (calls ++ [c])).store.records ↔ other ∈ (d.after calls).store.records)

theorem created_after (question : Text) : ∃ r, d.answer calls (.create question) = .ok r ∧
    r.id ∉ (d.after calls).store.ids ∧ r.question = question ∧ r.outcome = .processing ∧
      r ∈ (d.after (calls ++ [.create question])).store.records := by
  have hdoes := d.does_after calls (.create question)
  generalize hanswer : d.answer calls (.create question) = result at hdoes
  generalize hafter : d.after (calls ++ [.create question]) = d' at hdoes
  cases hdoes with
  | creates hid hstore =>
    refine ⟨_, rfl, hid, rfl, rfl, ?_⟩
    rw [hstore]
    exact List.mem_append_right _ List.mem_cons_self
  | completes hc hstore => cases hc
  | unknown hc hfind => cases hc
  | finished hc hfind hclosed => cases hc

section

variable (hd : d.store = .empty)
include hd

theorem mem_records_after_iff :
    r ∈ (d.after calls).store.records ↔ (d.after calls).store.find? r.id = some r := by
  have hnodup : (d.after calls).store.ids.Nodup :=
    nodup_after (by rw [hd]; exact List.nodup_nil) calls
  rw [Store.find?_eq_some_iff hnodup]
  exact ⟨fun hr => ⟨hr, rfl⟩, fun hr => hr.1⟩

/-- A record with an outcome was closed by a call for that outcome. -/
theorem closedBy_after (hr : r ∈ (d.after calls).store.records) (h : r.outcome ≠ .processing) :
    d.ClosedBy calls r := by
  rcases stands_after hd calls ((mem_records_after_iff hd).mp hr) with ⟨h', -⟩ | ⟨-, -, hby⟩
  · exact absurd h' h
  · exact hby

theorem success_after (hr : r ∈ (d.after calls).store.records)
    (hstatus : r.outcome.status = Text.of "success") :
    ∃ (earlier later : List Call) (statement : Text) (interpretation : Option Text) (rows : Text)
      (milliseconds : Int),
      calls = earlier ++ .succeed r.id statement interpretation rows milliseconds :: later ∧
      d.answer earlier (.succeed r.id statement interpretation rows milliseconds) = .ok r ∧
      r.outcome = .success statement interpretation rows milliseconds := by
  obtain ⟨statement, interpretation, rows, milliseconds, ho⟩ := Outcome.eq_success_of_status hstatus
  obtain ⟨earlier, c, later, rfl, hc, hanswer⟩ := closedBy_after hd hr (by rw [ho]; nofun)
  rw [ho] at hc
  cases Call.eq_succeed_of_completion? hc
  exact ⟨earlier, later, statement, interpretation, rows, milliseconds, rfl, hanswer, ho⟩

theorem error_after (hr : r ∈ (d.after calls).store.records)
    (hstatus : r.outcome.status = Text.of "error") :
    ∃ (earlier later : List Call) (message : Text) (milliseconds : Int)
      (statement interpretation : Option Text),
      calls = earlier ++ .fail r.id message milliseconds statement interpretation :: later ∧
      d.answer earlier (.fail r.id message milliseconds statement interpretation) = .ok r ∧
      r.outcome = .error message milliseconds statement interpretation := by
  obtain ⟨message, milliseconds, statement, interpretation, ho⟩ :=
    Outcome.eq_error_of_status hstatus
  obtain ⟨earlier, c, later, rfl, hc, hanswer⟩ := closedBy_after hd hr (by rw [ho]; nofun)
  rw [ho] at hc
  cases Call.eq_fail_of_completion? hc
  exact ⟨earlier, later, message, milliseconds, statement, interpretation, rfl, hanswer, ho⟩

theorem first_after {o : Outcome} (hc : c.completion? = some (id, o))
    (hid : id ∈ (d.after calls).store.ids) (hnot : ¬d.Called calls id) :
    ∃ r, d.answer calls c = .ok r ∧ r.id = id ∧ r.outcome = o ∧
      r ∈ (d.after (calls ++ [c])).store.records := by
  obtain ⟨old, hold⟩ := Store.mem_ids_iff.mp hid
  have hopen : old.outcome.isOpen = true := by
    rcases stands_after hd calls hold with ⟨h, -⟩ | ⟨-, hcalled, -⟩
    · rw [h]; rfl
    · exact absurd hcalled hnot
  have hperform := Call.perform_of_open hc hold hopen
  have hcomplete := Store.complete_of_open hold hopen o
  have hstore : (d.after (calls ++ [c])).store =
      (d.after calls).store.replace { old with outcome := o } := by
    rw [after_append, after, List.foldl_cons, List.foldl_nil, hperform]
  have hoid : old.id = id := Store.id_of_find? hold
  refine ⟨{ old with outcome := o }, by rw [answer, hperform], hoid, rfl, ?_⟩
  have hfind := Store.find?_of_complete hcomplete id
  rw [if_pos rfl, ← hstore] at hfind
  exact List.mem_of_find?_eq_some hfind

theorem later_after {o : Outcome} (hc : c.completion? = some (id, o))
    (hcalled : d.Called calls id) : ∃ r ∈ (d.after calls).store.records,
      r.id = id ∧ d.answer calls c = .error (.alreadyFinished id r.outcome.status) := by
  obtain ⟨r, hr⟩ := Store.mem_ids_iff.mp (mem_ids_of_called hcalled)
  refine ⟨r, List.mem_of_find?_eq_some hr, Store.id_of_find? hr, ?_⟩
  rcases stands_after hd calls hr with ⟨-, hnot⟩ | ⟨hclosed, -⟩
  · exact absurd hcalled hnot
  · rw [answer, Call.perform_of_closed hc hr hclosed]

end

/-- **Queries keep to their lifecycle**, whatever calls are made in whatever order, at any clock and
with any source of ids. -/
theorem lifecycle {d : Desk} (hd : d.store = .empty) (calls : List Call) : d.Lifecycle calls where
  nodup := nodup_after (by rw [hd]; exact List.nodup_nil) calls
  stays r hr more := by
    obtain ⟨r', hr', hquestion, htime⟩ := find?_after ((mem_records_after_iff hd).mp hr) more
    exact ⟨r', List.mem_of_find?_eq_some hr', Store.id_of_find? hr', hquestion, htime⟩
  created := created_after
  processing r _ hstatus := by
    rw [Outcome.eq_processing_of_status hstatus]
    exact ⟨rfl, rfl, rfl, rfl, rfl⟩
  success r hr hstatus := by
    obtain ⟨earlier, later, statement, interpretation, rows, milliseconds, hcalls, hanswer, ho⟩ :=
      success_after hd hr hstatus
    refine ⟨by rw [ho]; rfl, earlier, later, statement, interpretation, rows, milliseconds, hcalls,
      hanswer, ?_⟩
    rw [ho]
    exact ⟨rfl, rfl, rfl, rfl⟩
  error r hr hstatus := by
    obtain ⟨earlier, later, message, milliseconds, statement, interpretation, hcalls, hanswer,
      ho⟩ := error_after hd hr hstatus
    refine ⟨by rw [ho]; rfl, earlier, later, message, milliseconds, statement, interpretation,
      hcalls, hanswer, ?_⟩
    rw [ho]
    exact ⟨rfl, rfl, rfl, rfl⟩
  unknown c id hc hid := by
    rw [answer, Call.perform_of_missing hc (Store.not_mem_ids_iff.mp hid)]
  first _ _ _ hc hid hnot := first_after hd hc hid hnot
  later _ _ _ hc hcalled := later_after hd hc hcalled
  faulting c fault h := by
    have hdoes := d.does_after calls c
    rw [h] at hdoes
    exact hdoes.eq_of_error
  others c r h other hne := by
    have hdoes := d.does_after calls c
    rw [h] at hdoes
    rw [mem_records_after_iff hd, mem_records_after_iff hd, hdoes.find?_of_ne hne]

/-- Two questions of which the second is offered a taken id first, and two calls to complete the
first of them. -/
theorem lifecycle_of_repeated_id :
    ({ Desk.empty with ids := ⟨[Text.of "a", Text.of "a", Text.of "b"], 0⟩ } : Desk).store = .empty ∧
      Lifecycle { Desk.empty with ids := ⟨[Text.of "a", Text.of "a", Text.of "b"], 0⟩ }
        [.create (Text.of "Show sales"), .create (Text.of "Show work"),
          .fail (Text.of "a") (Text.of "model offline") 3 none none,
          .succeed (Text.of "a") (Text.of "SELECT * FROM sales_orders") none (Text.of "[]") 5] :=
  ⟨rfl, lifecycle rfl _⟩

end Desk
end QueryDesk
