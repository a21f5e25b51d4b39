import QueryDesk.Proofs.Desk.Steps
import QueryDesk.Proofs.Query.Records

/-!
# Calls to the store

The four things that can be asked of the queries of a desk, as data (`Call`), and one relation that
says all that a call can do (`Call.Does`).  Every fact about runs of calls rests on the relation and
not on the steps themselves: a call that faults leaves the desk as it is (`Does.eq_of_error`), one
that succeeds touches one record only (`Does.find?_of_ne`), and a record that is touched keeps its
id, its question and its time (`Does.find?_of_find?`).
-/

set_option autoImplicit false

namespace QueryDesk

/-- A call to the queries of a desk. -/
inductive Call
  | create (question : Text)
  | succeed (id statement : Text) (interpretation : Option Text) (rows : Text) (milliseconds : Int)
  | fail (id message : Text) (milliseconds : Int) (statement interpretation : Option Text)
  | get (id : Text)

namespace Call

/-- The completion that a call asks for: the id and the outcome. -/
def completion? : Call → Option (Text × Outcome)
  | succeed id statement interpretation rows milliseconds =>
    some (id, .success statement interpretation rows milliseconds)
  | fail id message milliseconds statement interpretation =>
    some (id, .error message milliseconds statement interpretation)
  | _ => none

/-- The id that a call looks for. -/
def subject? : Call → Option Text
  | create _ => none
  | succeed id .. => some id
  | fail id .. => some id
  | get id => some id

/-- The step of a call. -/
def step : Call → Action QueryRecord
  | create question => Desk.create question
  | succeed id statement interpretation rows milliseconds =>
    Desk.complete id (.success statement interpretation rows milliseconds)
  | fail id message milliseconds statement interpretation =>
    Desk.complete id (.error message milliseconds statement interpretation)
  | get id => Desk.query id

theorem subject?_of_completion? {c : Call} {id : Text} {o : Outcome}
    (h : c.completion? = some (id, o)) : c.subject? = some id := by
  cases c <;> cases h <;> rfl

theorem isOpen_of_completion? {c : Call} {id : Text} {o : Outcome}
    (h : c.completion? = some (id, o)) : o.isOpen = false := by
  cases c <;> cases h <;> rfl

theorem eq_succeed_of_completion? {c : Call} {id statement rows : Text}
    {interpretation : Option Text} {milliseconds : Int}
    (h : c.completion? = some (id, .success statement interpretation rows milliseconds)) :
    c = .succeed id statement interpretation rows milliseconds := by
  cases c <;> cases h
  rfl

theorem eq_fail_of_completion? {c : Call} {id message : Text}
    {statement interpretation : Option Text} {milliseconds : Int}
    (h : c.completion? = some (id, .error message milliseconds statement interpretation)) :
    c = .fail id message milliseconds statement interpretation := by
  cases c <;> cases h
  rfl

theorem step_of_completion? {c : Call} {id : Text} {o : Outcome}
    (h : c.completion? = some (id, o)) : c.step = Desk.complete id o := by
  cases c <;> cases h <;> rfl

/-! ## What a call answers -/

section

variable {c : Call} {id : Text} {o : Outcome} {r : QueryRecord} {d : Desk}

theorem perform_of_missing (hc : c.subject? = some id) (h : d.store.find? id = none) :
    c.step.perform d = (.error (.unknownQuery id), d) := by
  cases c <;> cases hc
  · rw [step, d.perform_complete, Store.complete_of_missing h]
  · rw [step, d.perform_complete, Store.complete_of_missing h]
  · rw [step, d.perform_query, Store.get, h]

theorem perform_of_closed (hc : c.completion? = some (id, o)) (h : d.store.find? id = some r)
    (hclosed : r.outcome.isOpen = false) :
    c.step.perform d = (.error (.alreadyFinished id r.outcome.status), d) := by
  rw [step_of_completion? hc, d.perform_complete, Store.complete_of_closed h hclosed]

theorem perform_of_open (hc : c.completion? = some (id, o)) (h : d.store.find? id = some r)
    (hopen : r.outcome.isOpen = true) :
    c.step.perform d = (.ok { r with outcome := o },
      { d with store := d.store.replace { r with outcome := o } }) := by
  rw [step_of_completion? hc, d.perform_complete, Store.complete_of_open h hopen]

end

/-! ## What a call does -/

/-- What a call gives at a desk, and the desk that it leaves. -/
inductive Does (d : Desk) : Call → Except Fault QueryRecord → Desk → Prop
  | creates {question id : Text} {time : Timestamp} {d' : Desk} (hid : id ∉ d.store.ids)
    (hstore : d'.store = (d.store.add id question time).2) :
    Does d (.create question) (.ok (d.store.add id question time).1) d'
  | completes {c : Call} {id : Text} {o : Outcome} {r : QueryRecord} {d' : Desk}
    (hc : c.completion? = some (id, o)) (hstore : d.store.complete id o = .ok (r, d'.store)) :
    Does d c (.ok r) d'
  | reads {id : Text} {r : QueryRecord} (h : d.store.find? id = some r) : Does d (.get id) (.ok r) d
  | unknown {c : Call} {id : Text} (hc : c.subject? = some id) (h : d.store.find? id = none) :
    Does d c (.error (.unknownQuery id)) d
  | finished {c : Call} {id : Text} {o : Outcome} {r : QueryRecord}
    (hc : c.completion? = some (id, o)) (h : d.store.find? id = some r)
    (hclosed : r.outcome.isOpen = false) :
    Does d c (.error (.alreadyFinished id r.outcome.status)) d

theorem does_of_completion? {c : Call} {id : Text} {o : Outcome}
    (hc : c.completion? = some (id, o)) (d : Desk) :
    c.Does d (c.step.perform d).1 (c.step.perform d).2 := by
  cases hfind : d.store.find? id with
  | none =>
    rw [perform_of_missing (subject?_of_completion? hc) hfind]
    exact .unknown (subject?_of_completion? hc) hfind
  | some r =>
    cases hopen : r.outcome.isOpen with
    | false =>
      rw [perform_of_closed hc hfind hopen]
      exact .finished hc hfind hopen
    | true =>
      rw [perform_of_open hc hfind hopen]
      exact .completes hc (Store.complete_of_open hfind hopen o)

/-- **A call does one of these things.** -/
theorem does_perform (c : Call) (d : Desk) :
    c.Does d (c.step.perform d).1 (c.step.perform d).2 := by
  cases c with
  | create question =>
    obtain ⟨time, clock, journal, hcreate⟩ := d.perform_create question
    rw [step, hcreate]
    exact .creates (d.ids.fresh_not_mem d.store.ids) rfl
  | succeed id statement interpretation rows milliseconds => exact does_of_completion? rfl d
  | fail id message milliseconds statement interpretation => exact does_of_completion? rfl d
  | get id =>
    rw [step, d.perform_query, Store.get]
    cases hfind : d.store.find? id with
    | none => exact .unknown rfl hfind
    | some r => exact .reads hfind

/-! ## What a call leaves alone -/

namespace Does

variable {d d' : Desk} {c : Call} {result : Except Fault QueryRecord} {r : QueryRecord} {id : Text}

/-- A call that faults leaves the desk as it is. -/
theorem eq_of_error {fault : Fault} (h : c.Does d (.error fault) d') : d' = d := by
  cases h <;> rfl

/-- A call that succeeds leaves all records alone but its own. -/
theorem find?_of_ne (h : c.Does d (.ok r) d') (hne : id ≠ r.id) :
    d'.store.find? id = d.store.find? id := by
  cases h with
  | creates hid hstore =>
    rw [hstore, Store.find?_add hid]
    exact if_neg hne
  | completes hc hstore =>
    obtain ⟨old, hfind, -, rfl, -⟩ := Store.open_of_complete hstore
    rw [Store.find?_of_complete hstore, if_neg]
    rwa [← Store.id_of_find? hfind]
  | reads hfind => rfl

/-- Ids stay different. -/
theorem nodup (h : c.Does d result d') (hd : d.store.ids.Nodup) : d'.store.ids.Nodup := by
  cases h with
  | creates hid hstore =>
    rw [hstore]
    exact Store.nodup_concat hd hid
  | completes hc hstore =>
    obtain ⟨old, -, -, -, hreplace⟩ := Store.open_of_complete hstore
    rwa [hreplace, Store.ids_replace]
  | reads hfind => exact hd
  | unknown hc hfind => exact hd
  | finished hc hfind hclosed => exact hd

/-- **A record stays, and so do its id, its question and its time.**  Its outcome changes only when
the call completes it. -/
theorem find?_of_find? (h : c.Does d result d') (hr : d.store.find? id = some r) :
    ∃ r', d'.store.find? id = some r' ∧ r'.question = r.question ∧ r'.createdAt = r.createdAt ∧
      (r' = r ∨
        r.outcome.isOpen = true ∧ result = .ok r' ∧ c.completion? = some (id, r'.outcome)) := by
  cases h with
  | @creates question id₀ time _ hid hstore =>
    refine ⟨r, ?_, rfl, rfl, .inl rfl⟩
    have hne : id ≠ id₀ := by
      rintro rfl
      exact hid (Store.mem_ids_iff.mpr ⟨r, hr⟩)
    rw [hstore, Store.find?_add hid, if_neg hne, hr]
  | @completes _ id₀ o new _ hc hstore =>
    rw [Store.find?_of_complete hstore]
    by_cases heq : id = id₀
    · subst heq
      obtain ⟨old, hfind, hopen, rfl, -⟩ := Store.open_of_complete hstore
      rw [hr] at hfind
      cases hfind
      exact ⟨_, if_pos rfl, rfl, rfl, .inr ⟨hopen, rfl, hc⟩⟩
    · exact ⟨r, by rw [if_neg heq, hr], rfl, rfl, .inl rfl⟩
  | reads hfind => exact ⟨r, hr, rfl, rfl, .inl rfl⟩
  | unknown hc hfind => exact ⟨r, hr, rfl, rfl, .inl rfl⟩
  | finished hc hfind hclosed => exact ⟨r, hr, rfl, rfl, .inl rfl⟩

/-- A record that was not there before has just been created. -/
theorem outcome_of_find?_eq_none (h : c.Does d result d') (hnone : d.store.find? id = none)
    (hr : d'.store.find? id = some r) : r.outcome = .processing ∧ c.completion? = none := by
  cases h with
  | @creates question id₀ time _ hid hstore =>
    rw [hstore, Store.find?_add hid] at hr
    split at hr
    · cases hr; exact ⟨rfl, rfl⟩
    · rw [hnone] at hr; cases hr
  | @completes _ id₀ o new _ hc hstore =>
    rw [Store.find?_of_complete hstore] at hr
    split at hr
    · next heq =>
      obtain ⟨old, hfind, -, -, -⟩ := Store.open_of_complete hstore
      rw [← heq, hnone] at hfind
      cases hfind
    · rw [hnone] at hr; cases hr
  | reads hfind => rw [hnone] at hr; cases hr
  | unknown hc hfind => rw [hnone] at hr; cases hr
  | finished hc hfind hclosed => rw [hnone] at hr; cases hr

/-- A record whose completion was asked for is closed, by this call or by an earlier one. -/
theorem isClosed_of_completion? {o : Outcome} (h : c.Does d result d')
    (hc : c.completion? = some (id, o)) (hr : d.store.find? id = some r) :
    d'.store.IsClosed id := by
  cases h with
  | creates hid hstore => cases hc
  | completes hc' hstore =>
    rw [hc] at hc'
    cases hc'
    exact Store.isClosed_of_complete hstore (isOpen_of_completion? hc)
  | reads hfind => cases hc
  | unknown hc' hfind =>
    rw [subject?_of_completion? hc] at hc'
    cases hc'
    rw [hr] at hfind
    cases hfind
  | finished hc' hfind hclosed =>
    rw [hc] at hc'
    cases hc'
    exact ⟨_, hfind, hclosed⟩

end Does

end Call
end QueryDesk
