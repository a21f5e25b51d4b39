import QueryDesk.Desk.Answering
import QueryDesk.Proofs.Query.Records

/-!
# Steps of the desk

`Action.perform` says what a step gives at a desk and what desk it leaves.  First come the laws of
the ways in which steps are put together, then, for each operation of the desk, what it changes:
readings of clocks and notes leave the queries alone, and only a completion closes one.
-/

set_option autoImplicit false

namespace QueryDesk

variable {α β : Type}

/-! ## Steps put together -/

namespace Action

/-- What a step gives at a desk, and the desk that it leaves. -/
def perform (step : Action α) (d : Desk) : Except Fault α × Desk := step.run d

@[simp] theorem perform_pure (a : α) (d : Desk) : (pure a : Action α).perform d = (.ok a, d) := rfl

@[simp] theorem perform_throw (fault : Fault) (d : Desk) :
    (throw fault : Action α).perform d = (.error fault, d) := rfl

@[simp] theorem perform_get (d : Desk) : (get : Action Desk).perform d = (.ok d, d) := rfl

@[simp] theorem perform_set (d d' : Desk) : (set d' : Action PUnit).perform d = (.ok ⟨⟩, d') := rfl

@[simp] theorem perform_modify (f : Desk → Desk) (d : Desk) :
    (modify f : Action PUnit).perform d = (.ok ⟨⟩, f d) := rfl

@[simp] theorem perform_ofExcept (result : Except Fault α) (d : Desk) :
    (ofExcept result).perform d = (result, d) := rfl

@[simp] theorem perform_lift (result : Except Fault α) (d : Desk) :
    (liftM result : Action α).perform d = (result, d) := rfl

@[simp] theorem perform_attempted (step : Action α) (d : Desk) :
    step.attempted.perform d = (.ok (step.perform d).1, (step.perform d).2) := rfl

theorem perform_bind (step : Action α) (next : α → Action β) (d : Desk) :
    (step >>= next).perform d =
      match step.perform d with
      | (.ok a, d') => (next a).perform d'
      | (.error fault, d') => (.error fault, d') := by
  show (ExceptT.bindCont next (step.perform d).1) (step.perform d).2 = _
  rcases step.perform d with ⟨result, d'⟩
  cases result <;> rfl

/-- A step that succeeds hands its result and its desk to the next. -/
theorem perform_bind_of_ok {step : Action α} {d d' : Desk} {a : α}
    (h : step.perform d = (.ok a, d')) (next : α → Action β) :
    (step >>= next).perform d = (next a).perform d' := by
  rw [perform_bind, h]

/-- A step that faults ends what it is part of. -/
theorem perform_bind_of_error {step : Action α} {d d' : Desk} {fault : Fault}
    (h : step.perform d = (.error fault, d')) (next : α → Action β) :
    (step >>= next).perform d = (.error fault, d') := by
  rw [perform_bind, h]

end Action

/-! ## Operations of the desk -/

namespace Desk

/-- A desk with nothing on it, at which a model has nothing to say and all clocks stand still. -/
def empty : Desk where
  dataset := .empty
  store := .empty
  ids := ⟨[], 0⟩
  clock := none
  stopwatch := ⟨.zero false, []⟩
  replies := ⟨.ok .null, []⟩
  asked := []
  journal := ⟨⟨.midnight ⟨2024, 6, 15⟩, []⟩, [], [], .empty⟩

variable (d : Desk)

theorem perform_seconds : seconds.perform d =
    (.ok d.stopwatch.current, { d with stopwatch := d.stopwatch.take.2 }) := rfl

/-- The milliseconds between a reading of the stopwatch and its next reading. -/
def elapsed (d : Desk) (started : Binary64) : Except Fault Int :=
  wholePart ((d.stopwatch.current.sub started).mul (.ofNat 1000))

theorem perform_millisecondsSince (started : Binary64) :
    (millisecondsSince started).perform d =
      (d.elapsed started, { d with stopwatch := d.stopwatch.take.2 }) := rfl

/-- A note changes the journal only. -/
theorem perform_note (sink : Option Sink) (id : Text) (event : String) (payload : Row) :
    ∃ journal, (note sink id event payload).perform d = (.ok (), { d with journal }) := by
  cases sink with
  | none => exact ⟨d.journal, rfl⟩
  | some sink => exact ⟨_, rfl⟩

/-- The clock gives a time and changes nothing but itself. -/
theorem perform_now : ∃ time clock journal,
    now.perform d = (.ok time, { d with clock, journal }) := by
  obtain ⟨dataset, store, ids, clock, stopwatch, replies, asked, journal⟩ := d
  cases clock with
  | none => exact ⟨_, _, _, rfl⟩
  | some clock => exact ⟨_, _, _, rfl⟩

theorem perform_recent (count : Int) : (recent count).perform d = (d.store.recent count, d) := by
  rw [recent, Action.perform_bind, Action.perform_get]
  cases h : d.store.recent count <;> simp [h]

theorem perform_query (id : Text) : (query id).perform d = (d.store.get id, d) := by
  rw [query, Action.perform_bind, Action.perform_get]
  cases h : d.store.get id <;> simp [h]

theorem perform_complete (id : Text) (outcome : Outcome) :
    (complete id outcome).perform d =
      match d.store.complete id outcome with
      | .ok (r, store) => (.ok r, { d with store })
      | .error fault => (.error fault, d) := by
  rw [complete, Action.perform_bind, Action.perform_get]
  simp only [Action.perform_bind, Action.perform_lift]
  cases d.store.complete id outcome <;> rfl

/-- Opening a query adds a record under a fresh id. -/
theorem perform_create (question : Text) : ∃ time clock journal,
    (create question).perform d =
      (.ok (d.store.add (d.ids.fresh d.store.ids).1 question time).1,
        { d with
          store := (d.store.add (d.ids.fresh d.store.ids).1 question time).2
          ids := (d.ids.fresh d.store.ids).2
          clock
          journal }) := by
  obtain ⟨time, clock, journal, hnow⟩ := d.perform_now
  refine ⟨time, clock, journal, ?_⟩
  rw [create, Action.perform_bind_of_ok hnow]
  rfl

end Desk
end QueryDesk
