import QueryDesk.Fault

/-!
# Results and faults

What a computation put together of two steps comes to: its result is that of the second step, and
its fault is that of the first step that faults.  Where only the result matters, a computation is
looked at as an option (`Except.toOption`).

Where two computations do the same with different things, the result of one is said to stand for
that of the other (`Except.bind_eq_map`): it is its image, and the faults are equal.
-/

set_option autoImplicit false

namespace QueryDesk

variable {ε α β : Type} {x : Except ε α} {f : α → Except ε β}

theorem Except.ok_bind (a : α) (f : α → Except ε β) : (Except.ok a >>= f) = f a := rfl

theorem Except.bind_eq_ok_iff {b : β} : x >>= f = .ok b ↔ ∃ a, x = .ok a ∧ f a = .ok b := by
  cases x with
  | ok a =>
    show f a = Except.ok b ↔ _
    simp
  | error e =>
    show Except.error e = Except.ok b ↔ _
    simp

theorem Except.bind_eq_error_iff {e : ε} :
    x >>= f = .error e ↔ x = .error e ∨ ∃ a, x = .ok a ∧ f a = .error e := by
  cases x with
  | ok a =>
    show f a = Except.error e ↔ _
    simp
  | error e' =>
    show Except.error e' = Except.error e ↔ _
    simp

@[simp] theorem Except.toOption_ok (a : α) : (Except.ok a : Except ε α).toOption = some a := rfl

@[simp] theorem Except.toOption_error (e : ε) :
    (Except.error e : Except ε α).toOption = none := rfl

theorem Except.ok_of_toOption {a : α} (h : x.toOption = some a) : x = .ok a := by
  cases x with
  | ok b => exact congrArg _ (Option.some.inj h)
  | error e => cases h

theorem Except.toOption_bind (x : Except ε α) (f : α → Except ε β) :
    (x >>= f).toOption = x.toOption.bind fun a => (f a).toOption := by
  cases x <;> rfl

/-! ## Results that stand for others -/

section Map

variable {ε' γ α' β' : Type} {f' : α' → Except ε β'} {k : β → β'}

/-- Of two steps the first gives something that stands for the result of another. -/
theorem Except.bind_eq_map {x' : Except ε α'} {g : α → α'} (hx : x' = x.map g)
    (h : ∀ a, f' (g a) = (f a).map k) : (x' >>= f') = (x >>= f).map k := by
  subst hx
  rcases x with e | a
  · rfl
  · exact h a

/-- Of two steps the first is the same. -/
theorem Except.bind_eq_map_right {f' : α → Except ε β'} (h : ∀ a, f' a = (f a).map k) :
    (x >>= f') = (x >>= f).map k := by
  rcases x with e | a
  · rfl
  · exact h a

theorem Except.mapError_map (f : ε → ε') (g : α → γ) (x : Except ε α) :
    (x.map g).mapError f = (x.mapError f).map g := by
  cases x <;> rfl

end Map

end QueryDesk

/-! ## Steps that change a state and may fault

The journal and the conversation take steps of one form: a step gives a result or a fault, and what
it changed before a fault stays changed.  `Step.perform` says what a step gives in a state and what
state it leaves, and there is a law for each way in which steps are put together.
-/

namespace QueryDesk
namespace Step

variable {σ α β : Type}

/-- What a step gives in a state, and the state that it leaves. -/
def perform (step : ExceptT Fault (StateM σ) α) (s : σ) : Except Fault α × σ := step.run s

@[simp] theorem perform_pure (a : α) (s : σ) :
    perform (pure a : ExceptT Fault (StateM σ) α) s = (.ok a, s) := rfl

@[simp] theorem perform_throw (fault : Fault) (s : σ) :
    perform (throw fault : ExceptT Fault (StateM σ) α) s = (.error fault, s) := rfl

@[simp] theorem perform_get (s : σ) :
    perform (get : ExceptT Fault (StateM σ) σ) s = (.ok s, s) := rfl

@[simp] theorem perform_set (s s' : σ) :
    perform (set s' : ExceptT Fault (StateM σ) PUnit) s = (.ok ⟨⟩, s') := rfl

@[simp] theorem perform_modify (f : σ → σ) (s : σ) :
    perform (modify f : ExceptT Fault (StateM σ) PUnit) s = (.ok ⟨⟩, f s) := rfl

@[simp] theorem perform_lift (result : Except Fault α) (s : σ) :
    perform (liftM result : ExceptT Fault (StateM σ) α) s = (result, s) := rfl

theorem perform_bind (step : ExceptT Fault (StateM σ) α)
    (next : α → ExceptT Fault (StateM σ) β) (s : σ) :
    perform (step >>= next) s =
      match perform step s with
      | (.ok a, s') => perform (next a) s'
      | (.error fault, s') => (.error fault, s') := by
  show (ExceptT.bindCont next (perform step s).1) (perform step s).2 = _
  rcases perform step s with ⟨result, s'⟩
  cases result <;> rfl

/-- A step that succeeds hands its result and its state to the next. -/
theorem perform_bind_of_ok {step : ExceptT Fault (StateM σ) α} {s s' : σ} {a : α}
    (h : perform step s = (.ok a, s')) (next : α → ExceptT Fault (StateM σ) β) :
    perform (step >>= next) s = perform (next a) s' := by
  rw [perform_bind, h]

/-- A step that faults ends what it is part of. -/
theorem perform_bind_of_error {step : ExceptT Fault (StateM σ) α} {s s' : σ} {fault : Fault}
    (h : perform step s = (.error fault, s')) (next : α → ExceptT Fault (StateM σ) β) :
    perform (step >>= next) s = (.error fault, s') := by
  rw [perform_bind, h]

/-- Two steps succeed one after the other if both do. -/
theorem perform_bind_eq_ok_iff {step : ExceptT Fault (StateM σ) α}
    {next : α → ExceptT Fault (StateM σ) β} {s s₂ : σ} {b : β} :
    perform (step >>= next) s = (.ok b, s₂) ↔
      ∃ a s₁, perform step s = (.ok a, s₁) ∧ perform (next a) s₁ = (.ok b, s₂) := by
  rw [perform_bind]
  rcases perform step s with ⟨fault | a, s₁⟩
  · simp
  · constructor
    · intro h
      exact ⟨a, s₁, rfl, h⟩
    · rintro ⟨a', s', ⟨⟩, h⟩
      exact h

end Step
end QueryDesk
