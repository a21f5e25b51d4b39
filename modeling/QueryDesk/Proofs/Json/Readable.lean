import QueryDesk.Proofs.Json.RoundTrip
import QueryDesk.Proofs.Value.Nested

/-!
# Whatever is written as JSON can be read

Sending a value ends in one of two ways (`Json.sends`), whatever the value: with a fault, which is
that of a number too long or of a thing that the writer has no text for, or with a text that is read
as some value.  In particular a list that is written is read as a list of as many items
(`Json.exists_read_list`).
-/

set_option autoImplicit false

namespace QueryDesk
namespace Json

variable {fallback : Fallback}

/-! ## Faults of an output -/

namespace Output

theorem fault_of_toExcept {a : Output} {t : Text} (h : a.toExcept = .ok t) : a.fault = none := by
  unfold toExcept at h
  split at h
  · cases h
  · next hfault => exact hfault

theorem fault_andThen_of_some {a : Output} {f : Fault} (h : a.fault = some f) (b : Output) :
    (a.andThen b).fault = some f := by
  simp only [andThen, h]

theorem fault_andThen_of_none {a : Output} (h : a.fault = none) (b : Output) :
    (a.andThen b).fault = b.fault := by
  simp only [andThen, h]

@[simp] theorem fault_opening (lead : Text) : (opening lead).fault = none :=
  fault_of_toExcept (toExcept_opening lead)

end Output

/-- The faults that a writer may meet: a number that is too long, or a fault of its own on a thing
without a JSON form. -/
def IsWritingFault (fallback : Fallback) (f : Fault) : Prop :=
  f = .wholeTooLong ∨ ∃ v, fallback v = .error f

/-- The two ways in which sending ends, whatever the lead: with a fault, or with a text that is read
as some value. -/
inductive Sends (fallback : Fallback) (v : Value) : Prop
  | faults {f : Fault} (hf : IsWritingFault fallback f)
    (h : ∀ lead, (send fallback lead v).fault = some f)
  | spelled {back : Value} (h : IsSpelledAs .asIs fallback v back)

/-! ## Leaves -/

/-- A value that the writer has no form of its own for. -/
theorem sends_of_fallback {v : Value}
    (hsend : ∀ lead, send fallback lead v =
      (opening lead).andThen (.attempt ((fallback v).map string))) : Sends fallback v := by
  cases h : fallback v with
  | ok t => exact .spelled (isSpelledAs_of_fallback h hsend trivial)
  | error f =>
    refine .faults (.inr ⟨v, h⟩) fun lead => ?_
    rw [hsend, h, Output.fault_andThen_of_none (Output.fault_opening lead)]
    rfl

theorem sends_leaf {v : Value} (h : v.isNested = false) : Sends fallback v := by
  cases v with
  | null => exact .spelled isSpelledAs_null
  | flag b => exact .spelled (isSpelledAs_flag b)
  | text t => exact .spelled (isSpelledAs_text trivial)
  | real x =>
    obtain ⟨y, hy⟩ := exists_spells_real x
    exact .spelled (isSpelledAs_of_signs (fun _ => by rw [send]) x.isSign_writtenIn hy)
  | whole n =>
    cases hlong : Number.isTooLong n with
    | false => exact .spelled (isSpelledAs_whole hlong)
    | true =>
      refine .faults (.inl rfl) fun lead => ?_
      rw [send, Value.writeWhole, hlong, if_pos rfl]
      rfl
  | decimal d => exact sends_of_fallback fun _ => rfl
  | timestamp t => exact sends_of_fallback fun _ => rfl
  | date d => exact sends_of_fallback fun _ => rfl
  | object parts => exact sends_of_fallback fun _ => rfl
  | list | tuple | record => cases h

/-! ## Lists and records -/

theorem sends_items {items : List Value} (h : ∀ v ∈ items, Sends fallback v) :
    (∃ f, IsWritingFault fallback f ∧ ∀ lead, (sendItems fallback lead items).fault = some f) ∨
      ∃ backs, List.Forall₂ (IsSpelledAs .asIs fallback) items backs := by
  induction items with
  | nil => exact .inr ⟨[], .nil⟩
  | cons v items ih =>
    obtain ⟨hv, hitems⟩ := List.forall_mem_cons.mp h
    cases hv with
    | @faults f hf hfault =>
      refine .inl ⟨f, hf, fun lead => ?_⟩
      rw [sendItems]
      exact Output.fault_andThen_of_some (hfault lead) _
    | spelled hback =>
      rcases ih hitems with ⟨f, hf, hfault⟩ | ⟨backs, hbacks⟩
      · obtain ⟨u, hu, -⟩ := hback
        refine .inl ⟨f, hf, fun lead => ?_⟩
        rw [sendItems, Output.fault_andThen_of_none (Output.fault_of_toExcept (hu lead))]
        exact hfault _
      · exact .inr ⟨_, .cons hback hbacks⟩

theorem sends_fields {fields : List (Text × Value)} (h : ∀ p ∈ fields, Sends fallback p.2) :
    (∃ f, IsWritingFault fallback f ∧ ∀ lead, (sendFields fallback lead fields).fault = some f) ∨
      ∃ backs, List.Forall₂ (FieldSpelledAs .asIs fallback) fields backs := by
  induction fields with
  | nil => exact .inr ⟨[], .nil⟩
  | cons p fields ih =>
    obtain ⟨name, v⟩ := p
    obtain ⟨hv, hfields⟩ := List.forall_mem_cons.mp h
    cases hv with
    | @faults f hf hfault =>
      refine .inl ⟨f, hf, fun lead => ?_⟩
      rw [sendFields, Output.fault_andThen_of_none (Output.fault_opening lead),
        Output.fault_andThen_of_none rfl, Output.fault_andThen_of_none rfl]
      exact Output.fault_andThen_of_some (hfault []) _
    | @spelled back hback =>
      rcases ih hfields with ⟨f, hf, hfault⟩ | ⟨backs, hbacks⟩
      · obtain ⟨u, hu, -⟩ := hback
        refine .inl ⟨f, hf, fun lead => ?_⟩
        rw [sendFields, Output.fault_andThen_of_none (Output.fault_opening lead),
          Output.fault_andThen_of_none rfl, Output.fault_andThen_of_none rfl,
          Output.fault_andThen_of_none (Output.fault_of_toExcept (hu []))]
        exact hfault _
      · exact .inr ⟨(name, back) :: backs, .cons ⟨rfl, trivial, hback⟩ hbacks⟩

/-- A list, of whatever kind, ends in one of the two ways, and with as many items as it has. -/
theorem sends_of_sendItems {v : Value} {items : List Value}
    (hsend : ∀ lead, send fallback lead v = (opening lead).andThen
      (if items.isEmpty then .piece (Text.of "[]") else sendItems fallback (Text.of "[") items))
    (h : ∀ v ∈ items, Sends fallback v) :
    (∃ f, IsWritingFault fallback f ∧ ∀ lead, (send fallback lead v).fault = some f) ∨
      ∃ backs, IsSpelledAs .asIs fallback v (.list backs) ∧ backs.length = items.length := by
  rcases sends_items h with ⟨f, hf, hfault⟩ | ⟨backs, hbacks⟩
  · refine .inl ⟨f, hf, fun lead => ?_⟩
    have hne : items.isEmpty = false := by
      cases items with
      | nil => cases hfault []
      | cons => rfl
    rw [hsend, Output.fault_andThen_of_none (Output.fault_opening lead), hne,
      if_neg Bool.false_ne_true]
    exact hfault _
  · exact .inr ⟨backs, isSpelledAs_of_sendItems hsend hbacks, hbacks.length_eq.symm⟩

/-- **Sending ends in one of the two ways**, whatever is sent. -/
theorem sends (fallback : Fallback) (v : Value) : Sends fallback v := by
  induction v using Value.nested_induction with
  | leaf v hleaf => exact sends_leaf hleaf
  | list items ih =>
    rcases sends_of_sendItems (v := .list items) (fun lead => by rw [send]) ih with
      ⟨f, hf, h⟩ | ⟨backs, h, -⟩
    · exact .faults hf h
    · exact .spelled h
  | tuple items ih =>
    rcases sends_of_sendItems (v := .tuple items) (fun lead => by rw [send]) ih with
      ⟨f, hf, h⟩ | ⟨backs, h, -⟩
    · exact .faults hf h
    · exact .spelled h
  | record fields ih =>
    rcases sends_fields ih with ⟨f, hf, hfault⟩ | ⟨backs, hbacks⟩
    · refine .faults hf fun lead => ?_
      have hne : fields.isEmpty = false := by
        cases fields with
        | nil => cases hfault []
        | cons => rfl
      rw [send, Output.fault_andThen_of_none (Output.fault_opening lead), hne,
        if_neg Bool.false_ne_true, Output.fault_andThen_of_none rfl]
      exact hfault _
    · exact .spelled (isSpelledAs_record hbacks)

/-! ## Whole texts -/

/-- A value that cannot be written meets one of the faults of writing. -/
theorem isWritingFault_of_write {v : Value} {f : Fault} (h : write fallback v = .error f) :
    IsWritingFault fallback f := by
  cases sends fallback v with
  | @faults f' hf hfault =>
    rw [write, Output.toExcept, hfault []] at h
    cases h
    exact hf
  | spelled hback =>
    obtain ⟨u, hu, -⟩ := hback
    rw [write, hu []] at h
    cases h

/-- **A list that is written is read as a list of as many items.** -/
theorem exists_read_list {items : List Value} {t : Text} (h : write fallback (.list items) = .ok t) :
    ∃ backs, read t = .ok (.list backs) ∧ backs.length = items.length := by
  rcases sends_of_sendItems (v := .list items) (fun lead => by rw [send])
      fun v _ => sends fallback v with
    ⟨f, -, hfault⟩ | ⟨backs, ⟨u, hu, hspells⟩, hlength⟩
  · rw [write, Output.toExcept, hfault []] at h
    cases h
  · rw [write, hu []] at h
    cases h
    rw [Respelling.apply_asIs] at hspells
    exact ⟨backs, readAtMost_of_spells hspells, hlength⟩

end Json
end QueryDesk
