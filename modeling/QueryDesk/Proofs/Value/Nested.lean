import QueryDesk.Value.Basic

/-!
# Nested values

Lists and records hold further values, to any depth.  A property of a whole nested value is one of
its *leaves*, the values in it that are neither lists nor records, and of the names of its fields
(`Value.IsMadeOf`); a change of a whole nested value is one of its leaves (`Value.mapLeaves`).  What
holds of all values is proved by an induction that goes from items and fields to lists and records
(`Value.nested_induction`).
-/

set_option autoImplicit false

namespace QueryDesk
namespace Value

/-- Says that a value is put together by lists and records from leaves of some kind, with field
names of some kind and with no name twice in one record. -/
inductive IsMadeOf (names : Text → Prop) (leaves : Value → Prop) : Value → Prop
  | leaf {v : Value} (h : leaves v) : IsMadeOf names leaves v
  | list {items : List Value} (h : ∀ v ∈ items, IsMadeOf names leaves v) :
    IsMadeOf names leaves (.list items)
  | record {fields : List (Text × Value)} (hnodup : (fields.map (·.1)).Nodup)
    (hnames : ∀ p ∈ fields, names p.1) (h : ∀ p ∈ fields, IsMadeOf names leaves p.2) :
    IsMadeOf names leaves (.record fields)

/-- Tests for a list, of whatever kind, or a record. -/
def isNested : Value → Bool
  | list _ | tuple _ | record _ => true
  | _ => false

/-- **Induction over nested values**: over the items of a list and the fields of a record. -/
@[elab_as_elim]
theorem nested_induction {motive : Value → Prop}
    (leaf : ∀ v, v.isNested = false → motive v)
    (list : ∀ items, (∀ v ∈ items, motive v) → motive (.list items))
    (tuple : ∀ items, (∀ v ∈ items, motive v) → motive (.tuple items))
    (record : ∀ fields, (∀ p ∈ fields, motive p.2) → motive (.record fields)) : ∀ v, motive v
  | .list items => list items fun v _ => nested_induction leaf list tuple record v
  | .tuple items => tuple items fun v _ => nested_induction leaf list tuple record v
  | .record fields => record fields fun p _ => nested_induction leaf list tuple record p.2
  | .null | .flag _ | .whole _ | .real _ | .decimal _ | .text _ | .timestamp _ | .date _
  | .object _ => leaf _ rfl
termination_by v => sizeOf v
decreasing_by
  · have hlt := List.sizeOf_lt_of_mem ‹v ∈ items›
    simp only [Value.list.sizeOf_spec]
    omega
  · have hlt := List.sizeOf_lt_of_mem ‹v ∈ items›
    simp only [Value.tuple.sizeOf_spec]
    omega
  · have hlt := List.sizeOf_lt_of_mem ‹p ∈ fields›
    have hpair : sizeOf p = 1 + sizeOf p.1 + sizeOf p.2 := rfl
    simp only [Value.record.sizeOf_spec]
    omega

mutual

/-- The value with a function applied to its leaves. -/
def mapLeaves (f : Value → Value) : Value → Value
  | list items => list (mapLeavesItems f items)
  | record fields => record (mapLeavesFields f fields)
  | v => f v

/-- The items of a list, each with a function applied to its leaves. -/
def mapLeavesItems (f : Value → Value) : List Value → List Value
  | [] => []
  | v :: vs => mapLeaves f v :: mapLeavesItems f vs

/-- The fields of a record, each with a function applied to the leaves of its value. -/
def mapLeavesFields (f : Value → Value) : List (Text × Value) → List (Text × Value)
  | [] => []
  | (name, v) :: fields => (name, mapLeaves f v) :: mapLeavesFields f fields

end

variable {f : Value → Value}

theorem mapLeavesItems_eq (items : List Value) :
    mapLeavesItems f items = items.map (mapLeaves f) := by
  induction items with
  | nil => rw [mapLeavesItems, List.map_nil]
  | cons v items ih => rw [mapLeavesItems, ih, List.map_cons]

theorem mapLeavesFields_eq (fields : List (Text × Value)) :
    mapLeavesFields f fields = fields.map fun p => (p.1, mapLeaves f p.2) := by
  induction fields with
  | nil => rw [mapLeavesFields, List.map_nil]
  | cons p fields ih => rw [mapLeavesFields, ih, List.map_cons]

@[simp] theorem mapLeaves_id (v : Value) : v.mapLeaves id = v := by
  induction v using nested_induction with
  | leaf v hleaf =>
    cases v with
    | list | tuple | record => cases hleaf
    | _ => rfl
  | list items ih =>
    rw [mapLeaves, mapLeavesItems_eq, List.map_congr_left ih, List.map_id']
  | tuple items => rfl
  | record fields ih =>
    have hfields : fields.map (fun p => (p.1, mapLeaves id p.2)) = fields :=
      (List.map_congr_left fun p hp => by rw [ih p hp]).trans (List.map_id' fields)
    rw [mapLeaves, mapLeavesFields_eq, hfields]

end Value
end QueryDesk
