import Mathlib.Data.List.Nodup
import Mathlib.Data.List.Perm.Subperm
import QueryDesk.Proofs.Number.Digits
import QueryDesk.Query.Store

/-!
# Records of a store

What each operation of a store does to the record that is found under an id.  A completed record is
found in the place of the old one and every other record stays (`find?_of_complete`); a completion
succeeds exactly for a record that is found open (`complete_of_open`), and otherwise says why not
(`complete_of_missing`, `complete_of_closed`).
-/

set_option autoImplicit false

namespace QueryDesk

namespace Outcome

variable {o : Outcome}

theorem eq_processing_of_status (h : o.status = Text.of "processing") : o = .processing := by
  cases o with
  | processing => rfl
  | success => exact absurd h (show Text.of "success" ≠ Text.of "processing" by decide)
  | error => exact absurd h (show Text.of "error" ≠ Text.of "processing" by decide)

theorem eq_success_of_status (h : o.status = Text.of "success") :
    ∃ statement interpretation rows milliseconds,
      o = .success statement interpretation rows milliseconds := by
  cases o with
  | processing => exact absurd h (show Text.of "processing" ≠ Text.of "success" by decide)
  | success => exact ⟨_, _, _, _, rfl⟩
  | error => exact absurd h (show Text.of "error" ≠ Text.of "success" by decide)

theorem eq_error_of_status (h : o.status = Text.of "error") :
    ∃ message milliseconds statement interpretation,
      o = .error message milliseconds statement interpretation := by
  cases o with
  | processing => exact absurd h (show Text.of "processing" ≠ Text.of "error" by decide)
  | success => exact absurd h (show Text.of "success" ≠ Text.of "error" by decide)
  | error => exact ⟨_, _, _, _, rfl⟩

end Outcome

namespace Store

variable {s s' : Store} {id : Text} {r : QueryRecord} {o : Outcome}

theorem id_of_find? (h : s.find? id = some r) : r.id = id := by
  have htest := List.find?_some h
  exact eq_of_beq htest

/-- A replacement takes the place of the record with its id. -/
theorem find?_replace (s : Store) (r : QueryRecord) (id : Text) :
    (s.replace r).find? id = (s.find? id).map fun old => if old.id = r.id then r else old := by
  have hid : ∀ old : QueryRecord, (if old.id = r.id then r else old).id = old.id := by
    intro old
    split
    · next h => exact h.symm
    · rfl
  have htest : ((fun x : QueryRecord => x.id == id) ∘ fun old => if old.id = r.id then r else old) =
      fun x => x.id == id := by
    funext old
    simp only [Function.comp_apply, hid]
  rw [find?, find?, replace, List.find?_map, htest]

theorem ids_replace (s : Store) (r : QueryRecord) : (s.replace r).ids = s.ids := by
  simp only [ids, replace, List.map_map]
  refine List.map_congr_left fun old _ => ?_
  simp only [Function.comp_apply]
  split
  · next h => exact h.symm
  · rfl

theorem mem_ids_iff {s : Store} {id : Text} : id ∈ s.ids ↔ ∃ r, s.find? id = some r := by
  rw [← Option.isSome_iff_exists, find?, List.find?_isSome, ids, List.mem_map]
  simp only [beq_iff_eq]

theorem not_mem_ids_iff {s : Store} {id : Text} : id ∉ s.ids ↔ s.find? id = none := by
  rw [mem_ids_iff, ← Option.isSome_iff_exists, Bool.not_eq_true, Option.isSome_eq_false_iff,
    Option.isNone_iff_eq_none]

/-- With ids that are all different, each record is found under its own. -/
theorem find?_eq_some_iff (h : s.ids.Nodup) :
    s.find? id = some r ↔ r ∈ s.records ∧ r.id = id := by
  constructor
  · exact fun hr => ⟨List.mem_of_find?_eq_some hr, id_of_find? hr⟩
  · rintro ⟨hr, rfl⟩
    obtain ⟨r', hr'⟩ := mem_ids_iff.mp (List.mem_map_of_mem hr)
    rw [hr', List.inj_on_of_nodup_map h (List.mem_of_find?_eq_some hr') hr (id_of_find? hr')]

theorem ids_concat (s : Store) (r : QueryRecord) :
    (⟨s.records ++ [r]⟩ : Store).ids = s.ids ++ [r.id] := List.map_append

theorem nodup_concat (h : s.ids.Nodup) (hid : r.id ∉ s.ids) :
    (⟨s.records ++ [r]⟩ : Store).ids.Nodup := by
  rw [ids_concat]
  exact List.nodup_append_comm.mp (List.nodup_cons.mpr ⟨hid, h⟩)

/-- A record that stands behind all others, under an id of its own. -/
theorem find?_concat (hid : r.id ∉ s.ids) (id : Text) :
    (⟨s.records ++ [r]⟩ : Store).find? id = if id = r.id then some r else s.find? id := by
  have hsplit : (⟨s.records ++ [r]⟩ : Store).find? id =
      (s.find? id).or (if r.id = id then some r else none) := by
    rw [find?, List.find?_append, List.find?_singleton]
    simp only [find?, beq_iff_eq]
  rw [hsplit]
  by_cases heq : id = r.id
  · rw [if_pos heq, if_pos heq.symm, heq, not_mem_ids_iff.mp hid, Option.none_or]
  · rw [if_neg heq, if_neg (Ne.symm heq), Option.or_none]

/-- A record that is added under a fresh id. -/
theorem find?_add (hid : id ∉ s.ids) (question : Text) (time : Timestamp) (id' : Text) :
    (s.add id question time).2.find? id' =
      if id' = id then some (s.add id question time).1 else s.find? id' :=
  find?_concat (r := (s.add id question time).1) hid id'

/-- The record that stands behind all others is replaced where it stands. -/
theorem replace_concat (hid : r.id ∉ s.ids) (o : Outcome) :
    (⟨s.records ++ [r]⟩ : Store).replace { r with outcome := o } =
      ⟨s.records ++ [{ r with outcome := o }]⟩ := by
  have hothers : ∀ old ∈ s.records,
      (if old.id = r.id then { r with outcome := o } else old) = old := by
    refine fun old hold => if_neg fun heq => hid ?_
    rw [← heq]
    exact List.mem_map_of_mem hold
  rw [replace, List.map_append, List.map_congr_left hothers, List.map_id', List.map_singleton,
    if_pos rfl]

/-! ## Completion -/

theorem complete_of_missing (h : s.find? id = none) (o : Outcome) :
    s.complete id o = .error (.unknownQuery id) := by
  rw [complete, h]

theorem complete_of_closed (h : s.find? id = some r) (hclosed : r.outcome.isOpen = false)
    (o : Outcome) : s.complete id o = .error (.alreadyFinished id r.outcome.status) := by
  rw [complete, h]
  simp only [hclosed, Bool.false_eq_true, if_false]

theorem complete_of_open (h : s.find? id = some r) (hopen : r.outcome.isOpen = true)
    (o : Outcome) :
    s.complete id o = .ok ({ r with outcome := o }, s.replace { r with outcome := o }) := by
  rw [complete, h]
  simp only [hopen, if_true]

/-- **A completion succeeds only for a record that is found open.** -/
theorem open_of_complete (h : s.complete id o = .ok (r, s')) :
    ∃ old, s.find? id = some old ∧ old.outcome.isOpen = true ∧ r = { old with outcome := o } ∧
      s' = s.replace r := by
  cases hfind : s.find? id with
  | none =>
    rw [complete_of_missing hfind] at h
    cases h
  | some old =>
    cases hopen : old.outcome.isOpen with
    | false =>
      rw [complete_of_closed hfind hopen] at h
      cases h
    | true =>
      rw [complete_of_open hfind hopen] at h
      cases h
      exact ⟨old, rfl, hopen, rfl, rfl⟩

/-- A completion puts the completed record in its place and leaves all others alone. -/
theorem find?_of_complete (h : s.complete id o = .ok (r, s')) (id' : Text) :
    s'.find? id' = if id' = id then some r else s.find? id' := by
  obtain ⟨old, hfind, -, rfl, rfl⟩ := open_of_complete h
  have hid := id_of_find? hfind
  rw [find?_replace]
  split
  · next heq =>
    rw [heq, hfind, Option.map_some]
    exact congrArg some (if_pos rfl)
  · next hne =>
    cases hother : s.find? id' with
    | none => rfl
    | some other =>
      have hother' := id_of_find? hother
      rw [Option.map_some, if_neg]
      intro h'
      exact hne (by rw [← hother', h']; exact hid)

/-! ## Closed records -/

/-- A record that is found and has come to an end. -/
def IsClosed (s : Store) (id : Text) : Prop := ∃ r, s.find? id = some r ∧ r.outcome.isOpen = false

/-- A record that is found and still waits for its end. -/
def IsOpen (s : Store) (id : Text) : Prop := ∃ r, s.find? id = some r ∧ r.outcome.isOpen = true

theorem IsOpen.not_isClosed (h : s.IsOpen id) : ¬s.IsClosed id := by
  rintro ⟨r, hr, hclosed⟩
  obtain ⟨r', hr', hopen⟩ := h
  rw [hr] at hr'
  cases hr'
  rw [hclosed] at hopen
  cases hopen

theorem isClosed_of_complete (h : s.complete id o = .ok (r, s')) (ho : o.isOpen = false) :
    s'.IsClosed id := by
  obtain ⟨old, -, -, hr, -⟩ := open_of_complete h
  refine ⟨r, ?_, by rw [hr]; exact ho⟩
  rw [find?_of_complete h, if_pos rfl]

end Store
end QueryDesk

/-! ## Fresh ids

Whatever ids a source was given and whatever ids are taken, the next id of the source is not taken
(`fresh_not_mem`).  The ids that the source makes up are all different, so among one more of them
than there are ids taken one is free.
-/

namespace QueryDesk
namespace IdSource

variable {taken : List Text}

theorem name_injective {m n : Nat} (h : name m = name n) : m = n :=
  Number.digits_injective (List.append_cancel_left h)

/-- If the search ends at a taken id, then all ids on its way are taken. -/
theorem mem_of_firstFree_mem {tries n : Nat} (h : name (firstFree taken tries n) ∈ taken) :
    ∀ i ≤ tries, name (n + 1 + i) ∈ taken := by
  induction tries generalizing n with
  | zero =>
    intro i hi
    rw [Nat.le_zero.mp hi]
    exact h
  | succ tries ih =>
    rw [firstFree] at h
    split at h
    · next htaken =>
      intro i hi
      cases i with
      | zero => exact List.contains_iff_mem.mp htaken
      | succ i =>
        have hmem := ih h i (Nat.le_of_succ_le_succ hi)
        rwa [show n + 1 + (i + 1) = n + 1 + 1 + i by omega]
    · next hfree => exact absurd (List.contains_iff_mem.mpr h) hfree

/-- **Among one more made-up id than there are ids taken, one is free.** -/
theorem firstFree_not_mem (taken : List Text) (n : Nat) :
    name (firstFree taken taken.length n) ∉ taken := by
  intro h
  have hall := mem_of_firstFree_mem h
  have hnodup : ((List.range (taken.length + 1)).map fun i => name (n + 1 + i)).Nodup := by
    refine List.Nodup.map (fun i j hij => ?_) List.nodup_range
    have := name_injective hij
    omega
  have hsubset : ((List.range (taken.length + 1)).map fun i => name (n + 1 + i)) ⊆ taken := by
    intro id hid
    obtain ⟨i, hi, rfl⟩ := List.mem_map.mp hid
    exact hall i (Nat.lt_succ_iff.mp (List.mem_range.mp hi))
  have hlength := (hnodup.subperm hsubset).length_le
  rw [List.length_map, List.length_range] at hlength
  omega

theorem fresh_not_mem (taken : List Text) (source : IdSource) : (source.fresh taken).1 ∉ taken := by
  rw [fresh]
  split
  · next id rest h =>
    have hhead := List.head?_dropWhile_not taken.contains source.given
    rw [h] at hhead
    intro hid
    simp [hid] at hhead
  · exact firstFree_not_mem taken source.made

end IdSource
end QueryDesk
