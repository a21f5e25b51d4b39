import QueryDesk.Proofs.Query.Records
import QueryDesk.Proofs.Sorting.Sort

/-!
# Queries that come to an end

Completions are all that ever happens to the records of a store besides new ones: a record stays as
it is, or it was open and is closed with an outcome (`QueryRecord.MayClose`).  In a store in which
every query is settled a completion finds nothing to do, so behind a new record the old ones stay as
they are (`Store.MayClose.records_eq`).
-/

set_option autoImplicit false

namespace QueryDesk

/-- Says that a record is as it was, or that it was open and has come to an end. -/
inductive QueryRecord.MayClose (r : QueryRecord) : QueryRecord → Prop
  | stays : MayClose r r
  | closes {outcome : Outcome} (hopen : r.outcome.isOpen = true) (h : outcome.isOpen = false) :
    MayClose r { r with outcome }

namespace QueryRecord.MayClose

variable {r r' r'' : QueryRecord}

theorem eq_of_closed (h : r.MayClose r') (hclosed : r.outcome.isOpen = false) : r' = r := by
  cases h with
  | stays => rfl
  | closes hopen => rw [hclosed] at hopen; cases hopen

theorem trans (h : r.MayClose r') (h' : r'.MayClose r'') : r.MayClose r'' := by
  cases h with
  | stays => exact h'
  | closes hopen hclosed =>
    rw [h'.eq_of_closed hclosed]
    exact .closes hopen hclosed

end QueryRecord.MayClose

namespace Store

variable {s s' s'' : Store} {id : Text} {r : QueryRecord} {outcome : Outcome}

/-! ## What completions do to a store -/

/-- Says that a store has the same records as before, except that some that were open have come to an
end. -/
structure MayClose (s s' : Store) : Prop where
  ids : s'.ids = s.ids
  find? : ∀ id r, s.find? id = some r → ∃ r', s'.find? id = some r' ∧ r.MayClose r'

namespace MayClose

theorem refl (s : Store) : s.MayClose s := ⟨rfl, fun _ r hr => ⟨r, hr, .stays⟩⟩

theorem trans (h : s.MayClose s') (h' : s'.MayClose s'') : s.MayClose s'' := by
  refine ⟨h'.ids.trans h.ids, fun id r hr => ?_⟩
  obtain ⟨r', hr', hmay⟩ := h.find? id r hr
  obtain ⟨r'', hr'', hmay'⟩ := h'.find? id r' hr'
  exact ⟨r'', hr'', hmay.trans hmay'⟩

theorem of_complete (h : s.complete id outcome = .ok (r, s')) (houtcome : outcome.isOpen = false) :
    s.MayClose s' := by
  obtain ⟨old, hfind, hopen, hr, hs'⟩ := open_of_complete h
  refine ⟨by rw [hs', ids_replace], fun id' r' hr' => ?_⟩
  rw [find?_of_complete h]
  split
  · next heq =>
    rw [heq, hfind] at hr'
    cases hr'
    exact ⟨r, rfl, hr ▸ .closes hopen houtcome⟩
  · exact ⟨r', hr', .stays⟩

/-- What was closed stays as it is. -/
theorem find?_of_closed (h : s.MayClose s') (hr : s.find? id = some r)
    (hclosed : r.outcome.isOpen = false) : s'.find? id = some r := by
  obtain ⟨r', hr', hmay⟩ := h.find? id r hr
  rw [hr', hmay.eq_of_closed hclosed]

end MayClose

/-- The store with a record completed, if there is an outcome for it and the record waits for
one. -/
def closing (s : Store) (id : Text) : Option Outcome → Store
  | none => s
  | some outcome =>
    match s.complete id outcome with
    | .ok (_, s') => s'
    | .error _ => s

/-- A record that cannot be completed in one way cannot be completed in any other. -/
theorem closing_of_error {fault : Fault} (h : s.complete id outcome = .error fault)
    (outcome? : Option Outcome) : s.closing id outcome? = s := by
  cases outcome? with
  | none => rfl
  | some other =>
    cases hfind : s.find? id with
    | none => rw [closing, complete_of_missing hfind]
    | some r =>
      cases hopen : r.outcome.isOpen with
      | false => rw [closing, complete_of_closed hfind hopen]
      | true =>
        rw [complete_of_open hfind hopen] at h
        cases h

theorem mayClose_closing {outcome? : Option Outcome}
    (h : ∀ outcome ∈ outcome?, outcome.isOpen = false) : s.MayClose (s.closing id outcome?) := by
  cases outcome? with
  | none => exact .refl s
  | some outcome =>
    rw [closing]
    split
    · next hcomplete => exact .of_complete hcomplete (h outcome rfl)
    · exact .refl s

/-- A record that was given an outcome is closed, or was before. -/
theorem not_isOpen_closing (houtcome : outcome.isOpen = false) :
    ¬(s.closing id (some outcome)).IsOpen id := by
  rw [closing]
  cases hcomplete : s.complete id outcome with
  | ok result =>
    exact fun hopen => hopen.not_isClosed (isClosed_of_complete hcomplete houtcome)
  | error fault =>
    rintro ⟨r, hr, hopen⟩
    rw [complete_of_open hr hopen] at hcomplete
    cases hcomplete

/-- What is done with the one record that waits behind others. -/
theorem closing_concat (hid : r.id ∉ s.ids) (hopen : r.outcome.isOpen = true)
    (outcome? : Option Outcome) : (⟨s.records ++ [r]⟩ : Store).closing r.id outcome? =
      ⟨s.records ++ [{ r with outcome := outcome?.getD r.outcome }]⟩ := by
  cases outcome? with
  | none => rfl
  | some outcome =>
    have hfind : (⟨s.records ++ [r]⟩ : Store).find? r.id = some r := by
      rw [find?_concat hid, if_pos rfl]
    rw [closing, complete_of_open hfind hopen]
    dsimp only
    rw [replace_concat hid]
    rfl

/-! ## Settled stores -/

/-- Says that no query of a store waits for its end, and that each has an id of its own. -/
structure IsSettled (s : Store) : Prop where
  nodup : s.ids.Nodup
  closed : ∀ r ∈ s.records, r.outcome.isOpen = false

theorem isSettled_empty : empty.IsSettled := ⟨List.nodup_nil, fun _ h => (List.not_mem_nil h).elim⟩

/-- With ids that are all different, a store is known by its ids and what is found under them. -/
theorem eq_of_find? (h : s.ids.Nodup) (hids : s'.ids = s.ids)
    (hfind : ∀ id ∈ s.ids, s'.find? id = s.find? id) : s' = s := by
  have hrecords : ∀ s : Store, s.ids.Nodup → s.ids.filterMap s.find? = s.records := by
    intro s hs
    have hfound : ∀ r ∈ s.records, (s.find? ∘ (·.id)) r = some r :=
      fun r hr => (find?_eq_some_iff hs).mpr ⟨hr, rfl⟩
    rw [ids, List.filterMap_map, List.filterMap_congr hfound, List.filterMap_some]
  obtain ⟨records⟩ := s
  obtain ⟨records'⟩ := s'
  have hsame : (⟨records'⟩ : Store).ids.filterMap (find? ⟨records'⟩) =
      (⟨records⟩ : Store).ids.filterMap (find? ⟨records⟩) := by
    rw [hids]
    exact List.filterMap_congr hfind
  rw [hrecords _ h, hrecords _ (hids ▸ h)] at hsame
  exact congrArg Store.mk hsame

/-- **Behind settled queries only a new one can come to an end.** -/
theorem MayClose.records_eq (h : (⟨s.records ++ [r]⟩ : Store).MayClose s') (hs : s.IsSettled)
    (hr : r.id ∉ s.ids) : ∃ r', r.MayClose r' ∧ s'.records = s.records ++ [r'] := by
  obtain ⟨r', hr', hmay⟩ := h.find? r.id r (by rw [find?_concat hr, if_pos rfl])
  have hid : r'.id = r.id := id_of_find? hr'
  have hr₁ : r'.id ∉ s.ids := hid ▸ hr
  refine ⟨r', hmay, congrArg Store.records
    (eq_of_find? (nodup_concat hs.nodup hr₁) ?_ fun id hmem => ?_)⟩
  · rw [h.ids, ids_concat, ids_concat, hid]
  · rw [find?_concat hr₁, hid]
    split
    · next heq => rw [heq, hr']
    · next hne =>
      rw [ids_concat, hid, List.mem_append, List.mem_singleton, or_iff_left hne] at hmem
      obtain ⟨old, hold⟩ := mem_ids_iff.mp hmem
      rw [hold]
      refine h.find?_of_closed ?_ (hs.closed old (List.mem_of_find?_eq_some hold))
      rw [find?_concat hr, if_neg hne, hold]

end Store

/-! ## The order of time -/

/-- Queries cannot be brought into an order of time only if some of their times do not compare. -/
theorem Store.fault_of_recent {s : Store} {count : Int} {fault : Fault}
    (h : s.recent count = .error fault) : fault = .mixedClocks := by
  obtain ⟨r, -, r', -, hfault⟩ : Sorting.Faults isOlder s.records.reverse fault := by
    cases hsort : Sorting.sort isOlder s.records.reverse with
    | ok records =>
      rw [recent, history, hsort] at h
      cases h
    | error fault' =>
      rw [recent, history, hsort] at h
      cases h
      exact (Sorting.gives_sort isOlder s.records.reverse).of_eq_error hsort
  rw [isOlder] at hfault
  split at hfault
  · cases hfault
  · cases hfault
    rfl

end QueryDesk
