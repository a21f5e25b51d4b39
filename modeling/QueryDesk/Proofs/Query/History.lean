import QueryDesk.Proofs.Desk.Clock
import QueryDesk.Proofs.Query.Lifecycle
import QueryDesk.Proofs.Sorting.Arranged

/-!
# The history of queries

The history is the stable sort of the records by time, the newest first
(`Store.history_eq_mergeSort`).  Stable means that records of one time stay as they were created, the
oldest of them first.  So under a clock that never goes back a record is shown before another if it
is of a later time, or of the same time and created *earlier* (`Desk.history_after`).  The records
are shown in the reverse order of their creation just when no two of them are of one time
(`Store.history_eq_reverse_iff`), and a clock that shows a time twice is enough to have them
otherwise (`Desk.not_history_eq_reverse_of_standing`).
-/

set_option autoImplicit false

namespace QueryDesk

/-! ## Records of a store -/

namespace Store

variable {s : Store} {shown : List QueryRecord}

/-- Tests that a record is of the same time as another, or of a later one. -/
def notOlder (r r' : QueryRecord) : Bool := decide (r'.createdAt.instant ≤ r.createdAt.instant)

theorem isOrder_notOlder : Sorting.IsOrder notOlder where
  trans a b c hab hbc := by simp only [notOlder, decide_eq_true_eq] at *; omega
  total a b := by simp only [notOlder, Bool.or_eq_true, decide_eq_true_eq]; omega

theorem tied_notOlder {r r' : QueryRecord} :
    Sorting.tied notOlder r r' = true ↔ r.createdAt.instant = r'.createdAt.instant := by
  simp only [Sorting.tied, notOlder, Bool.and_eq_true, decide_eq_true_eq]
  omega

/-- Says that the times of all records can be compared. -/
def OneClock (s : Store) : Prop := ∀ r ∈ s.records, ∀ r' ∈ s.records,
  r.createdAt.ahead.isSome = r'.createdAt.ahead.isSome

/-- **The history is the stable sort by time**, the newest first. -/
theorem history_eq_mergeSort (h : s.OneClock) :
    s.history = .ok (s.records.mergeSort notOlder) := by
  have htells : Sorting.Tells isOlder (fun r r' => notOlder r' r) s.records.reverse := by
    intro r hr r' hr'
    have hahead := h r (List.mem_reverse.mp hr) r' (List.mem_reverse.mp hr')
    rw [isOlder, Timestamp.compare?_eq, if_pos hahead]
    refine congrArg Except.ok (Bool.eq_iff_iff.mpr ?_)
    simp [notOlder, Int.compare_eq_lt]
  have hsort := Sorting.sort_eq_mergeSort isOrder_notOlder.flip htells
  have harranges := (Sorting.arranges_mergeSort isOrder_notOlder.flip s.records.reverse).reverse
  rw [List.reverse_reverse] at harranges
  rw [history, hsort]
  exact congrArg Except.ok (harranges.unique isOrder_notOlder
    (Sorting.arranges_mergeSort isOrder_notOlder s.records))

/-- Says that each record was created at a later time than those before it, or at the same time. -/
def InTime (s : Store) : Prop := s.records.Pairwise fun r r' =>
  r.createdAt.Precedes r'.createdAt ∨ r.createdAt.Meets r'.createdAt

theorem InTime.oneClock (h : s.InTime) : s.OneClock := by
  let Alike (r r' : QueryRecord) : Prop := r.createdAt.ahead.isSome = r'.createdAt.ahead.isSome
  have hsymm : Std.Symm Alike := ⟨fun _ _ => Eq.symm⟩
  have halike : s.records.Pairwise Alike := h.imp fun h => (Timestamp.alike_of_not_later h).1
  have hrefl : ∀ r ∈ s.records, Alike r r := fun _ _ => rfl
  intro r hr r' hr'
  exact List.Pairwise.forall_of_forall (R := Alike) hrefl halike hr hr'

/-- Of two items of a list only one stands before the other. -/
theorem not_sublist_swap {α : Type} {a b : α} {items : List α} (h : items.Nodup)
    (hsub : [a, b].Sublist items) : ¬[b, a].Sublist items := by
  induction items with
  | nil => exact absurd (List.sublist_nil.mp hsub) (List.cons_ne_nil a [b])
  | cons c items ih => grind

/-- Records of one time are shown in the order in which they were created. -/
theorem sublist_of_meets {r r' : QueryRecord}
    (hsub : [r, r'].Sublist (s.records.mergeSort notOlder))
    (hmeets : r.createdAt.Meets r'.createdAt) : [r, r'].Sublist s.records := by
  have htied : [r, r'].filter (Sorting.tied notOlder r) = [r, r'] := by
    have hmeets' := (Timestamp.meets_iff.mp hmeets).2
    rw [List.filter_eq_self]
    simp only [List.mem_cons, List.not_mem_nil, or_false, forall_eq_or_imp, forall_eq,
      tied_notOlder]
    exact ⟨trivial, hmeets'⟩
  have hfilter := hsub.filter (Sorting.tied notOlder r)
  rw [htied, (Sorting.arranges_mergeSort isOrder_notOlder s.records).ties r] at hfilter
  exact hfilter.trans List.filter_sublist

/-- **A later time is shown first, and of one time the record that was created first.** -/
theorem InTime.pairwise_mergeSort (h : s.InTime) : (s.records.mergeSort notOlder).Pairwise
    fun r r' => r'.createdAt.Precedes r.createdAt ∨
      r.createdAt.Meets r'.createdAt ∧ [r, r'].Sublist s.records := by
  refine List.pairwise_iff_forall_sublist.mpr fun {r r'} hsub => ?_
  have hle : r'.createdAt.instant ≤ r.createdAt.instant := by
    have hsorted := (Sorting.arranges_mergeSort isOrder_notOlder s.records).sorted
    simpa [notOlder] using List.pairwise_iff_forall_sublist.mp hsorted hsub
  have hmem : ∀ a ∈ [r, r'], a ∈ s.records :=
    fun a ha => (List.mergeSort_perm s.records notOlder).subset (hsub.subset ha)
  have hahead := h.oneClock r (hmem r (by simp)) r' (hmem r' (by simp))
  rcases Int.lt_or_eq_of_le hle with hlt | heq
  · exact .inl (Timestamp.precedes_iff.mpr ⟨hahead.symm, hlt⟩)
  · have hmeets := Timestamp.meets_iff.mpr ⟨hahead, heq.symm⟩
    exact .inr ⟨hmeets, sublist_of_meets hsub hmeets⟩

/-- Says that each record was created at a later time than those before it. -/
def InStrictTime (s : Store) : Prop :=
  s.records.Pairwise fun r r' => r.createdAt.Precedes r'.createdAt

/-- Records of which each is of a later time than those before it are shown in the reverse order of
their creation. -/
theorem InStrictTime.history_eq_reverse (h : s.InStrictTime) :
    s.history = .ok s.records.reverse := by
  have hin : s.InTime := h.imp .inl
  have hinstants : s.records.Pairwise fun r r' => r.createdAt.instant < r'.createdAt.instant :=
    h.imp fun h => (Timestamp.precedes_iff.mp h).2
  have harranges : Sorting.Arranges notOlder s.records.reverse s.records := by
    refine ⟨List.pairwise_reverse.mpr (hinstants.imp fun h => ?_),
      Sorting.sameTies_reverse isOrder_notOlder (hinstants.imp fun h => ?_)⟩
    · simpa [notOlder] using Int.le_of_lt h
    · simpa [notOlder] using h
  rw [history_eq_mergeSort hin.oneClock, harranges.unique isOrder_notOlder
    (Sorting.arranges_mergeSort isOrder_notOlder s.records)]

/-- **The reverse order of creation is shown just when all times are different.** -/
theorem InTime.mergeSort_eq_reverse_iff (h : s.InTime) (hnodup : s.records.Nodup) :
    s.records.mergeSort notOlder = s.records.reverse ↔ s.InStrictTime := by
  constructor
  · intro heq
    have hshown := h.pairwise_mergeSort
    rw [heq, List.pairwise_reverse] at hshown
    refine List.pairwise_iff_forall_sublist.mpr fun {r r'} hsub => ?_
    rcases List.pairwise_iff_forall_sublist.mp hshown hsub with hprecedes | ⟨-, hback⟩
    · exact hprecedes
    · exact absurd hback (not_sublist_swap hnodup hsub)
  · intro hstrict
    have hhistory := hstrict.history_eq_reverse
    rw [history_eq_mergeSort h.oneClock] at hhistory
    exact Except.ok.inj hhistory

end Store

/-! ## What calls do to ids and times -/

namespace Store

variable {s s' : Store} {id : Text} {o : Outcome} {r : QueryRecord}

/-- The times at which the records were created, in the order of their creation. -/
def times (s : Store) : List Timestamp := s.records.map (·.createdAt)

theorem times_add (s : Store) (id question : Text) (time : Timestamp) :
    (s.add id question time).2.times = s.times ++ [time] := List.map_append

/-- A completion leaves the times of the records alone. -/
theorem times_of_complete (hnodup : s.ids.Nodup) (h : s.complete id o = .ok (r, s')) :
    s'.times = s.times := by
  obtain ⟨old, hfind, -, rfl, rfl⟩ := open_of_complete h
  simp only [times, replace, List.map_map]
  refine List.map_congr_left fun other hother => ?_
  simp only [Function.comp_apply]
  split
  · next hid =>
    have hother' := (find?_eq_some_iff hnodup).mpr ⟨hother, rfl⟩
    have hid' : other.id = id := Eq.trans hid (id_of_find? hfind)
    rw [hid', hfind] at hother'
    obtain rfl := Option.some.inj hother'
    rfl
  · rfl

end Store

namespace Call

/-- The id that a call gives to a new query, by what it answers. -/
def opens : Call → Except Fault QueryRecord → List Text
  | create _, .ok r => [r.id]
  | _, _ => []

/-- What a call does to the ids and times of the records and to the clock. -/
inductive Moves (d : Desk) (c : Call) : Prop
  /-- A query was opened at the next time of the clock. -/
  | opened (id : Text) (time : Timestamp)
    (hid : c.opens (c.step.perform d).1 = [id])
    (hids : (c.step.perform d).2.store.ids = d.store.ids ++ [id])
    (htimes : (c.step.perform d).2.store.times = d.store.times ++ [time])
    (hshown : d.HasShown time (c.step.perform d).2)
  /-- Nothing was opened, and the clock was not looked at. -/
  | stayed
    (hid : c.opens (c.step.perform d).1 = [])
    (hids : (c.step.perform d).2.store.ids = d.store.ids)
    (htimes : (c.step.perform d).2.store.times = d.store.times)
    (hshows : (c.step.perform d).2.shows = d.shows)

theorem moves_of_completion? {c : Call} {id : Text} {o : Outcome} {d : Desk}
    (hnodup : d.store.ids.Nodup) (hc : c.completion? = some (id, o)) : c.Moves d := by
  have hopens : ∀ result, c.opens result = [] := by
    intro result
    cases c <;> cases hc <;> rfl
  have hstep := step_of_completion? hc
  cases hcomplete : d.store.complete id o with
  | error fault =>
    have hperform : c.step.perform d = (.error fault, d) := by
      rw [hstep, d.perform_complete, hcomplete]
    exact .stayed (hopens _) (by rw [hperform]) (by rw [hperform]) (by rw [hperform])
  | ok result =>
    obtain ⟨r, store⟩ := result
    have hperform : c.step.perform d = (.ok r, { d with store }) := by
      rw [hstep, d.perform_complete, hcomplete]
    obtain ⟨-, -, -, -, hreplace⟩ := Store.open_of_complete hcomplete
    refine .stayed (hopens _) ?_ ?_ ?_
    · rw [hperform, hreplace, Store.ids_replace]
    · rw [hperform]
      exact Store.times_of_complete hnodup hcomplete
    · rw [hperform]
      rfl

/-- **A call opens one query at the next time of the clock, or leaves ids, times and clock alone.** -/
theorem moves (c : Call) {d : Desk} (hnodup : d.store.ids.Nodup) : c.Moves d := by
  cases c with
  | create question =>
    obtain ⟨time, d', hcreate, hstore, hshown⟩ := d.perform_create_shows question
    refine .opened (d.ids.fresh d.store.ids).1 time ?_ ?_ ?_ ?_
    · rw [step, hcreate]
      rfl
    · rw [step, hcreate, hstore]
      exact Store.ids_concat d.store _
    · rw [step, hcreate, hstore, Store.times_add]
    · rw [step, hcreate]
      exact hshown
  | succeed id statement interpretation rows milliseconds => exact moves_of_completion? hnodup rfl
  | fail id message milliseconds statement interpretation => exact moves_of_completion? hnodup rfl
  | get id =>
    have hperform : ((get id).step.perform d).2 = d := by rw [step, d.perform_query]
    exact .stayed rfl (by rw [hperform]) (by rw [hperform]) (by rw [hperform])

end Call

/-! ## The history of a desk -/

namespace Desk

variable {d : Desk}

theorem perform_history (d : Desk) : history.perform d = (d.store.history, d) := by
  rw [history, Action.perform_bind, Action.perform_get]
  cases h : d.store.history <;> simp [h]

/-- The ids that calls give to new queries, in the order of the calls. -/
def createdIds (d : Desk) : List Call → List Text
  | [] => []
  | c :: calls => c.opens (c.step.perform d).1 ++ createdIds (c.step.perform d).2 calls

/-- The records stand in the order of the calls that created them. -/
theorem ids_after (hnodup : d.store.ids.Nodup) (calls : List Call) :
    (d.after calls).store.ids = d.store.ids ++ d.createdIds calls := by
  induction calls generalizing d with
  | nil => exact (List.append_nil _).symm
  | cons c calls ih =>
    have hafter := ih ((c.does_perform d).nodup hnodup)
    rw [createdIds, ← List.append_assoc]
    cases c.moves hnodup with
    | opened id time hid hids => rwa [hids, ← hid] at hafter
    | stayed hid hids => rwa [hids, ← List.append_nil d.store.ids, ← hid] at hafter

/-- The times of the records and of what the clock is going to show do not go back. -/
def IsOnTime (d : Desk) : Prop :=
  (d.store.times ++ d.shows).Pairwise fun a b => a.Precedes b ∨ a.Meets b

/-- A call takes the next time of the clock, if any. -/
theorem IsOnTime.step (h : d.IsOnTime) (hnodup : d.store.ids.Nodup) (c : Call) :
    IsOnTime (c.step.perform d).2 := by
  rw [IsOnTime] at h ⊢
  cases c.moves hnodup with
  | stayed _ _ htimes hshows => rwa [htimes, hshows]
  | opened id time _ _ htimes hshown =>
    rw [htimes]
    rcases hshown.next with hnext | ⟨hlast, hstays⟩
    · rwa [hnext, ← List.singleton_append, ← List.append_assoc] at h
    · -- The last reading is shown once more, and it meets itself.
      rw [hlast] at h
      rw [hstays]
      refine List.pairwise_append.mpr ⟨h, List.pairwise_singleton _ _, ?_⟩
      intro a ha b hb
      rw [List.mem_singleton] at hb
      rcases List.mem_append.mp ha with ha | ha
      · exact (List.pairwise_append.mp h).2.2 a ha b (hb ▸ List.mem_cons_self)
      · rw [hb, List.mem_singleton.mp ha]
        exact .inr (Timestamp.Meets.refl time)

theorem IsOnTime.after (h : d.IsOnTime) (hnodup : d.store.ids.Nodup) (calls : List Call) :
    (d.after calls).IsOnTime := by
  induction calls generalizing d with
  | nil => exact h
  | cons c calls ih => exact ih (h.step hnodup c) ((c.does_perform d).nodup hnodup)

/-- What the views of the queries show after some calls. -/
structure Chronicle (d : Desk) (calls : List Call) (shown : List QueryRecord) : Prop where
  created : (d.after calls).store.ids = d.createdIds calls
  history : history.perform (d.after calls) = (.ok shown, d.after calls)
  /-- The newest records are the first ones of the history. -/
  recent : ∀ count : Int,
    (recent count).perform (d.after calls) = (.ok (shown.take count.toNat), d.after calls)
  /-- Every record is shown once. -/
  each : shown.Perm (d.after calls).store.records
  nodup : shown.Nodup
  /-- A record of a later time is shown first, and of one time the record that was created first. -/
  order : shown.Pairwise fun r r' => r'.createdAt.Precedes r.createdAt ∨
    r.createdAt.Meets r'.createdAt ∧ [r, r'].Sublist (d.after calls).store.records
  /-- The records are shown in the reverse order of their creation just when each was created at a
  later time than those before it. -/
  newestFirst : shown = (d.after calls).store.records.reverse ↔ (d.after calls).store.InStrictTime

/-- **Under a clock that never goes back the history has the newest time first**, and within one time
the record that was created first. -/
theorem history_after (hd : d.store = .empty) (hclock : d.NeverGoesBack) (calls : List Call) :
    ∃ shown, d.Chronicle calls shown := by
  have hnodup : d.store.ids.Nodup := by rw [hd]; exact List.nodup_nil
  have hontime : d.IsOnTime := by rw [IsOnTime, hd]; exact hclock
  have hin : (d.after calls).store.InTime :=
    List.pairwise_map.mp (List.pairwise_append.mp (hontime.after hnodup calls)).1
  have hhistory := Store.history_eq_mergeSort hin.oneClock
  have hperm := List.mergeSort_perm (d.after calls).store.records Store.notOlder
  have hrecords : (d.after calls).store.records.Nodup :=
    List.Nodup.of_map _ (nodup_after hnodup calls)
  refine ⟨_, ?_, ?_, fun count => ?_, hperm, hperm.nodup_iff.mpr hrecords, hin.pairwise_mergeSort,
    hin.mergeSort_eq_reverse_iff hrecords⟩
  · rw [ids_after hnodup, hd]
    rfl
  · rw [perform_history, hhistory]
  · rw [perform_recent, Store.recent, hhistory]
    rfl

/-- A clock that shows 15 June and then stands still on 16 June, and three questions; the first of
them is answered. -/
theorem history_after_of_standing :
    ∃ shown, Chronicle { Desk.empty with
        clock := some ⟨.midnight ⟨2024, 6, 15⟩, [.midnight ⟨2024, 6, 16⟩]⟩ }
      [.create (Text.of "Show sales"), .create (Text.of "Show work"),
        .fail (Text.of "q-1") (Text.of "model offline") 3 none none,
        .create (Text.of "Show invoices")] shown :=
  history_after rfl (by simp only [NeverGoesBack, shows]; decide) _

/-- A query that is opened by a clock that stands still. -/
def openedAtOnce (id question : String) : QueryRecord :=
  ⟨Text.of id, Text.of question, .midnight ⟨2024, 6, 15⟩, .processing⟩

/-- **The history is not always the newest first**: of two queries that were opened at one time the
older one is shown first, and it is the one that counts as the most recent. -/
theorem not_history_eq_reverse_of_standing :
    ∃ d : Desk, ∃ calls first second, d.store = .empty ∧ d.NeverGoesBack ∧ first ≠ second ∧
      (d.after calls).store.records = [first, second] ∧
      history.perform (d.after calls) = (.ok [first, second], d.after calls) ∧
      (recent 1).perform (d.after calls) = (.ok [first], d.after calls) := by
  have hhistory : (⟨[openedAtOnce "q-1" "Show sales", openedAtOnce "q-2" "Show work"]⟩ :
      Store).history = .ok [openedAtOnce "q-1" "Show sales", openedAtOnce "q-2" "Show work"] := by
    decide +kernel
  have hrecords : (after { Desk.empty with clock := some ⟨.midnight ⟨2024, 6, 15⟩, []⟩ }
      [.create (Text.of "Show sales"), .create (Text.of "Show work")]).store.records =
        [openedAtOnce "q-1" "Show sales", openedAtOnce "q-2" "Show work"] := by decide +kernel
  refine ⟨_, _, _, _, rfl, ?_, ?_, hrecords, ?_, ?_⟩
  · simp only [NeverGoesBack, shows]
    decide
  · decide
  · rw [perform_history, Store.history, hrecords]
    exact congrArg (·, _) hhistory
  · rw [perform_recent, Store.recent, Store.history, hrecords]
    exact congrArg (fun shown : Except Fault _ => (shown.map (List.take 1), _)) hhistory

end Desk
end QueryDesk
