import QueryDesk.Table.Execute
import QueryDesk.Proofs.Business.Typed
import QueryDesk.Proofs.Calendar.Months
import QueryDesk.Proofs.Condition.Forms
import QueryDesk.Proofs.Results
import QueryDesk.Proofs.Sorting.Sort

/-!
# Filtering and sorting typed rows

On rows of the declared types no condition that a statement can ask for fails, and no two rows
fail to stand in a sort order, be a column declared to hold them or not.  So a table of such rows
can be filtered (`exists_filter`) and sorted (`exists_sort`), whatever the statement.
-/

set_option autoImplicit false

namespace QueryDesk

/-- Timestamps whose distances from universal time are known can be told apart. -/
theorem Timestamp.exists_isBefore {s t : Timestamp} (hs : s.ahead.isSome) (ht : t.ahead.isSome) :
    ∃ b, s.isBefore t = .ok b := by
  obtain ⟨i, hi⟩ := Option.isSome_iff_exists.mp hs
  obtain ⟨j, hj⟩ := Option.isSome_iff_exists.mp ht
  have hcompare : s.compare? t = some (compare (s.shown - i) (t.shown - j)) := by
    rw [compare?, instant?, instant?, hi, hj]
    rfl
  rw [isBefore, hcompare]
  exact ⟨_, rfl⟩

namespace Predicate

variable {row : Row} {now : Timestamp}

/-- **A known condition can be tested on a typed row.** -/
theorem IsKnown.exists_holds {predicate : Predicate} (hp : predicate.IsKnown)
    (hrow : row.IsTyped) (hnow : now.HasQuarterBehind) (hahead : now.ahead.isSome) :
    ∃ b, predicate.holds row now = .ok b := by
  cases predicate with
  | equals field value =>
    cases value with
    | text content => exact ⟨_, Value.same_text _ content⟩
    | _ => exact hp.elim
  | beforeNow field =>
    rw [holds]
    split
    · exact ⟨_, rfl⟩
    · next t ht => exact Timestamp.exists_isBefore (Value.isSome_ahead_of_instant? ht) hahead
  | lowStock quantity level =>
    obtain ⟨rfl, rfl⟩ := hp
    rw [holds]
    split
    · exact ⟨_, rfl⟩
    · exact ⟨_, rfl⟩
    · next hquantity hlevel => exact hrow.quantity.exists_atMost hrow.level hquantity hlevel
  | withinMonths field months =>
    obtain rfl : months = 3 := hp
    obtain ⟨earliest, hearliest, hsame⟩ := hnow.exists_monthsBefore
    rw [holds]
    split
    · exact ⟨_, rfl⟩
    · next t ht =>
      have hknown : earliest.ahead.isSome := hsame ▸ hahead
      obtain ⟨b, hb⟩ := Timestamp.exists_isBefore (Value.isSome_ahead_of_instant? ht) hknown
      rw [hearliest]
      exact ⟨!b, congrArg (·.map (!·)) hb⟩
  | delayedOrOverdue status schedule =>
    rw [holds, delayed, inProgress, Value.same_text, Value.same_text]
    generalize ((Value.field row status).text? == some (Text.of "delayed")) = late
    generalize ((Value.field row status).text? == some (Text.of "in-progress")) = going
    cases hinstant : (Value.field row schedule).instant? with
    | none => cases late <;> cases going <;> exact ⟨_, rfl⟩
    | some t =>
      obtain ⟨past, hpast⟩ :=
        Timestamp.exists_isBefore (Value.isSome_ahead_of_instant? hinstant) hahead
      cases late
      · cases going
        · exact ⟨_, rfl⟩
        · exact ⟨past, hpast⟩
      · exact ⟨_, rfl⟩
  | unknown given => exact hp.elim

theorem exists_allHold {predicates : List Predicate} (hp : ∀ p ∈ predicates, p.IsKnown)
    (hrow : row.IsTyped) (hnow : now.HasQuarterBehind) (hahead : now.ahead.isSome) :
    ∃ b, allHold now row predicates = .ok b := by
  induction predicates with
  | nil => exact ⟨true, rfl⟩
  | cons p predicates ih =>
    obtain ⟨b, hb⟩ := (hp p List.mem_cons_self).exists_holds hrow hnow hahead
    obtain ⟨c, hc⟩ := ih fun q hq => hp q (List.mem_cons_of_mem p hq)
    rw [allHold, hb]
    cases b
    · exact ⟨false, rfl⟩
    · exact ⟨c, hc⟩

end Predicate

namespace Table

/-- **Typed rows can be filtered**, and what is kept are some of the rows. -/
theorem exists_filter {predicates : List Predicate} {rows : List Row} {now : Timestamp}
    (hp : ∀ p ∈ predicates, p.IsKnown) (hrows : ∀ row ∈ rows, row.IsTyped)
    (hnow : now.HasQuarterBehind) (hahead : now.ahead.isSome) :
    ∃ kept, filter predicates now rows = .ok kept ∧ kept.Sublist rows := by
  induction rows with
  | nil => exact ⟨[], rfl, List.Sublist.refl _⟩
  | cons row rows ih =>
    obtain ⟨keep, hkeep⟩ :=
      Predicate.exists_allHold hp (hrows row List.mem_cons_self) hnow hahead
    obtain ⟨kept, hkept, hsub⟩ := ih fun r hr => hrows r (List.mem_cons_of_mem row hr)
    rw [filter, hkeep, hkept]
    cases keep
    · exact ⟨kept, rfl, hsub.cons row⟩
    · exact ⟨row :: kept, rfl, hsub.cons_cons row⟩

/-- What is kept are some of the rows. -/
theorem sublist_of_filter {predicates : List Predicate} {rows kept : List Row} {now : Timestamp}
    (h : filter predicates now rows = .ok kept) : kept.Sublist rows := by
  induction rows generalizing kept with
  | nil =>
    cases h
    exact List.Sublist.refl _
  | cons row rows ih =>
    rw [filter] at h
    cases hkeep : Predicate.allHold now row predicates with
    | error cause =>
      rw [hkeep] at h
      cases h
    | ok keep =>
      cases hrest : filter predicates now rows with
      | error cause =>
        rw [hkeep, hrest] at h
        cases h
      | ok others =>
        rw [hkeep, hrest] at h
        cases h
        cases keep
        · exact (ih hrest).cons row
        · exact (ih hrest).cons_cons row

/-- **What a plan makes of rows are some of the rows.** -/
theorem subset_of_apply {plan : Plan} {now : Timestamp} {rows out : List Row}
    (h : apply plan now rows = .ok out) : out ⊆ rows := by
  rw [apply] at h
  obtain ⟨kept, hkept, h⟩ := Except.bind_eq_ok_iff.mp h
  obtain ⟨sorted, hsorted, hout⟩ := Except.bind_eq_ok_iff.mp h
  have hsub : sorted ⊆ kept := by
    cases hkey : plan.sort with
    | none =>
      rw [hkey] at hsorted
      cases hsorted
      exact List.Subset.refl _
    | some key =>
      rw [hkey] at hsorted
      exact (Sorting.perm_of_sort hsorted).subset
  have hcut : out ⊆ sorted := by
    obtain rfl := Except.ok.inj hout
    cases plan.limit.map (·.count) with
    | none => exact List.Subset.refl _
    | some count => cases count <;> exact List.take_subset _ _
  exact fun row hrow => (sublist_of_filter hkept).subset (hsub (hcut hrow))

/-- What a statement selects is what its plan makes of the rows of its table. -/
theorem exists_apply_of_execute {tables : Tables} {statement : Text} {now : Timestamp}
    {out : List Row} (h : execute tables statement now = .ok out) :
    ∃ name plan, Statement.target statement = .ok name ∧ Statement.plan statement = .ok plan ∧
      apply plan now.asUniversal (rowsOf tables name) = .ok out := by
  obtain ⟨name, hname, hselect⟩ := Except.bind_eq_ok_iff.mp h
  rw [select] at hselect
  cases hplan : Statement.plan statement with
  | error cause =>
    rw [hplan] at hselect
    cases hselect
  | ok plan =>
    rw [hplan, Except.ok_bind] at hselect
    cases happly : apply plan now.asUniversal (rowsOf tables name) with
    | error cause =>
      rw [happly] at hselect
      cases hselect
    | ok rows =>
      rw [happly] at hselect
      obtain rfl := Except.ok.inj hselect
      exact ⟨name, plan, hname, rfl, happly⟩

/-- **What a statement selects are some of the rows of one table.** -/
theorem exists_subset_of_execute {tables : Tables} {statement : Text} {now : Timestamp}
    {out : List Row} (h : execute tables statement now = .ok out) :
    ∃ name, out ⊆ rowsOf tables name := by
  obtain ⟨name, plan, -, -, happly⟩ := exists_apply_of_execute h
  exact ⟨name, subset_of_apply happly⟩

theorem exists_compareRows {a b : Row} (ha : a.IsTyped) (hb : b.IsTyped) (key : SortKey) :
    ∃ o, compareRows key a b = .ok o := by
  obtain ⟨o, ho⟩ := (ha.stored key.column).exists_order (hb.stored key.column)
  unfold compareRows
  split
  · exact ⟨_, rfl⟩
  · exact ⟨_, rfl⟩
  · exact ⟨_, rfl⟩
  · rw [ho]
    exact ⟨_, rfl⟩

/-- **Typed rows can be sorted**, by any column, and sorting only rearranges them. -/
theorem exists_sort {rows : List Row} (hrows : ∀ row ∈ rows, row.IsTyped) (key : Option SortKey) :
    ∃ sorted, sort key rows = .ok sorted ∧ sorted.Perm rows := by
  rcases key with _ | key
  · exact ⟨rows, rfl, List.Perm.refl _⟩
  · refine Sorting.exists_sort fun a ha b hb => ?_
    obtain ⟨o, ho⟩ := exists_compareRows (hrows a ha) (hrows b hb) key
    rw [ho]
    exact ⟨_, rfl⟩

end Table
end QueryDesk
