import Mathlib.Data.List.Chain
import QueryDesk.Sorting.Sort
import QueryDesk.Proofs.Sorting.Merge

/-!
# Sorting keeps the items

A sort finds a run, puts items into it, and merges runs that are neighbours; whatever these three
steps keep, the whole sort keeps (`Keeping.sort`).  At every step the runs taken in order, with what
is left behind them, are like the list (`Holds`), and the count that bounds the runs to come is never
used up.

The first thing that is kept is the items of the list, for every test: nothing is said here about
the order they end up in.  With that the sort asks its test only about items of the list, so it
faults only where the test does on two of them (`gives_sort`).  A list that is in order already is
one run, and stays as it is (`sort_of_pairwise`).
-/

set_option autoImplicit false

namespace QueryDesk
namespace Sorting

variable {α ε : Type} {less : α → α → Except ε Bool} {items : List α}

/-! ## Runs -/

/-- The items behind an item go on as it does: each one by itself goes before the last, or none
does. -/
theorem gives_continueRun {previous : α} {rest : List α} (hprevious : previous ∈ items)
    (hrest : rest ⊆ items) (falling : Bool) :
    Gives (Faults less items)
      (fun r => (previous :: r.1).IsChain (fun a b => less b a = .ok falling) ∧ r.1 ++ r.2 = rest)
      (continueRun less falling previous rest) := by
  induction rest generalizing previous with
  | nil => exact ⟨.singleton _, rfl⟩
  | cons x rest ih =>
    obtain ⟨hx, hrest⟩ := List.cons_subset.mp hrest
    refine (answers_less hx hprevious).eq_ok.bind fun goes hgoes => ?_
    split
    · next heq =>
      obtain rfl : goes = falling := by simpa using heq
      refine (ih hx hrest).bind fun r hr => ?_
      exact ⟨hr.1.cons_cons hgoes, congrArg (x :: ·) hr.2⟩
    · exact ⟨.singleton _, rfl⟩

/-- Says that a list is cut into a run and what is left behind it: the run is a rising front of the
list, or a falling one turned around. -/
def IsRun (less : α → α → Except ε Bool) (xs : List α) (r : List α × List α) : Prop :=
  ∃ falling front, front ≠ [] ∧ front.IsChain (fun a b => less b a = .ok falling) ∧
    front ++ r.2 = xs ∧ r.1 = if falling then front.reverse else front

theorem gives_firstRun {x : α} {rest : List α} (h : x :: rest ⊆ items) :
    Gives (Faults less items) (IsRun less (x :: rest)) (firstRun less x rest) := by
  obtain ⟨hx, hrest⟩ := List.cons_subset.mp h
  rcases rest with _ | ⟨y, rest⟩
  · exact ⟨false, [x], List.cons_ne_nil _ _, .singleton _, rfl, rfl⟩
  · obtain ⟨hy, hrest⟩ := List.cons_subset.mp hrest
    refine (answers_less hy hx).eq_ok.bind fun falling hfalling => ?_
    refine (gives_continueRun hy hrest falling).bind fun r hr => ?_
    exact ⟨falling, x :: y :: r.1, List.cons_ne_nil _ _, hr.1.cons_cons hfalling,
      congrArg (x :: y :: ·) hr.2, rfl⟩

theorem IsRun.ne_nil {xs : List α} {r : List α × List α} (h : IsRun less xs r) : r.1 ≠ [] := by
  obtain ⟨falling, front, hne, -, -, hrun⟩ := h
  rw [hrun]
  split <;> simp [hne]

theorem IsRun.perm {xs : List α} {r : List α × List α} (h : IsRun less xs r) :
    (r.1 ++ r.2).Perm xs := by
  obtain ⟨falling, front, -, -, rfl, hrun⟩ := h
  rw [hrun]
  split
  · exact (List.reverse_perm front).append_right r.2
  · exact List.Perm.refl _

theorem gives_insert {x : α} {run : List α} (h : run ++ [x] ⊆ items) :
    Gives (Faults less items) (fun out => out.Perm (run ++ [x])) (insert less x run) := by
  obtain ⟨hrun, hx⟩ := List.append_subset.mp h
  have htest : ∀ y ∈ run, Answers (Faults less items) ((less x y).map (!·)) :=
    fun y hy => (answers_less (hx List.mem_cons_self) (hrun hy)).map _
  refine (gives_bisect_all htest false).bind fun place _ => ?_
  have hback := @List.perm_middle _ x (run.take place) (run.drop place)
  rw [List.take_append_drop] at hback
  exact hback.trans (List.perm_append_singleton x run).symm

theorem gives_merge_of_subset {xs ys : List α} (h : xs ++ ys ⊆ items) (patience : Nat) :
    Gives (Faults less items) (fun r => r.2.Perm (xs ++ ys)) (merge less patience xs ys) := by
  obtain ⟨hxs, hys⟩ := List.append_subset.mp h
  exact gives_merge (fun x hx y hy => answers_less (hys hy) (hxs hx)) patience

/-! ## What the steps of a sort keep -/

section Keeping

variable {fails : ε → Prop} {good : List α → Prop} {like : List α → List α → Prop}

/-- Says that the steps of a sort keep something: finding a run, putting an item into a run and
merging two give runs that are good, and their items are like those that went in. -/
structure Keeping (less : α → α → Except ε Bool) (items : List α) (fails : ε → Prop)
    (good : List α → Prop) (like : List α → List α → Prop) : Prop where
  nil : good []
  refl : ∀ xs, like xs xs
  trans : ∀ {xs ys zs}, like xs ys → like ys zs → like xs zs
  append : ∀ {xs ys xs' ys'}, like xs ys → like xs' ys' → like (xs ++ xs') (ys ++ ys')
  perm : ∀ {xs ys}, like xs ys → xs.Perm ys
  firstRun : ∀ {x rest}, x :: rest ⊆ items →
    Gives fails (fun r => good r.1 ∧ like (r.1 ++ r.2) (x :: rest)) (firstRun less x rest)
  insert : ∀ {x run}, run ++ [x] ⊆ items → good run →
    Gives fails (fun out => good out ∧ like out (run ++ [x])) (insert less x run)
  merge : ∀ {xs ys}, xs ++ ys ⊆ items → good xs → good ys → ∀ patience,
    Gives fails (fun r => good r.2 ∧ like r.2 (xs ++ ys)) (merge less patience xs ys)

theorem Keeping.insertAll (hk : Keeping less items fails good like) {run more : List α}
    (h : run ++ more ⊆ items) (hrun : good run) :
    Gives fails (fun out => good out ∧ like out (run ++ more)) (insertAll less run more) := by
  induction more generalizing run with
  | nil =>
    rw [List.append_nil]
    exact ⟨hrun, hk.refl run⟩
  | cons x more ih =>
    have hcut : run ++ x :: more = run ++ [x] ++ more := by simp
    rw [hcut] at h ⊢
    refine Gives.bind (hk.insert (List.append_subset.mp h).1 hrun) fun out hout => ?_
    have hall := hk.append hout.2 (hk.refl more)
    exact (ih (List.Subset.trans (hk.perm hall).subset h) hout.1).mono
      fun r hr => ⟨hr.1, hk.trans hr.2 hall⟩

/-- Says that a run is good and no empty one, and that with what is left behind it it is like a
list. -/
structure Starts (good : List α → Prop) (like : List α → List α → Prop) (xs : List α)
    (r : List α × List α) : Prop where
  good : good r.1
  like : like (r.1 ++ r.2) xs
  ne_nil : r.1 ≠ []

theorem Keeping.firstLongRun (hk : Keeping less items fails good like) {x : α} {rest : List α}
    (h : x :: rest ⊆ items) (short : Nat) :
    Gives fails (Starts good like (x :: rest)) (firstLongRun less short x rest) := by
  refine ((hk.firstRun h).and (gives_firstRun h)).bind fun r hr => ?_
  obtain ⟨⟨hgood, hlike⟩, hrun⟩ := hr
  have hne := hrun.ne_nil
  obtain ⟨run, left⟩ := r
  have hcut : run ++ left =
      run ++ left.take (short - run.length) ++ left.drop (short - run.length) := by
    rw [List.append_assoc, List.take_append_drop]
  rw [hcut] at hlike
  have hsub := List.Subset.trans (List.subset_append_left _ _) (hk.perm hlike).subset
  refine (hk.insertAll (List.Subset.trans hsub h) hgood).bind fun out hout => ?_
  refine ⟨hout.1, hk.trans (hk.append hout.2 (hk.refl _)) hlike, fun hnil => ?_⟩
  subst hnil
  exact hne (List.append_eq_nil_iff.mp (hk.perm hout.2).nil_eq.symm).1

/-- The items of runs that are given the nearest first. -/
def inOrder (runs : List (List α)) : List α := runs.reverse.flatten

/-- Says that runs are good, each by itself, and that in order, with what is left behind them, they
are like a list. -/
structure Holds (good : List α → Prop) (like : List α → List α → Prop) (runs : List (List α))
    (rest items : List α) : Prop where
  good : ∀ run ∈ runs, good run
  like : like (inOrder runs ++ rest) items

/-- The next run takes the place of what is left, in front of what it leaves. -/
theorem Holds.next {runs : List (List α)} {rest : List α} {r : List α × List α}
    (h : Holds good like runs rest items) (hk : Keeping less items fails good like)
    (hr : Starts good like rest r) : Holds good like (r.1 :: runs) r.2 items where
  good := List.forall_mem_cons.mpr ⟨hr.good, h.good⟩
  like := by simpa [inOrder] using hk.trans (hk.append (hk.refl (inOrder runs)) hr.like) h.like

/-- Two neighbouring runs may be merged wherever they stand. -/
theorem Holds.join {waiting : List (List α)} {w run rest : List α} (front : List (List α))
    (h : Holds good like (front ++ run :: w :: waiting) rest items)
    (hk : Keeping less items fails good like) (patience : Nat) :
    Gives fails (fun r => Holds good like (front ++ r.2 :: waiting) rest items)
      (merge less patience w run) := by
  have hlike := h.like
  have hcut : inOrder (front ++ run :: w :: waiting) ++ rest =
      inOrder waiting ++ (w ++ run) ++ (inOrder front ++ rest) := by simp [inOrder]
  rw [hcut] at hlike
  have hsub : w ++ run ⊆ items := fun a ha => (hk.perm hlike).subset (by
    rw [List.mem_append, List.mem_append]
    exact .inl (.inr ha))
  have hruns := h.good
  simp only [List.forall_mem_append, List.forall_mem_cons] at hruns
  obtain ⟨hfront, hrun, hw, hwaiting⟩ := hruns
  refine (hk.merge hsub hw hrun patience).mono fun r hr => ⟨?_, ?_⟩
  · simp only [List.forall_mem_append, List.forall_mem_cons]
    exact ⟨hfront, hr.1, hwaiting⟩
  · have hall := hk.append (hk.append (hk.refl (inOrder waiting)) hr.2)
      (hk.refl (inOrder front ++ rest))
    simpa [inOrder] using hk.trans hall hlike

/-- The runs that wait, as lists. -/
def waitingRuns (waiting : List (Waiting α)) : List (List α) := waiting.map (·.items)

theorem Keeping.collapse (hk : Keeping less items fails good like) {waiting : List (Waiting α)}
    {run rest : List α} (h : Holds good like (run :: waitingRuns waiting) rest items)
    (power patience : Nat) :
    Gives fails (fun r => Holds good like (r.2.2 :: waitingRuns r.2.1) rest items)
      (collapse less power patience waiting run) := by
  induction waiting generalizing run patience with
  | nil => exact h
  | cons w waiting ih =>
    unfold Sorting.collapse
    split
    · exact (Holds.join [] h hk patience).bind fun r hr => ih hr r.1
    · exact h

theorem Keeping.mergeRest (hk : Keeping less items fails good like) {waiting : List (List α)}
    {run : List α} (h : Holds good like (run :: waiting) [] items) (patience : Nat) :
    Gives fails (fun out => good out ∧ like out items) (mergeRest less patience waiting run) := by
  have hlast : ∀ {out : List α}, Holds good like [out] [] items → good out ∧ like out items :=
    fun hout => ⟨hout.good _ List.mem_cons_self, by simpa [inOrder] using hout.like⟩
  fun_induction Sorting.mergeRest less patience waiting run with
  | case1 patience run => exact hlast h
  | case2 patience run w => exact (Holds.join [] h hk patience).bind fun r hr => hlast hr
  | case3 patience run w v waiting hlt ih =>
    exact (Holds.join [run] h hk patience).bind fun r hr => ih r.1 r.2 hr
  | case4 patience run w v waiting hlt ih =>
    exact (Holds.join [] h hk patience).bind fun r hr => ih r.1 r.2 hr

/-- There are more tries than items left, so the sort ends by merging all runs. -/
theorem Keeping.sortFrom (hk : Keeping less items fails good like) {waiting : List (Waiting α)}
    {run rest : List α} {tries : Nat} (h : Holds good like (run :: waitingRuns waiting) rest items)
    (htries : rest.length < tries) (length short patience place : Nat) :
    Gives fails (fun out => good out ∧ like out items)
      (sortFrom less length short tries patience waiting run place rest) := by
  induction tries generalizing waiting run rest patience place with
  | zero => exact absurd htries (Nat.not_lt_zero _)
  | succ tries ih =>
    rcases rest with _ | ⟨x, rest⟩
    · exact hk.mergeRest h patience
    · have hsub := List.Subset.trans (List.subset_append_right _ _) (hk.perm h.like).subset
      refine (hk.firstLongRun hsub short).bind fun next hnext => ?_
      refine (hk.collapse h _ patience).bind fun r hr => ?_
      have hlen := (hk.perm hnext.like).length_eq
      have hpos := List.length_pos_iff.mpr hnext.ne_nil
      rw [List.length_append, List.length_cons] at hlen
      rw [List.length_cons] at htries
      exact ih (hr.next hk hnext) (by omega) _ _

/-- **What the steps of a sort keep, the sort keeps.** -/
theorem Keeping.sort (hk : Keeping less items fails good like) :
    Gives fails (fun out => good out ∧ like out items) (sort less items) := by
  rcases items with _ | ⟨x, rest⟩
  · exact ⟨hk.nil, hk.refl []⟩
  · refine (hk.firstLongRun (List.Subset.refl _) _).bind fun r hr => ?_
    have hlen := (hk.perm hr.like).length_eq
    have hpos := List.length_pos_iff.mpr hr.ne_nil
    rw [List.length_append] at hlen
    have hall : Holds good like [] (x :: rest) (x :: rest) := ⟨by simp, hk.refl _⟩
    exact hk.sortFrom (hall.next hk hr) (by omega) _ _ _ _

end Keeping

/-! ## The items -/

theorem keeping_perm (less : α → α → Except ε Bool) (items : List α) :
    Keeping less items (Faults less items) (fun _ => True) List.Perm where
  nil := trivial
  refl := List.Perm.refl
  trans := List.Perm.trans
  append := List.Perm.append
  perm := id
  firstRun h := (gives_firstRun h).mono fun _ hr => ⟨trivial, hr.perm⟩
  insert h _ := (gives_insert h).mono fun _ hout => ⟨trivial, hout⟩
  merge h _ _ patience := (gives_merge_of_subset h patience).mono fun _ hr => ⟨trivial, hr⟩

/-- **A sort gives the items of the list in some order, whatever its test says.**  It faults only if
the test does on two items of the list. -/
theorem gives_sort (less : α → α → Except ε Bool) (items : List α) :
    Gives (Faults less items) (fun out => out.Perm items) (sort less items) :=
  (keeping_perm less items).sort.mono fun _ hout => hout.2

/-- A sort by a test that answers on any two items has a result. -/
theorem exists_sort (h : Decides less items) : ∃ out, sort less items = .ok out ∧ out.Perm items :=
  (gives_sort less items).exists_ok h.not_faults

/-- Sorting loses no item and makes none up, however little sense the test makes. -/
theorem perm_of_sort {out : List α} (h : sort less items = .ok out) : out.Perm items :=
  (gives_sort less items).of_eq_ok h

/-! ## Lists in order -/

theorem continueRun_of_pairwise {previous : α} {rest : List α}
    (h : (previous :: rest).Pairwise fun a b => less b a = .ok false) :
    continueRun less false previous rest = .ok (rest, []) := by
  induction rest generalizing previous with
  | nil => rfl
  | cons x rest ih =>
    obtain ⟨hx, hrest⟩ := List.pairwise_cons.mp h
    rw [continueRun, hx x List.mem_cons_self]
    show (continueRun less false x rest >>= fun r => .ok (x :: r.1, r.2)) = _
    rw [ih hrest]
    rfl

theorem firstRun_of_pairwise {x : α} {rest : List α}
    (h : (x :: rest).Pairwise fun a b => less b a = .ok false) :
    firstRun less x rest = .ok (x :: rest, []) := by
  cases rest with
  | nil => rfl
  | cons y rest =>
    obtain ⟨hy, hrest⟩ := List.pairwise_cons.mp h
    rw [firstRun, hy y List.mem_cons_self]
    show (continueRun less false y rest >>= fun r => .ok (x :: y :: r.1, r.2)) = _
    rw [continueRun_of_pairwise hrest]
    rfl

/-- **A list in order is left as it is.** -/
theorem sort_of_pairwise (h : items.Pairwise fun a b => less b a = .ok false) :
    sort less items = .ok items := by
  cases items with
  | nil => rfl
  | cons x rest =>
    have hlong : firstLongRun less (shortRun (x :: rest).length) x rest = .ok (x :: rest, []) := by
      rw [firstLongRun, firstRun_of_pairwise h]
      show Except.bind (insertAll less (x :: rest) (List.take _ [])) _ = _
      rw [List.take_nil]
      show Except.ok (x :: rest, List.drop _ []) = _
      rw [List.drop_nil]
    rw [sort, hlong]
    show mergeRest less leastGallop [] (x :: rest) = _
    rw [mergeRest]

end Sorting
end QueryDesk
