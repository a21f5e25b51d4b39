import Mathlib.Data.List.Forall2
import QueryDesk.Proofs.Sorting.Joined
import QueryDesk.Proofs.Sorting.Mapped
import QueryDesk.Proofs.Sorting.Sort

/-!
# The sort is the stable one

With a test that tells an order the runs that a sort finds, extends and merges are in order, and
together they hold the items with the ties of the list, at every step.  So the result is the one
stable arrangement of the list, whatever runs are found and however they are merged
(`sort_eq_mergeSort`).

It is enough that the items of the list stand in an order (`exists_sort_arranged`).  What then comes
out does not depend, up to ties, on how the items stood (`forall₂_tied_of_pairwise`).
-/

set_option autoImplicit false

namespace QueryDesk
namespace Sorting

variable {α ε : Type} {less : α → α → Except ε Bool} {le : α → α → Bool} {items : List α}

/-! ## Runs -/

/-- A strictly falling list has its ties when it is turned around: it has none but single items. -/
theorem sameTies_reverse {xs : List α} (ho : IsOrder le)
    (h : xs.Pairwise fun a b => le a b = false) : SameTies le xs.reverse xs := by
  induction xs with
  | nil => exact SameTies.refl []
  | cons x xs ih =>
    obtain ⟨hx, hxs⟩ := List.pairwise_cons.mp h
    rw [List.reverse_cons]
    refine ((ih hxs).append (SameTies.refl [x])).trans (SameTies.rotate ho ?_).symm
    intro a ha
    simp [tied, hx a ha]

/-- A run that a test finds is in order, and has the ties of the list. -/
theorem IsRun.arranges {xs : List α} {r : List α × List α} (h : IsRun less xs r) (ho : IsOrder le)
    (htells : Tells less le xs) :
    r.1.Pairwise (fun a b => le a b = true) ∧ SameTies le (r.1 ++ r.2) xs := by
  obtain ⟨falling, front, -, hchain, rfl, hrun⟩ := h
  rw [hrun]
  -- Rising steps go on by ties too, falling ones strictly.
  have hpair : front.Pairwise fun a b => le a b = !falling := by
    have : Trans (fun a b => le a b = !falling) (fun a b => le a b = !falling)
        (fun a b => le a b = !falling) := ⟨ho.chain⟩
    refine List.IsChain.pairwise (hchain.imp_of_mem_imp fun a b ha hb hless => ?_)
    rw [htells b (by simp [hb]) a (by simp [ha])] at hless
    simpa [Bool.not_eq_eq_eq_not] using Except.ok.inj hless
  cases falling with
  | false => exact ⟨hpair, SameTies.refl _⟩
  | true =>
    refine ⟨List.pairwise_reverse.mpr (hpair.imp ho.of_not), ?_⟩
    exact (sameTies_reverse ho hpair).append (SameTies.refl r.2)

theorem arranges_insert {x : α} {run : List α} (ho : IsOrder le)
    (htells : Tells less le (run ++ [x])) (hrun : run.Pairwise fun a b => le a b = true) :
    Gives (fun _ => False) (fun out => Arranges le out (run ++ [x])) (insert less x run) := by
  obtain ⟨place, hplace, hbefore, hbehind⟩ := exists_bisect (p := fun y => le y x)
    (fun y hy => htells.map_not (by simp) (by simp [hy]))
    (hrun.imp fun {a b} hab hb => ho.trans a b x hab hb) false
  rw [insert, hplace, Except.ok_bind]
  rw [← List.take_append_drop place run, List.pairwise_append] at hrun
  have hties : SameTies le (x :: run.drop place) (run.drop place ++ [x]) :=
    SameTies.rotate ho fun a ha => by simp [tied, hbehind a ha]
  refine ⟨List.pairwise_append.mpr ⟨hrun.1, List.pairwise_cons.mpr ⟨fun a ha => ?_, hrun.2.1⟩,
    fun a ha b hb => ?_⟩, ?_⟩
  · exact ho.of_not (hbehind a ha)
  · rcases List.mem_cons.mp hb with rfl | hb
    · exact hbefore a ha
    · exact hrun.2.2 a ha b hb
  · have hall := (SameTies.refl (run.take place)).append hties
    rwa [← List.append_assoc, List.take_append_drop] at hall

/-! ## The whole list -/

/-- The steps of a sort keep runs in order and the ties of the list. -/
theorem keeping_order (ho : IsOrder le) (htells : Tells less le items) :
    Keeping less items (fun _ => False) (fun run => run.Pairwise fun a b => le a b = true)
      (SameTies le) where
  nil := List.Pairwise.nil
  refl := SameTies.refl
  trans := SameTies.trans
  append := SameTies.append
  perm := SameTies.perm ho
  firstRun h := by
    have htells' := htells.of_subset h
    refine Gives.of_none (Gives.mono (gives_firstRun (List.Subset.refl _)) ?_) htells'.not_faults
    exact fun _ hr => hr.arranges ho htells'
  insert h hrun := (arranges_insert ho (htells.of_subset h) hrun).mono
    fun _ hout => ⟨hout.sorted, hout.ties⟩
  merge h hxs hys patience := (arranges_merge ho (htells.of_subset h) hxs hys patience).mono
    fun _ hr => ⟨hr.sorted, hr.ties⟩

theorem arranges_sort (ho : IsOrder le) (htells : Tells less le items) :
    Gives (fun _ => False) (fun out => Arranges le out items) (sort less items) :=
  (keeping_order ho htells).sort.mono fun _ hout => ⟨hout.1, hout.2⟩

/-- **A sort by a test that tells an order is the stable sort.** -/
theorem sort_eq_mergeSort (ho : IsOrder le) (htells : Tells less le items) :
    sort less items = .ok (items.mergeSort le) := by
  obtain ⟨out, hout, harranges⟩ := (arranges_sort ho htells).exists_ok fun _ => id
  rw [hout, harranges.unique ho (arranges_mergeSort ho items)]

/-! ## Orders of the items at hand -/

/-- Says that the items of a list stand in an order, whatever other items may do. -/
structure IsOrderOn (le : α → α → Bool) (items : List α) : Prop where
  trans : ∀ a ∈ items, ∀ b ∈ items, ∀ c ∈ items, le a b = true → le b c = true → le a c = true
  total : ∀ a ∈ items, ∀ b ∈ items, (le a b || le b a) = true

/-- The order of the items by themselves. -/
theorem IsOrderOn.isOrder (ho : IsOrderOn le items) :
    IsOrder fun a b : { a // a ∈ items } => le a.1 b.1 where
  trans a b c := ho.trans a.1 a.2 b.1 b.2 c.1 c.2
  total a b := ho.total a.1 a.2 b.1 b.2

/-- **A sort by a test that tells an order of its items arranges them.** -/
theorem exists_sort_arranged (ho : IsOrderOn le items) (htells : Tells less le items) :
    ∃ out, sort less items = .ok out ∧ out.Pairwise (fun a b => le a b = true) ∧
      ∀ a ∈ items, out.filter (tied le a) = items.filter (tied le a) := by
  have htells' : Tells (fun a b : { a // a ∈ items } => less a.1 b.1) (fun a b => le a.1 b.1)
      items.attach := fun a _ b _ => htells a.1 a.2 b.1 b.2
  have harranges := arranges_mergeSort ho.isOrder items.attach
  refine ⟨(items.attach.mergeSort fun a b => le a.1 b.1).map Subtype.val, ?_, ?_, fun a ha => ?_⟩
  · have hsort := sort_map Subtype.val less items.attach
    rw [List.attach_map_subtype_val] at hsort
    rw [hsort, sort_eq_mergeSort ho.isOrder htells']
    rfl
  · exact List.pairwise_map.mpr harranges.sorted
  · have hties := congrArg (List.map Subtype.val) (harranges.ties ⟨a, ha⟩)
    have hitems := List.attach_map_subtype_val items
    have hfilter : ∀ xs : List { b // b ∈ items }, (xs.map Subtype.val).filter (tied le a) =
        (xs.filter (tied (fun a b => le a.1 b.1) ⟨a, ha⟩)).map Subtype.val :=
      fun xs => List.filter_map
    rw [hfilter, hties, ← hfilter, hitems]

/-- **In order the items of a list stand in the same way**, up to ties: two lists of them that are
in order differ at no place by more than a tie. -/
theorem forall₂_tied_of_pairwise {xs ys : List α} (ho : IsOrderOn le items) (hitems : xs ⊆ items)
    (hperm : xs.Perm ys) (hxs : xs.Pairwise fun a b => le a b = true)
    (hys : ys.Pairwise fun a b => le a b = true) :
    List.Forall₂ (fun a b => tied le a b = true) xs ys := by
  -- An item is known, up to ties, by the items it goes before; of these an earlier one has more.
  let behind (a : α) (c : { c // c ∈ items }) : Bool := le a c.1
  have hrefl : ∀ a ∈ items, le a a = true := fun a ha => by simpa using ho.total a ha a ha
  have hpair : ∀ zs : List α, zs ⊆ items → zs.Pairwise (fun a b => le a b = true) →
      (zs.map behind).Pairwise fun p q => ∀ c, q c = true → p c = true := by
    intro zs hzs h
    refine List.pairwise_map.mpr (h.imp_of_mem fun {a b} ha hb hab c hbc => ?_)
    exact ho.trans a (hzs ha) b (hzs hb) c.1 c.2 hab hbc
  have heq : xs.map behind = ys.map behind := by
    refine List.Perm.eq_of_pairwise (fun p q _ _ hpq hqp => funext fun c => ?_) (hpair xs hitems hxs)
      (hpair ys (List.Subset.trans hperm.symm.subset hitems) hys) (hperm.map behind)
    exact Bool.eq_iff_iff.mpr ⟨hqp c, hpq c⟩
  rw [← List.forall₂_eq_eq_eq, List.forall₂_map_left_iff, List.forall₂_map_right_iff] at heq
  refine (List.forall₂_iff_zip.mpr ⟨heq.length_eq, fun {a b} hmem => ?_⟩)
  have hab : behind a = behind b := List.forall₂_zip heq hmem
  have ha : a ∈ items := hitems (List.of_mem_zip hmem).1
  have hb : b ∈ items := hitems (hperm.symm.subset (List.of_mem_zip hmem).2)
  have hleft : le a b = le b b := congrFun hab ⟨b, hb⟩
  have hright : le a a = le b a := congrFun hab ⟨a, ha⟩
  simp [tied, hleft, ← hright, hrefl a ha, hrefl b hb]

end Sorting
end QueryDesk
