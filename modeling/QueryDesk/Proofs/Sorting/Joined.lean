import QueryDesk.Proofs.Results
import QueryDesk.Proofs.Sorting.Stable
import QueryDesk.Proofs.Sorting.Merge

/-!
# Merging two sorted lists

With a test that tells an order (`Tells`), a merge arranges the items of two lists in order
(`arranges_merge`).  The front of the first list and the back of the second are left alone.  What
is between them starts with an item of the second list that goes before all of the first, and ends
with an item of the first that goes behind all of the second.  That is what both ways of taking
items rely on: the one takes that first item beforehand, the other that last one.
-/

set_option autoImplicit false

namespace QueryDesk
namespace Sorting

variable {α ε : Type} {less : α → α → Except ε Bool} {le : α → α → Bool}
  {x y : α} {items xs ys : List α}

/-- Says that a test answers on any two items of a list as an order does. -/
def Tells (less : α → α → Except ε Bool) (le : α → α → Bool) (items : List α) : Prop :=
  ∀ a ∈ items, ∀ b ∈ items, less a b = .ok (!le b a)

theorem Tells.of_subset (h : Tells less le items) (hxs : xs ⊆ items) : Tells less le xs :=
  fun a ha b hb => h a (hxs ha) b (hxs hb)

theorem Tells.not_faults (h : Tells less le items) (e : ε) : ¬ Faults less items e :=
  Decides.not_faults (fun a ha b hb => ⟨_, h a ha b hb⟩) e

theorem Tells.map_not (h : Tells less le items) {a b : α} (ha : a ∈ items) (hb : b ∈ items) :
    (less a b).map (!·) = .ok (le b a) := by
  rw [h a ha b hb]
  simp [Except.map]

theorem weave_not (xs ys : List α) : weave (fun x y => !le x y) xs ys = xs.merge ys le := by
  simp [weave]

/-- A merge may be read with its lists swapped: then the second one gives way. -/
theorem weave_eq_merge_swap (goes : α → α → Bool) (xs ys : List α) :
    weave goes xs ys = ys.merge xs fun y x => goes x y := by
  induction xs generalizing ys with
  | nil => simp
  | cons x xs ihx =>
    induction ys with
    | nil => simp
    | cons y ys ihy =>
      cases hgoes : goes x y with
      | false =>
        rw [weave_cons_of_not_goes hgoes, ihx, List.cons_merge_cons]
        simp [hgoes]
      | true =>
        rw [weave_cons_of_goes hgoes, ihy, List.cons_merge_cons]
        simp [hgoes]

/-! ## Lists that overlap -/

/-- Says that two lists in order overlap: the first item of the second list goes before all of the
first, and the last item of the first list behind all of the second. -/
structure Overlap (le : α → α → Bool) (xs ys : List α) : Prop where
  left : xs.Pairwise fun a b => le a b = true
  right : ys.Pairwise fun a b => le a b = true
  first : ∀ y ∈ ys.head?, ∀ x ∈ xs, le x y = false
  last : ∀ x ∈ xs.getLast?, ∀ y ∈ ys, le x y = false

theorem Overlap.weavable_front (h : Overlap le xs (y :: ys)) (ho : IsOrder le)
    (htells : Tells less le (xs ++ y :: ys)) :
    Weavable (fun x y => less y x) (fun x y => !le x y) false xs ys where
  answers a ha b hb := htells b (by simp [hb]) a (by simp [ha])
  rises b _ := h.left.imp fun {a a'} haa' hab => by
    simp only [Bool.not_eq_true'] at hab ⊢
    exact Bool.eq_false_iff.mpr fun ha'b => Bool.eq_false_iff.mp hab (ho.trans a a' b haa' ha'b)
  falls a _ := h.right.of_cons.imp fun {b b'} hbb' hab' => by
    simp only [Bool.not_eq_true'] at hab' ⊢
    exact Bool.eq_false_iff.mpr fun hab => Bool.eq_false_iff.mp hab' (ho.trans a b b' hab hbb')
  last _ a ha b hb := by simp [h.last a ha b (List.mem_cons_of_mem y hb)]
  first hend := absurd hend Bool.false_ne_true

theorem Overlap.weavable_back {back : List α} (h : Overlap le xs ys) (ho : IsOrder le)
    (htells : Tells less le (xs ++ ys)) (hback : xs.reverse = x :: back) :
    Weavable (fun x y => (less y x).map (!·)) le true back ys.reverse := by
  have hmem : ∀ a ∈ back, a ∈ xs :=
    fun a ha => List.mem_reverse.mp (hback ▸ List.mem_cons_of_mem x ha)
  have hpair := (hback ▸ List.pairwise_reverse.mpr h.left).of_cons
  refine ⟨fun a ha b hb => ?_, fun b _ => ?_, fun a _ => ?_, ?_, fun _ b hb a ha => ?_⟩
  · exact htells.map_not (List.mem_append_right xs (List.mem_reverse.mp hb))
      (List.mem_append_left ys (hmem a ha))
  · exact hpair.imp fun {a a'} ha'a hab => ho.trans a' a b ha'a hab
  · exact (List.pairwise_reverse.mpr h.right).imp fun {b b'} hb'b hab' => ho.trans a b' b hab' hb'b
  · exact fun hend => absurd hend Bool.noConfusion
  · rw [List.getLast?_reverse] at hb
    exact h.first b hb a (hmem a ha)

/-- **Lists that overlap are joined in order**, from the front or from the end. -/
theorem arranges_mergeBetween (h : Overlap le xs ys) (ho : IsOrder le)
    (htells : Tells less le (xs ++ ys)) (patience : Nat) :
    Gives (fun _ => False) (fun r => Arranges le r.2 (xs ++ ys))
      (mergeBetween less patience xs ys) := by
  refine gives_mergeBetween_of (P := fun out => Arranges le out (xs ++ ys)) ?_ ?_ ?_ ?_
  · rintro rfl
    rw [List.append_nil]
    exact Arranges.refl h.left
  · rintro rfl
    exact Arranges.refl h.right
  · rintro y ys rfl
    have hweavable := h.weavable_front ho htells
    refine ((taking_weave _ _ _).takeSingly hweavable patience 0 0).mono fun r hr => ?_
    have hfirst : y :: r.2 = xs.merge (y :: ys) le := by
      rw [hr, weave_not]
      rcases xs with _ | ⟨x, xs⟩
      · simp
      · rw [List.cons_merge_cons, h.first y rfl x List.mem_cons_self]
        rfl
    rw [hfirst]
    exact arranges_plainMerge ho h.left h.right
  · intro x back hback
    have hweavable := h.weavable_back ho htells hback
    refine ((taking_weave _ _ _).takeSingly hweavable patience 0 0).mono fun r hr => ?_
    have hx : x ∈ xs.getLast? := by
      rw [List.getLast?_eq_head?_reverse, hback]
      rfl
    have hlast : x :: r.2 = ys.reverse.merge xs.reverse fun a b => le b a := by
      rw [hr, weave_eq_merge_swap, hback]
      rcases hrev : ys.reverse with _ | ⟨y, front⟩
      · simp
      · have hy : y ∈ ys := List.mem_reverse.mp (hrev ▸ List.mem_cons_self)
        rw [List.cons_merge_cons, h.last x hx y hy]
        rfl
    have hall := (arranges_plainMerge ho.flip (List.pairwise_reverse.mpr h.right)
      (List.pairwise_reverse.mpr h.left)).reverse
    rw [← List.reverse_append, List.reverse_reverse, ← hlast] at hall
    exact hall

/-! ## Merging -/

/-- Which items of the first list stay in front of the second. -/
theorem IsBorder.front {count : Nat} (ho : IsOrder le) (htells : Tells less le (xs ++ ys))
    (hxs : xs.Pairwise fun a b => le a b = true) (hy : y ∈ ys)
    (h : IsBorder (fun x => (less y x).map (!·)) xs count) :
    (∀ a ∈ xs.take count, le a y = true) ∧ ∀ a ∈ xs.drop count, le a y = false := by
  refine h.parts (fun a ha => ?_) (hxs.imp fun {a b} hab hb => ho.trans a b y hab hb)
  exact htells.map_not (List.mem_append_right xs hy) (List.mem_append_left ys ha)

/-- Which items of the second list stay behind an item of the first. -/
theorem IsBorder.back {count : Nat} (ho : IsOrder le) (htells : Tells less le (xs ++ ys))
    (hys : ys.Pairwise fun a b => le a b = true) (hx : x ∈ xs)
    (h : IsBorder (fun y => (less y x).map (!·)) ys.reverse count) :
    (∀ b ∈ ys.take (ys.length - count), le x b = false) ∧
      ∀ b ∈ ys.drop (ys.length - count), le x b = true := by
  have hpair := List.pairwise_reverse.mpr hys
  obtain ⟨htake, hdrop⟩ := h.parts (p := fun b => le x b)
    (fun b hb => htells.map_not (List.mem_append_right xs (List.mem_reverse.mp hb))
      (List.mem_append_left ys hx))
    (hpair.imp fun {a b} hba hb => ho.trans x b a hb hba)
  refine ⟨fun b hb => hdrop b ?_, fun b hb => htake b ?_⟩
  · rw [List.drop_reverse]
    exact List.mem_reverse.mpr hb
  · rw [List.take_reverse]
    exact List.mem_reverse.mpr hb

/-- The items before the last one of a list in order go before it, and it goes before itself. -/
theorem le_getLast (ho : IsOrder le) (h : xs.Pairwise fun a b => le a b = true)
    (hx : x ∈ xs.getLast?) : ∀ a ∈ xs, le a x = true := by
  intro a ha
  obtain ⟨front, rfl⟩ := List.getLast?_eq_some_iff.mp hx
  rcases List.mem_append.mp ha with ha | ha
  · exact (List.pairwise_append.mp h).2.2 a ha x List.mem_cons_self
  · rw [List.mem_singleton.mp ha]
    exact ho.refl x

theorem append_between (xs ys : List α) (front kept : Nat) :
    xs.take front ++ (xs.drop front ++ ys.take kept) ++ ys.drop kept = xs ++ ys := by
  rw [← List.append_assoc, List.take_append_drop, List.append_assoc, List.take_append_drop]

/-- Arranging what is between the front of one list and the back of another arranges both, if the
front goes before all of the other list and nothing of the one goes behind the back. -/
theorem Arranges.of_between {out : List α} {front kept : Nat}
    (h : Arranges le out (xs.drop front ++ ys.take kept)) (ho : IsOrder le)
    (hxs : xs.Pairwise fun a b => le a b = true) (hys : ys.Pairwise fun a b => le a b = true)
    (hfront : ∀ a ∈ xs.take front, ∀ b ∈ ys, le a b = true)
    (hback : ∀ a ∈ xs.drop front, ∀ b ∈ ys.drop kept, le a b = true) :
    Arranges le (xs.take front ++ out ++ ys.drop kept) (xs ++ ys) := by
  rw [← List.take_append_drop front xs, List.pairwise_append] at hxs
  rw [← List.take_append_drop kept ys, List.pairwise_append] at hys
  rw [← append_between xs ys front kept]
  refine h.between ho hxs.1 hys.2.1 (fun a ha b hb => ?_) fun a ha b hb => ?_
  · rw [List.append_assoc, List.take_append_drop] at hb
    exact (List.mem_append.mp hb).elim (hxs.2.2 a ha b) (hfront a ha b)
  · rcases List.mem_append.mp ha with ha | ha
    · exact hback a ha b hb
    · exact hys.2.2 a ha b hb

/-- What stays in front of the head of a list in order stays in front of all of it. -/
theorem le_of_le_head (ho : IsOrder le) (hys : ys.Pairwise fun a b => le a b = true)
    (hfront : ∀ y ∈ ys.head?, ∀ a ∈ xs, le a y = true) : ∀ a ∈ xs, ∀ b ∈ ys, le a b = true := by
  intro a ha b hb
  cases ys with
  | nil => cases hb
  | cons y ys => exact ho.trans a y b (hfront y rfl a ha) (le_of_mem ho hys hb)

/-- **A merge arranges the items of two lists in order.** -/
theorem arranges_merge (ho : IsOrder le) (htells : Tells less le (xs ++ ys))
    (hxs : xs.Pairwise fun a b => le a b = true) (hys : ys.Pairwise fun a b => le a b = true)
    (patience : Nat) :
    Gives (fun _ => False) (fun r => Arranges le r.2 (xs ++ ys)) (merge less patience xs ys) := by
  have hanswers : ∀ a ∈ xs, ∀ b ∈ ys, Answers (fun _ => False) (less b a) := by
    intro a ha b hb
    rw [htells b (List.mem_append_right xs hb) a (List.mem_append_left ys ha)]
    trivial
  refine (gives_merges hanswers patience).mono fun r hr => ?_
  generalize r.2 = merged at hr ⊢
  cases hr with
  | apart hfront =>
    refine Arranges.refl (List.pairwise_append.mpr ⟨hxs, hys, le_of_le_head ho hys fun y hy => ?_⟩)
    have hstay := ((hfront y hy).front ho htells hxs (List.mem_of_mem_head? hy)).1
    rwa [List.take_length] at hstay
  | @between front back _ x y out hhead hfront hlast hback hout =>
    have hleft := hxs.sublist (List.drop_sublist front xs)
    have hxmem : x ∈ xs := List.mem_of_mem_drop (List.mem_of_getLast? hlast)
    obtain ⟨hbefore, hbehind⟩ := hback.back ho htells hys hxmem
    generalize ys.length - back = kept at *
    obtain ⟨hstay, hmove⟩ := hfront.front ho htells hxs (List.mem_of_mem_head? hhead)
    have hstays : ∀ a ∈ xs.take front, ∀ b ∈ ys, le a b = true := by
      refine le_of_le_head ho hys fun y' hy' => ?_
      obtain rfl := Option.some.inj (hhead.symm.trans hy')
      exact hstay
    have hoverlap : Overlap le (xs.drop front) (ys.take kept) := by
      refine ⟨hleft, hys.sublist (List.take_sublist kept ys), fun y' hy' => ?_, fun x' hx' => ?_⟩
      · rw [List.head?_take, Option.mem_def, Option.ite_none_left_eq_some] at hy'
        obtain rfl := Option.some.inj (hhead.symm.trans hy'.2)
        exact hmove
      · obtain rfl := Option.some.inj (hlast.symm.trans hx')
        exact hbefore
    have htells' : Tells less le (xs.drop front ++ ys.take kept) :=
      htells.of_subset (List.append_subset.mpr ⟨fun a ha => by
        simp [List.mem_of_mem_drop ha], fun b hb => by simp [List.mem_of_mem_take hb]⟩)
    have hmiddle : Arranges le out _ := (arranges_mergeBetween hoverlap ho htells' _).of_eq_ok hout
    refine hmiddle.of_between ho hxs hys hstays ?_
    exact fun a ha b hb => ho.trans a x b (le_getLast ho hleft hlast a ha) (hbehind b hb)

end Sorting
end QueryDesk
