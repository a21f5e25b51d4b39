import Mathlib.Data.List.Basic
import Mathlib.Tactic.ByContra

/-!
# Stable arrangements

A stable sort brings the items of a list into order and keeps tied items in their old order
(`Arranges`).  Keeping ties in order is stated item by item: the items tied with it are the same
list before and after (`SameTies`).  That is preserved by joining lists, so it can be followed
through a sort that cuts a list and joins the parts again.

There is one stable arrangement of a list (`Arranges.unique`), and so it is the one that
`List.mergeSort` gives.
-/

set_option autoImplicit false

namespace QueryDesk
namespace Sorting

variable {α : Type} {le : α → α → Bool} {xs ys items : List α}

/-- An order in which any two items stand, where different items may be tied. -/
structure IsOrder (le : α → α → Bool) : Prop where
  trans : ∀ a b c, le a b = true → le b c = true → le a c = true
  total : ∀ a b, (le a b || le b a) = true

namespace IsOrder

variable (h : IsOrder le)
include h

theorem refl (a : α) : le a a = true := by simpa using h.total a a

theorem of_not {a b : α} (hab : le a b = false) : le b a = true := by simpa [hab] using h.total a b

/-- Rising steps make a rising chain, and strictly falling steps a strictly falling one. -/
theorem chain {a b c : α} {rising : Bool} (hab : le a b = rising) (hbc : le b c = rising) :
    le a c = rising := by
  cases rising with
  | true => exact h.trans a b c hab hbc
  | false =>
    by_contra hac
    have hab' := h.trans a c b (by simpa using hac) (h.of_not hbc)
    simp [hab] at hab'

/-- The opposite order. -/
theorem flip : IsOrder fun a b => le b a where
  trans a b c hab hbc := h.trans c b a hbc hab
  total a b := h.total b a

end IsOrder

/-- Tests that two items are tied. -/
def tied (le : α → α → Bool) (a b : α) : Bool := le a b && le b a

/-- Says that two lists have the same items, tied ones in the same order. -/
def SameTies (le : α → α → Bool) (xs ys : List α) : Prop :=
  ∀ a, xs.filter (tied le a) = ys.filter (tied le a)

namespace SameTies

variable {zs xs' ys' : List α}

theorem refl (xs : List α) : SameTies le xs xs := fun _ => rfl

theorem symm (h : SameTies le xs ys) : SameTies le ys xs := fun a => (h a).symm

theorem trans (h : SameTies le xs ys) (h' : SameTies le ys zs) : SameTies le xs zs :=
  fun a => (h a).trans (h' a)

theorem append (h : SameTies le xs ys) (h' : SameTies le xs' ys') :
    SameTies le (xs ++ xs') (ys ++ ys') := by
  intro a
  rw [List.filter_append, List.filter_append, h a, h' a]

/-- An item is as often among its ties as in the whole list. -/
theorem perm (ho : IsOrder le) (h : SameTies le xs ys) : xs.Perm ys := by
  classical
  refine List.perm_iff_count.mpr fun a => ?_
  have htied : tied le a a = true := by simp [tied, ho.refl]
  rw [← List.count_filter htied, h a, List.count_filter htied]

theorem subset (h : SameTies le xs ys) (ho : IsOrder le) : xs ⊆ ys := (h.perm ho).subset

/-- An item may move over others that are not tied with it. -/
theorem middle (ho : IsOrder le) (ys : List α) {x : α} (h : ∀ a ∈ xs, tied le x a = false) :
    SameTies le (x :: xs ++ ys) (xs ++ x :: ys) := by
  intro a
  by_cases hx : tied le a x = true
  · have hxs : xs.filter (tied le a) = [] := by
      refine List.filter_eq_nil_iff.mpr fun b hb hab => ?_
      simp only [tied, Bool.and_eq_true] at hx hab
      have hxb := h b hb
      simp [tied, ho.trans x a b hx.2 hab.1, ho.trans b a x hab.2 hx.1] at hxb
    simp [hxs, hx]
  · simp [hx]

/-- An item may move behind others that are not tied with it. -/
theorem rotate (ho : IsOrder le) {x : α} (h : ∀ a ∈ xs, tied le x a = false) :
    SameTies le (x :: xs) (xs ++ [x]) := by
  have hmove := middle ho [] h
  rwa [List.append_nil] at hmove

theorem reverse (h : SameTies le xs ys) : SameTies (fun a b => le b a) xs.reverse ys.reverse := by
  intro a
  have htied : tied (fun a b => le b a) a = tied le a := funext fun b => Bool.and_comm ..
  rw [htied, List.filter_reverse, List.filter_reverse, h a]

end SameTies

/-- Says that a list has the items of another in order, tied ones as they were. -/
structure Arranges (le : α → α → Bool) (out items : List α) : Prop where
  sorted : out.Pairwise fun a b => le a b = true
  ties : SameTies le out items

namespace Arranges

theorem refl (h : items.Pairwise fun a b => le a b = true) : Arranges le items items :=
  ⟨h, SameTies.refl items⟩

theorem reverse {out : List α} (h : Arranges le out items) :
    Arranges (fun a b => le b a) out.reverse items.reverse :=
  ⟨List.pairwise_reverse.mpr h.sorted, h.ties.reverse⟩

/-- A part of a list is arranged by itself where the rest is in order and stands on its two
sides. -/
theorem between {front out back : List α} (ho : IsOrder le) (h : Arranges le out items)
    (hfront : front.Pairwise fun a b => le a b = true)
    (hback : back.Pairwise fun a b => le a b = true)
    (hbefore : ∀ a ∈ front, ∀ b ∈ items ++ back, le a b = true)
    (hbehind : ∀ a ∈ items, ∀ b ∈ back, le a b = true) :
    Arranges le (front ++ out ++ back) (front ++ items ++ back) where
  sorted := by
    have hsub := h.ties.subset ho
    simp only [List.forall_mem_append] at hbefore
    simp only [List.pairwise_append, List.forall_mem_append]
    refine ⟨⟨hfront, h.sorted, fun a ha b hb => (hbefore a ha).1 b (hsub hb)⟩, hback, ?_, ?_⟩
    · exact fun a ha b hb => (hbefore a ha).2 b hb
    · exact fun a ha b hb => hbehind a (hsub ha) b hb
  ties := ((SameTies.refl front).append h.ties).append (SameTies.refl back)

end Arranges

/-- The head of a list in order goes before every item. -/
theorem le_of_mem {a b : α} (ho : IsOrder le) (h : (a :: xs).Pairwise fun a b => le a b = true)
    (hb : b ∈ a :: xs) : le a b = true := by
  rcases List.mem_cons.mp hb with rfl | hb
  · exact ho.refl b
  · exact List.rel_of_pairwise_cons h hb

/-- Lists in order with the same ties are equal: the heads are tied, and so the same item. -/
theorem eq_of_sameTies (ho : IsOrder le) (hxs : xs.Pairwise fun a b => le a b = true)
    (hys : ys.Pairwise fun a b => le a b = true) (h : SameTies le xs ys) : xs = ys := by
  induction xs generalizing ys with
  | nil => exact (List.subset_nil.mp (h.symm.subset ho)).symm
  | cons x xs ih =>
    cases ys with
    | nil => exact absurd (List.subset_nil.mp (h.subset ho)) (List.cons_ne_nil x xs)
    | cons y ys =>
      have hxy : le x y = true := le_of_mem ho hxs (h.symm.subset ho List.mem_cons_self)
      have hyx : le y x = true := le_of_mem ho hys (h.subset ho List.mem_cons_self)
      have hhead := h x
      simp only [List.filter_cons, tied, ho.refl, hxy, hyx, Bool.and_self, if_true] at hhead
      obtain ⟨rfl, -⟩ := List.cons.inj hhead
      refine congrArg (x :: ·) (ih hxs.of_cons hys.of_cons fun a => ?_)
      have htail := h a
      simp only [List.filter_cons] at htail
      split at htail
      · exact (List.cons.inj htail).2
      · exact htail

/-- **There is one stable arrangement of a list.** -/
theorem Arranges.unique (ho : IsOrder le) (hxs : Arranges le xs items)
    (hys : Arranges le ys items) : xs = ys :=
  eq_of_sameTies ho hxs.sorted hys.sorted (hxs.ties.trans hys.ties.symm)

/-! ## The sort of the library -/

/-- Items that are tied with one item are in order, however they stand. -/
theorem pairwise_filter_tied (ho : IsOrder le) (items : List α) (a : α) :
    (items.filter (tied le a)).Pairwise fun b c => le b c = true := by
  refine List.pairwise_of_forall_mem_list fun b hb c hc => ?_
  simp only [List.mem_filter, tied, Bool.and_eq_true] at hb hc
  exact ho.trans b a c hb.2.2 hc.2.1

/-- **The merge sort of the library gives the stable arrangement.** -/
theorem arranges_mergeSort (ho : IsOrder le) (items : List α) :
    Arranges le (items.mergeSort le) items where
  sorted := List.pairwise_mergeSort ho.trans ho.total items
  ties a := by
    have hsub := List.sublist_mergeSort ho.trans ho.total (pairwise_filter_tied ho items a)
      List.filter_sublist
    have hfilter := hsub.filter (tied le a)
    simp only [List.filter_filter, Bool.and_self] at hfilter
    refine (hfilter.eq_of_length ?_).symm
    exact ((List.mergeSort_perm items le).filter _).length_eq.symm

/-- **The plain merge arranges two lists in order.** -/
theorem arranges_plainMerge (ho : IsOrder le) (hxs : xs.Pairwise fun a b => le a b = true)
    (hys : ys.Pairwise fun a b => le a b = true) : Arranges le (xs.merge ys le) (xs ++ ys) where
  sorted := List.pairwise_merge ho.trans ho.total xs ys hxs hys
  ties := by
    induction xs generalizing ys with
    | nil => simpa using SameTies.refl ys
    | cons x xs ihx =>
      induction ys with
      | nil => simpa using SameTies.refl (x :: xs)
      | cons y ys ihy =>
        by_cases hxy : le x y = true
        · rw [List.cons_merge_cons_pos _ _ _ hxy]
          exact (SameTies.refl [x]).append (ihx hxs.of_cons hys)
        · rw [List.cons_merge_cons_neg _ _ _ hxy]
          -- The item that moves to the front goes strictly before all of the first list.
          have hbehind : ∀ a ∈ x :: xs, tied le y a = false := by
            intro a ha
            have hya : le a y = false :=
              Bool.eq_false_iff.mpr fun h => hxy (ho.trans x a y (le_of_mem ho hxs ha) h)
            simp [tied, hya]
          exact ((SameTies.refl [y]).append (ihy hys.of_cons)).trans (SameTies.middle ho ys hbehind)

end Sorting
end QueryDesk
