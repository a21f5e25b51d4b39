import QueryDesk.Proofs.Sorting.Search
import QueryDesk.Sorting.Merge

/-!
# Merging keeps the items

A merge takes items off two lists, one by one or a row at a time, and where it looks for the end of
a row decides only how many it takes at once.  What a merge does to its lists is said here once: a
property that holds where one list is used up, and that taking an item or a row keeps, holds of the
whole merge (`Taking.takeSingly`, `Taking.takeRows`).  All that a row is known by is its border: its
last item passed the test and the item behind it failed.

Before that a merge sets aside what can stay where it is, and what it comes to then is said once
as well (`Merges`).

The first property that is kept is that the merged list has the items of both lists.  It holds
whatever the test says (`gives_merge`), and the merge faults only where the test does on an item of
the first and one of the second list.  With a test that makes sense the result is that of the plain
merge (`weave`).
-/

set_option autoImplicit false

namespace QueryDesk
namespace Sorting

variable {α ε : Type} {fails : ε → Prop} {x y : α} {xs ys out : List α}

/-! ## Taking from two lists -/

section Taking

variable {second : α → α → Except ε Bool} {fromEnd : Bool}
  {inv : List α → List α → Prop} {post : List α → List α → List α → Prop}

/-- Says that a property of two lists and what they are merged to is kept by taking items off the
lists, as long as something else holds of what is left of them. -/
structure Taking (second : α → α → Except ε Bool) (fromEnd : Bool) (fails : ε → Prop)
    (inv : List α → List α → Prop) (post : List α → List α → List α → Prop) : Prop where
  left : ∀ {xs ys xs' ys' : List α}, inv xs ys → xs' <:+ xs → ys' <:+ ys → inv xs' ys'
  answers : ∀ {xs ys : List α}, inv xs ys → ∀ x ∈ xs, ∀ y ∈ ys, Answers fails (second x y)
  firstDone : ∀ ys, post [] ys ys
  secondDone : ∀ xs, post xs [] xs
  last : ∀ {x y xs ys out}, inv (x :: xs) (y :: ys) → lastOrder fromEnd x xs y ys = some out →
    post (x :: xs) (y :: ys) out
  one : ∀ {x y xs ys out}, inv (x :: xs) (y :: ys) → second x y = .ok false →
    post xs (y :: ys) out → post (x :: xs) (y :: ys) (x :: out)
  other : ∀ {x y xs ys out}, inv (x :: xs) (y :: ys) → second x y = .ok true →
    post (x :: xs) ys out → post (x :: xs) (y :: ys) (y :: out)
  row : ∀ {x y xs ys out count}, inv (x :: xs) (y :: ys) →
    IsBorder (fun item => (second item y).map (!·)) (x :: xs) count →
    post ((x :: xs).drop count) (y :: ys) out →
    post (x :: xs) (y :: ys) ((x :: xs).take count ++ out)
  otherRow : ∀ {x y xs ys out count}, inv (x :: xs) (y :: ys) →
    IsBorder (second x) (y :: ys) count → post (x :: xs) ((y :: ys).drop count) out →
    post (x :: xs) (y :: ys) ((y :: ys).take count ++ out)

/-- The item behind a row fails the test that ended the row. -/
theorem IsBorder.fails_of_drop {test : α → Except ε Bool} {count : Nat} (h : IsBorder test xs count)
    {rest : List α} (hdrop : xs.drop count = x :: rest) : test x = .ok false := by
  refine h.closes x ?_
  rw [← List.head?_drop, hdrop]
  rfl

theorem eq_true_of_map_not {answer : Except ε Bool} (h : answer.map (!·) = .ok false) :
    answer = .ok true := by
  rcases answer with e | c
  · cases h
  · cases c with
    | false => cases h
    | true => rfl

mutual

theorem Taking.takeSingly {xs ys : List α} (h : Taking second fromEnd fails inv post)
    (hinv : inv xs ys) (patience firstRow secondRow : Nat) :
    Gives fails (fun r => post xs ys r.2)
      (takeSingly second fromEnd patience firstRow secondRow xs ys) := by
  match xs, ys with
  | [], ys =>
    simp only [Sorting.takeSingly]
    exact h.firstDone ys
  | x :: xs, [] =>
    simp only [Sorting.takeSingly, List.append_nil]
    exact h.secondDone (x :: xs)
  | x :: xs, y :: ys =>
    rw [Sorting.takeSingly]
    split
    · next out hout => exact h.last hinv hout
    · have hanswer := (h.answers hinv x List.mem_cons_self y List.mem_cons_self).eq_ok
      refine hanswer.bind fun goes hgoes => ?_
      cases goes with
      | false =>
        have hrest := h.left hinv (List.suffix_cons x xs) (List.suffix_refl _)
        simp only [Bool.false_eq_true, if_false]
        split
        · exact (h.takeRows hrest patience true 0).bind fun r hr => h.one hinv hgoes hr
        · exact (h.takeSingly hrest patience (firstRow + 1) 0).bind
            fun r hr => h.one hinv hgoes hr
      | true =>
        have hrest := h.left hinv (List.suffix_refl _) (List.suffix_cons y ys)
        simp only [if_true]
        split
        · exact (h.takeRows hrest patience true 0).bind fun r hr => h.other hinv hgoes hr
        · exact (h.takeSingly hrest patience 0 (secondRow + 1)).bind
            fun r hr => h.other hinv hgoes hr
termination_by xs.length + ys.length

theorem Taking.takeRows {xs ys : List α} (h : Taking second fromEnd fails inv post)
    (hinv : inv xs ys) (patience : Nat) (ofFirst : Bool) (earlier : Nat) :
    Gives fails (fun r => post xs ys r.2)
      (takeRows second fromEnd patience ofFirst earlier xs ys) := by
  match xs, ys with
  | [], ys =>
    simp only [Sorting.takeRows]
    exact h.firstDone ys
  | x :: xs, [] =>
    simp only [Sorting.takeRows, List.append_nil]
    exact h.secondDone (x :: xs)
  | x :: xs, y :: ys =>
    rw [Sorting.takeRows]
    have hanswers := h.answers hinv
    split
    · next out hout => exact h.last hinv hout
    · split
      · refine (gives_gallop (fun a ha => (hanswers a ha y List.mem_cons_self).map _) _).bind
          fun count hborder => ?_
        split
        · next hdrop => exact h.row hinv hborder (hdrop ▸ h.firstDone (y :: ys))
        · next x' xs' hdrop =>
          have hlen : (x' :: xs').length ≤ (x :: xs).length :=
            hdrop ▸ (List.drop_sublist count (x :: xs)).length_le
          have hleft : inv (x' :: xs') (y :: ys) :=
            h.left hinv (hdrop ▸ List.drop_suffix count (x :: xs)) (List.suffix_refl _)
          have hgoes : second x' y = .ok true := eq_true_of_map_not (hborder.fails_of_drop hdrop)
          split
          · next out hout => exact h.row hinv hborder (hdrop ▸ h.last hleft hout)
          · have hrest := h.left hleft (List.suffix_refl _) (List.suffix_cons y ys)
            refine (h.takeRows hrest patience false count).bind fun r hr => ?_
            exact h.row hinv hborder (hdrop ▸ h.other hleft hgoes hr)
      · refine (gives_gallop (hanswers x List.mem_cons_self) _).bind fun count hborder => ?_
        split
        · next hdrop => exact h.otherRow hinv hborder (hdrop ▸ h.secondDone (x :: xs))
        · next y' ys' hdrop =>
          have hlen : (y' :: ys').length ≤ (y :: ys).length :=
            hdrop ▸ (List.drop_sublist count (y :: ys)).length_le
          have hleft : inv (x :: xs) (y' :: ys') :=
            h.left hinv (List.suffix_refl _) (hdrop ▸ List.drop_suffix count (y :: ys))
          have hstays : second x y' = .ok false := hborder.fails_of_drop hdrop
          have hput : ∀ {out : List α}, post xs (y' :: ys') out →
              post (x :: xs) (y :: ys) ((y :: ys).take count ++ x :: out) :=
            fun hout => h.otherRow hinv hborder (hdrop ▸ h.one hleft hstays hout)
          have hrest := h.left hleft (List.suffix_cons x xs) (List.suffix_refl _)
          split
          · next out hout => exact h.otherRow hinv hborder (hdrop ▸ h.last hleft hout)
          · match xs with
            | [] => exact hput (h.firstDone (y' :: ys'))
            | x' :: xs' =>
              dsimp only
              split
              · next out hout => exact hput (h.last hrest hout)
              · split
                · exact (h.takeRows hrest _ true 0).bind fun r hr => hput hr
                · exact (h.takeSingly hrest _ 0 0).bind fun r hr => hput hr
termination_by xs.length + ys.length
decreasing_by
  all_goals
    simp only [List.length_cons] at *
    omega

end

/-! ## The items -/

theorem perm_of_lastOrder (h : lastOrder fromEnd x xs y ys = some out) :
    out.Perm (x :: xs ++ y :: ys) := by
  unfold lastOrder at h
  split at h <;> split at h
  · next h₂ =>
    obtain rfl := List.isEmpty_iff.mp h₂
    cases h
    exact List.Perm.refl _
  · cases h
  · next h₂ =>
    obtain rfl := List.isEmpty_iff.mp h₂
    cases h
    exact List.perm_append_comm
  · cases h

/-- A row off the first list, in front of a merge of what it leaves. -/
theorem perm_row (count : Nat) (hout : out.Perm (xs.drop count ++ ys)) :
    (xs.take count ++ out).Perm (xs ++ ys) := by
  refine (hout.append_left _).trans ?_
  rw [← List.append_assoc, List.take_append_drop]

/-- Taking keeps the items of both lists. -/
theorem taking_perm (second : α → α → Except ε Bool) (fromEnd : Bool) (fails : ε → Prop) :
    Taking second fromEnd fails (fun xs ys => ∀ x ∈ xs, ∀ y ∈ ys, Answers fails (second x y))
      (fun xs ys out => out.Perm (xs ++ ys)) where
  left h hxs hys x hx y hy := h x (hxs.subset hx) y (hys.subset hy)
  answers h := h
  firstDone := List.Perm.refl
  secondDone xs := List.Perm.of_eq (List.append_nil xs).symm
  last _ := perm_of_lastOrder
  one _ _ hout := hout.cons _
  other _ _ hout := (hout.cons _).trans List.perm_middle.symm
  row _ _ := perm_row _
  otherRow _ _ hout :=
    (perm_row _ (hout.trans List.perm_append_comm)).trans List.perm_append_comm

end Taking

/-! ## Merging -/

variable {less : α → α → Except ε Bool}

/-- Lists that overlap are read from the front, with the first item of the second list put out
beforehand, or from the end, with the last item of the first list put out beforehand. -/
theorem gives_mergeBetween_of {patience : Nat} {P : List α → Prop} (hxs : ys = [] → P xs)
    (hys : xs = [] → P ys)
    (hfront : ∀ y rest, ys = y :: rest → Gives fails (fun r => P (y :: r.2))
      (takeSingly (fun x y => less y x) false patience 0 0 xs rest))
    (hback : ∀ x back, xs.reverse = x :: back → Gives fails (fun r => P (x :: r.2).reverse)
      (takeSingly (fun x y => (less y x).map (!·)) true patience 0 0 back ys.reverse)) :
    Gives fails (fun r => P r.2) (mergeBetween less patience xs ys) := by
  unfold mergeBetween
  split
  · rcases ys with _ | ⟨y, ys⟩
    · exact hxs rfl
    · exact (hfront y ys rfl).bind fun r hr => hr
  · split
    · next h => exact hys (List.reverse_eq_nil_iff.mp h)
    · next x back h => exact (hback x back h).bind fun r hr => hr

theorem gives_mergeBetween (hless : ∀ x ∈ xs, ∀ y ∈ ys, Answers fails (less y x))
    (patience : Nat) :
    Gives fails (fun r => r.2.Perm (xs ++ ys)) (mergeBetween less patience xs ys) := by
  refine gives_mergeBetween_of (P := fun out => out.Perm (xs ++ ys)) ?_ ?_ ?_ ?_
  · rintro rfl
    exact List.Perm.of_eq (List.append_nil xs).symm
  · rintro rfl
    exact List.Perm.refl _
  · rintro y ys rfl
    refine ((taking_perm _ false fails).takeSingly (fun a ha b hb => ?_) patience 0 0).mono
      fun r hr => (hr.cons y).trans List.perm_middle.symm
    exact hless a ha b (List.mem_cons_of_mem y hb)
  · intro x back h
    have hmem : ∀ a ∈ back, a ∈ xs :=
      fun a ha => List.mem_reverse.mp (h ▸ List.mem_cons_of_mem x ha)
    have hxs : (x :: back ++ ys.reverse).Perm (xs ++ ys) :=
      h ▸ (List.reverse_perm xs).append (List.reverse_perm ys)
    refine ((taking_perm _ true fails).takeSingly (fun a ha b hb => ?_) patience 0 0).mono
      fun r hr => (List.reverse_perm _).trans ((hr.cons x).trans hxs)
    exact (hless a (hmem a ha) b (List.mem_reverse.mp hb)).map _

theorem mergeBetween_nil (less : α → α → Except ε Bool) (patience : Nat) (xs : List α) :
    mergeBetween less patience xs [] = .ok (patience, xs) := by
  unfold mergeBetween
  split
  · rfl
  · split
    · next h =>
      rw [List.reverse_eq_nil_iff.mp h]
    · next x back h =>
      have hxs : (x :: back).reverse = xs := by rw [← h, List.reverse_reverse]
      have hback : ∀ second : α → α → Except ε Bool,
          takeSingly second true patience 0 0 back [] = .ok (patience, back) := by
        intro second
        cases back <;> simp [takeSingly]
      rw [List.reverse_nil, hback]
      show Except.ok (patience, (x :: back).reverse) = _
      rw [hxs]

/-- What a merge of two lists comes to.  Either all of the first list stays in front of the second
one, or what is between them is merged: the items of the first list that do not stay in front, and
the items of the second list that do not stay behind. -/
inductive Merges (less : α → α → Except ε Bool) (patience : Nat) (xs ys : List α) : List α → Prop
  | apart (hfront : ∀ y ∈ ys.head?, IsBorder (fun x => (less y x).map (!·)) xs xs.length) :
    Merges less patience xs ys (xs ++ ys)
  | between {front back patience' : Nat} {x y : α} {out : List α} (hhead : ys.head? = some y)
    (hfront : IsBorder (fun x => (less y x).map (!·)) xs front)
    (hlast : (xs.drop front).getLast? = some x)
    (hback : IsBorder (fun y => (less y x).map (!·)) ys.reverse back)
    (hout : mergeBetween less patience (xs.drop front) (ys.take (ys.length - back)) =
      .ok (patience', out)) :
    Merges less patience xs ys (xs.take front ++ out ++ ys.drop (ys.length - back))

theorem gives_merges (hless : ∀ x ∈ xs, ∀ y ∈ ys, Answers fails (less y x)) (patience : Nat) :
    Gives fails (fun r => Merges less patience xs ys r.2) (merge less patience xs ys) := by
  rcases ys with _ | ⟨y, ys⟩
  · simp only [merge, pure_bind, List.drop_length, List.getLast?_nil]
    exact .apart (by simp)
  unfold merge
  refine (gives_gallop (fun x hx => (hless x hx y List.mem_cons_self).map _) false).bind
    fun front hfront => ?_
  dsimp only
  split
  · next hnone =>
    rw [List.getLast?_eq_none_iff, List.drop_eq_nil_iff] at hnone
    obtain rfl := Nat.le_antisymm hfront.inside hnone
    refine .apart ?_
    rintro b ⟨⟩
    exact hfront
  · next x hx =>
    have hmem : x ∈ xs := List.mem_of_mem_drop (List.mem_of_getLast? hx)
    refine (gives_gallop (fun y' hy => ?_) true).bind fun back hback => ?_
    · exact (hless x hmem y' (List.mem_reverse.mp hy)).map _
    split
    · next hempty =>
      rw [List.isEmpty_iff] at hempty
      have hdrop := List.take_append_drop ((y :: ys).length - back) (y :: ys)
      rw [hempty, List.nil_append] at hdrop
      have hmerged : Merges less patience xs (y :: ys) _ :=
        .between rfl hfront hx hback (by rw [hempty, mergeBetween_nil])
      rwa [List.take_append_drop, hdrop] at hmerged
    · have hanswers : ∀ a ∈ xs.drop front, ∀ b ∈ (y :: ys).take ((y :: ys).length - back),
          Answers fails (less b a) :=
        fun a ha b hb => hless a (List.mem_of_mem_drop ha) b (List.mem_of_mem_take hb)
      exact (gives_mergeBetween hanswers patience).eq_ok.bind
        fun r hr => .between rfl hfront hx hback hr

/-- **A merge has the items of both lists, whatever the test says.**  It faults only if the test
does on an item of the second list and one of the first. -/
theorem gives_merge (hless : ∀ x ∈ xs, ∀ y ∈ ys, Answers fails (less y x))
    (patience : Nat) :
    Gives fails (fun r => r.2.Perm (xs ++ ys)) (merge less patience xs ys) := by
  refine (gives_merges hless patience).mono fun r hr => ?_
  generalize r.2 = merged at hr ⊢
  cases hr with
  | apart => exact List.Perm.refl _
  | @between front back _ x y out _ _ _ _ hout =>
    have hanswers : ∀ a ∈ xs.drop front, ∀ b ∈ ys.take (ys.length - back),
        Answers fails (less b a) :=
      fun a ha b hb => hless a (List.mem_of_mem_drop ha) b (List.mem_of_mem_take hb)
    have hperm : out.Perm _ := (gives_mergeBetween hanswers patience).of_eq_ok hout
    have hrest := hperm.append_right (ys.drop (ys.length - back))
    rw [List.append_assoc, List.take_append_drop] at hrest
    have hall := perm_row front hrest
    rwa [← List.append_assoc] at hall

end Sorting
end QueryDesk

/-! ## Merging by a test that makes sense

Two lists are merged by a test of what goes first.  When the test agrees with the order within each
list (`Weavable`), then it does not matter how many items are taken at once: item by item or by
rows, from the front or from the end, the result is that of the plain merge (`weave`).

A merge stops early where a single item is left of one list.  That is right because of what was left
alone before: the last item of the first list goes behind all of the second, and the first item of
the second list in front of all of the first.
-/

namespace QueryDesk
namespace Sorting

variable {α ε : Type} {second : α → α → Except ε Bool} {goes : α → α → Bool} {fromEnd : Bool}
  {x y : α} {xs ys : List α}

/-- The plain merge of two lists, given which items of the second go before which of the first. -/
def weave (goes : α → α → Bool) (xs ys : List α) : List α := xs.merge ys fun x y => !goes x y

/-- Says that a test makes sense of two lists: it answers on an item of each; if an item goes before
one of the other list, then the ones that are in order behind that do so, and those before it do;
and a single item that is left of a list goes where a merge puts it. -/
structure Weavable (second : α → α → Except ε Bool) (goes : α → α → Bool) (fromEnd : Bool)
    (xs ys : List α) : Prop where
  answers : ∀ x ∈ xs, ∀ y ∈ ys, second x y = .ok (goes x y)
  rises : ∀ y ∈ ys, xs.Pairwise fun a b => goes a y = true → goes b y = true
  falls : ∀ x ∈ xs, ys.Pairwise fun a b => goes x b = true → goes x a = true
  last : fromEnd = false → ∀ x ∈ xs.getLast?, ∀ y ∈ ys, goes x y = true
  first : fromEnd = true → ∀ y ∈ ys.getLast?, ∀ x ∈ xs, goes x y = false

theorem mem_getLast?_of_suffix {zs : List α} (h : zs <:+ xs) :
    ∀ z ∈ zs.getLast?, z ∈ xs.getLast? := by
  obtain ⟨front, rfl⟩ := h
  intro z hz
  rw [List.getLast?_append, Option.mem_def.mp hz]
  rfl

/-- What is left of the lists is as good as the lists. -/
theorem Weavable.of_suffix {xs' ys' : List α} (h : Weavable second goes fromEnd xs ys)
    (hxs : xs' <:+ xs) (hys : ys' <:+ ys) : Weavable second goes fromEnd xs' ys' where
  answers x hx y hy := h.answers x (hxs.subset hx) y (hys.subset hy)
  rises y hy := (h.rises y (hys.subset hy)).sublist hxs.sublist
  falls x hx := (h.falls x (hxs.subset hx)).sublist hys.sublist
  last hend x hx y hy := h.last hend x (mem_getLast?_of_suffix hxs x hx) y (hys.subset hy)
  first hend y hy x hx := h.first hend y (mem_getLast?_of_suffix hys y hy) x (hxs.subset hx)

/-! ### The plain merge -/

@[simp] theorem weave_nil_left : weave goes [] ys = ys := by simp [weave]

@[simp] theorem weave_nil_right : weave goes xs [] = xs := by simp [weave]

theorem weave_cons_of_goes (h : goes x y = true) :
    weave goes (x :: xs) (y :: ys) = y :: weave goes (x :: xs) ys := by
  simp [weave, h]

theorem weave_cons_of_not_goes (h : goes x y = false) :
    weave goes (x :: xs) (y :: ys) = x :: weave goes xs (y :: ys) := by
  simp [weave, h]

/-- A row of the first list that the next item of the second does not go before. -/
theorem weave_append_left {row : List α} (h : ∀ a ∈ row, goes a y = false) :
    weave goes (row ++ xs) (y :: ys) = row ++ weave goes xs (y :: ys) := by
  induction row with
  | nil => rfl
  | cons a row ih =>
    obtain ⟨ha, hrow⟩ := List.forall_mem_cons.mp h
    rw [List.cons_append, weave_cons_of_not_goes ha, ih hrow, List.cons_append]

/-- A row of the second list that goes before the next item of the first. -/
theorem weave_append_right {row : List α} (h : ∀ b ∈ row, goes x b = true) :
    weave goes (x :: xs) (row ++ ys) = row ++ weave goes (x :: xs) ys := by
  induction row with
  | nil => rfl
  | cons b row ih =>
    obtain ⟨hb, hrow⟩ := List.forall_mem_cons.mp h
    rw [List.cons_append, weave_cons_of_goes hb, ih hrow, List.cons_append]

/-- A single item that is left of a list is put where it goes. -/
theorem eq_weave_of_lastOrder {out : List α}
    (h : Weavable second goes fromEnd (x :: xs) (y :: ys))
    (hout : lastOrder fromEnd x xs y ys = some out) : out = weave goes (x :: xs) (y :: ys) := by
  unfold lastOrder at hout
  split at hout
  · next hend =>
    split at hout
    · next hys =>
      obtain rfl := List.isEmpty_iff.mp hys
      have hrow : ∀ a ∈ x :: xs, goes a y = false := h.first hend y rfl
      have hweave : weave goes (x :: xs ++ []) [y] = x :: xs ++ weave goes [] [y] :=
        weave_append_left hrow
      rw [List.append_nil, weave_nil_left] at hweave
      rw [hweave]
      exact (Option.some.inj hout).symm
    · cases hout
  · next hend =>
    split at hout
    · next hxs =>
      obtain rfl := List.isEmpty_iff.mp hxs
      have hrow : ∀ b ∈ y :: ys, goes x b = true :=
        h.last (Bool.eq_false_iff.mpr hend) x rfl
      have hweave : weave goes [x] (y :: ys ++ []) = y :: ys ++ weave goes [x] [] :=
        weave_append_right hrow
      rw [List.append_nil, weave_nil_right] at hweave
      rw [hweave]
      exact (Option.some.inj hout).symm
    · cases hout

/-! ### Taking items -/

/-- The items of the first list that stay in front of the next item of the second come next. -/
theorem weave_row {count : Nat} (h : Weavable second goes fromEnd (x :: xs) (y :: ys))
    (hborder : IsBorder (fun item => (second item y).map (!·)) (x :: xs) count) :
    (x :: xs).take count ++ weave goes ((x :: xs).drop count) (y :: ys) =
      weave goes (x :: xs) (y :: ys) := by
  have htest : ∀ a ∈ x :: xs, (second a y).map (!·) = .ok (!goes a y) := by
    intro a ha
    rw [h.answers a ha y List.mem_cons_self]
    rfl
  have hfront : (x :: xs).Pairwise fun a b => (!goes b y) = true → (!goes a y) = true :=
    (h.rises y List.mem_cons_self).imp fun {a b} hab hb => by
      cases hgoes : goes a y with
      | false => rfl
      | true => simp [hab hgoes] at hb
  have hrow : ∀ a ∈ (x :: xs).take count, goes a y = false := by
    simpa using (hborder.parts htest hfront).1
  rw [← weave_append_left hrow, List.take_append_drop]

/-- The items of the second list that go before the next item of the first come next. -/
theorem weave_otherRow {count : Nat} (h : Weavable second goes fromEnd (x :: xs) (y :: ys))
    (hborder : IsBorder (second x) (y :: ys) count) :
    (y :: ys).take count ++ weave goes (x :: xs) ((y :: ys).drop count) =
      weave goes (x :: xs) (y :: ys) := by
  have hrow := (hborder.parts (h.answers x List.mem_cons_self) (h.falls x List.mem_cons_self)).1
  rw [← weave_append_right hrow, List.take_append_drop]

/-- **Item by item and by rows the merge is the plain one.** -/
theorem taking_weave (second : α → α → Except ε Bool) (goes : α → α → Bool) (fromEnd : Bool) :
    Taking second fromEnd (fun _ => False) (Weavable second goes fromEnd)
      (fun xs ys out => out = weave goes xs ys) where
  left := Weavable.of_suffix
  answers h x hx y hy := by
    rw [h.answers x hx y hy]
    trivial
  firstDone _ := weave_nil_left.symm
  secondDone _ := weave_nil_right.symm
  last := eq_weave_of_lastOrder
  one {x y xs ys out} h hgoes hout := by
    have hanswer := h.answers x List.mem_cons_self y List.mem_cons_self
    rw [hout, weave_cons_of_not_goes (Except.ok.inj (hanswer.symm.trans hgoes))]
  other {x y xs ys out} h hgoes hout := by
    have hanswer := h.answers x List.mem_cons_self y List.mem_cons_self
    rw [hout, weave_cons_of_goes (Except.ok.inj (hanswer.symm.trans hgoes))]
  row h hborder hout := by rw [hout, weave_row h hborder]
  otherRow h hborder hout := by rw [hout, weave_otherRow h hborder]

end Sorting
end QueryDesk
