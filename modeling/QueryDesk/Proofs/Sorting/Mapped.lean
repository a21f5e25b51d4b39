import Mathlib.Tactic.SplitIfs
import QueryDesk.Sorting.Sort
import QueryDesk.Proofs.Results

/-!
# Sorting what stands for something else

Searching, merging and sorting look at the items of a list through their test alone.  So a list of
items that stand for others is sorted just as the others are, by what the test says of the items
that stand for them (`sort_map`): the items may be anything, and the test may be inconsistent or may
fault.
-/

set_option autoImplicit false

namespace QueryDesk
namespace Sorting

variable {α β γ δ ε : Type} (f : α → β)

/-! ## Searching -/

theorem bisect_map (fromEnd : Bool) (test : β → Except ε Bool) (xs : List α) (low size : Nat) :
    bisect fromEnd test (xs.map f) low size = bisect fromEnd (fun x => test (f x)) xs low size := by
  fun_induction bisect fromEnd (fun x => test (f x)) xs low size with
  | case1 low => rw [bisect, dif_pos rfl]
  | case2 low size h probe hnone =>
    have hfound : (xs.map f)[low + if fromEnd then size - 1 - size / 2 else size / 2]? = none := by
      rw [List.getElem?_map]
      exact congrArg (Option.map f) hnone
    rw [bisect, dif_neg h]
    dsimp only
    rw [hfound]
  | case3 low size h probe x hx ih₁ ih₂ =>
    have hfound : (xs.map f)[low + if fromEnd then size - 1 - size / 2 else size / 2]? =
        some (f x) := by
      rw [List.getElem?_map]
      exact congrArg (Option.map f) hx
    rw [bisect, dif_neg h]
    dsimp only
    rw [hfound]
    exact congrArg (test (f x) >>= ·) (funext fun passes => by cases passes <;> assumption)

theorem reach_map (test : β → Except ε Bool) (xs : List α) (last next : Nat) :
    reach test (xs.map f) last next = reach (fun x => test (f x)) xs last next := by
  fun_induction reach (fun x => test (f x)) xs last next with
  | case1 last next h ih =>
    rw [reach, dif_pos (by simpa using h)]
    simp only [List.getElem_map, ih]
  | case2 last next h =>
    rw [reach, dif_neg (by simpa using h), List.length_map]

theorem gallop_map (fromEnd : Bool) (test : β → Except ε Bool) (xs : List α) :
    gallop fromEnd test (xs.map f) = gallop fromEnd (fun x => test (f x)) xs := by
  rcases xs with _ | ⟨x, xs⟩
  · rfl
  · rw [gallop, List.map_cons, gallop, ← List.map_cons]
    simp only [reach_map, bisect_map]

/-! ## Merging -/

/-- Says what stands for the result of a merge. -/
def mapMerged (r : Nat × List α) : Nat × List β := (r.1, r.2.map f)

theorem lastOrder_map (fromEnd : Bool) (x : α) (xs : List α) (y : α) (ys : List α) :
    lastOrder fromEnd (f x) (xs.map f) (f y) (ys.map f) =
      (lastOrder fromEnd x xs y ys).map (List.map f) := by
  rw [lastOrder, lastOrder, List.isEmpty_map, List.isEmpty_map]
  split_ifs <;> simp

/-- A row off a list, in front of what stands for other items. -/
theorem ok_take_append_map (items : List α) (count patience : Nat) (rest : List α) :
    (.ok (patience, (items.map f).take count ++ rest.map f) : Except ε (Nat × List β)) =
      (.ok (patience, items.take count ++ rest) : Except ε (Nat × List α)).map (mapMerged f) := by
  rw [← List.map_take, ← List.map_append]
  rfl

/-- What is done with the items that a row leaves. -/
theorem match_drop_map {g : γ → δ} (items : List α) (count : Nat) {done : Except ε γ}
    {done' : Except ε δ} {more : α → List α → Except ε γ} {more' : β → List β → Except ε δ}
    (hdone : done' = done.map g)
    (hmore : ∀ a as, items.drop count = a :: as → more' (f a) (as.map f) = (more a as).map g) :
    (match _h : (items.map f).drop count with
      | [] => done'
      | b :: bs => more' b bs) =
      (match _h : items.drop count with
        | [] => done
        | a :: as => more a as).map g := by
  rw [← List.map_drop]
  rcases h : items.drop count with _ | ⟨a, as⟩
  · exact hdone
  · exact hmore a as h

section Weave

variable (second : β → β → Except ε Bool) (fromEnd : Bool)

mutual

theorem takeSingly_map (patience firstRow secondRow : Nat) (xs ys : List α) :
    takeSingly second fromEnd patience firstRow secondRow (xs.map f) (ys.map f) =
      (takeSingly (fun a b => second (f a) (f b)) fromEnd patience firstRow secondRow xs ys).map
        (mapMerged f) := by
  match xs, ys with
  | [], ys => simp [takeSingly, Except.map, mapMerged]
  | x :: xs, [] => simp [takeSingly, Except.map, mapMerged]
  | x :: xs, y :: ys =>
    rw [List.map_cons, List.map_cons, takeSingly, takeSingly, lastOrder_map]
    cases lastOrder fromEnd x xs y ys with
    | some out => rfl
    | none =>
      refine Except.bind_eq_map_right fun goes => ?_
      split_ifs
      · exact Except.bind_eq_map (takeRows_map patience true 0 (x :: xs) ys) fun r => rfl
      · exact Except.bind_eq_map (takeSingly_map patience 0 (secondRow + 1) (x :: xs) ys)
          fun r => rfl
      · exact Except.bind_eq_map (takeRows_map patience true 0 xs (y :: ys)) fun r => rfl
      · exact Except.bind_eq_map (takeSingly_map patience (firstRow + 1) 0 xs (y :: ys))
          fun r => rfl
termination_by xs.length + ys.length

theorem takeRows_map (patience : Nat) (ofFirst : Bool) (earlier : Nat) (xs ys : List α) :
    takeRows second fromEnd patience ofFirst earlier (xs.map f) (ys.map f) =
      (takeRows (fun a b => second (f a) (f b)) fromEnd patience ofFirst earlier xs ys).map
        (mapMerged f) := by
  match xs, ys with
  | [], ys => simp [takeRows, Except.map, mapMerged]
  | x :: xs, [] => simp [takeRows, Except.map, mapMerged]
  | x :: xs, y :: ys =>
    rw [List.map_cons, List.map_cons, takeRows, takeRows, lastOrder_map]
    cases lastOrder fromEnd x xs y ys with
    | some out => rfl
    | none =>
      dsimp only [Option.map_none]
      split
      · have hgallop : gallop fromEnd (fun b => (second b (f y)).map (!·)) (f x :: xs.map f) = _ :=
          gallop_map f fromEnd _ (x :: xs)
        rw [hgallop]
        refine Except.bind_eq_map_right fun count => ?_
        have hrow := ok_take_append_map (ε := ε) f (x :: xs) count
        refine match_drop_map f (x :: xs) count (hrow _ (y :: ys)) fun a as hleft => ?_
        have hlen : (a :: as).length ≤ (x :: xs).length :=
          hleft ▸ (List.drop_sublist count (x :: xs)).length_le
        rw [lastOrder_map]
        cases lastOrder fromEnd a as y ys with
        | some out => exact hrow _ out
        | none =>
          exact Except.bind_eq_map (takeRows_map patience false count (a :: as) ys) fun r =>
            hrow _ (y :: r.2)
      · have hgallop : gallop fromEnd (second (f x)) (f y :: ys.map f) = _ :=
          gallop_map f fromEnd _ (y :: ys)
        rw [hgallop]
        refine Except.bind_eq_map_right fun count => ?_
        have hrow := ok_take_append_map (ε := ε) f (y :: ys) count
        refine match_drop_map f (y :: ys) count (hrow _ (x :: xs)) fun b bs hleft => ?_
        have hlen : (b :: bs).length ≤ (y :: ys).length :=
          hleft ▸ (List.drop_sublist count (y :: ys)).length_le
        rw [lastOrder_map]
        cases lastOrder fromEnd x xs b bs with
        | some out => exact hrow _ out
        | none =>
          rcases xs with _ | ⟨a, as⟩
          · exact hrow _ (x :: b :: bs)
          simp only [List.map_cons, Option.map_none, lastOrder_map]
          cases lastOrder fromEnd a as b bs with
          | some out => exact hrow _ (x :: out)
          | none =>
            dsimp only [Option.map_none]
            split_ifs
            · exact Except.bind_eq_map (takeRows_map _ true 0 (a :: as) (b :: bs)) fun r =>
                hrow _ (x :: r.2)
            · exact Except.bind_eq_map (takeSingly_map _ 0 0 (a :: as) (b :: bs)) fun r =>
                hrow _ (x :: r.2)
termination_by xs.length + ys.length
decreasing_by all_goals (simp only [List.length_cons] at *; omega)

end

end Weave

section Less

variable (less : β → β → Except ε Bool)

theorem mergeBetween_map (patience : Nat) (xs ys : List α) :
    mergeBetween less patience (xs.map f) (ys.map f) =
      (mergeBetween (fun a b => less (f a) (f b)) patience xs ys).map (mapMerged f) := by
  unfold mergeBetween
  rw [List.length_map, List.length_map]
  split_ifs
  · rcases ys with _ | ⟨y, ys⟩
    · rfl
    · exact Except.bind_eq_map (takeSingly_map f _ false patience 0 0 xs ys) fun r => rfl
  · rw [← List.map_reverse, ← List.map_reverse]
    rcases xs.reverse with _ | ⟨x, back⟩
    · rfl
    · refine Except.bind_eq_map (takeSingly_map f _ true patience 0 0 back ys.reverse) fun r => ?_
      simp [Except.map, mapMerged]

theorem merge_map (patience : Nat) (xs ys : List α) :
    merge less patience (xs.map f) (ys.map f) =
      (merge (fun a b => less (f a) (f b)) patience xs ys).map (mapMerged f) := by
  rcases ys with _ | ⟨y, ys⟩
  · simp only [merge, pure_bind, List.map_nil, List.drop_length, List.getLast?_nil, Except.map,
      mapMerged, List.append_nil]
  unfold merge
  simp only [List.map_cons]
  rw [gallop_map f false _ xs, ← List.map_cons]
  refine Except.bind_eq_map_right fun front => ?_
  rw [← List.map_drop, List.getLast?_map]
  cases (xs.drop front).getLast? with
  | none => simp [Except.map, mapMerged]
  | some x =>
    dsimp only [Option.map_some]
    rw [← List.map_reverse, gallop_map f true _ (y :: ys).reverse]
    refine Except.bind_eq_map_right fun back => ?_
    rw [List.length_map, ← List.map_take, List.isEmpty_map]
    split_ifs
    · simp [Except.map, mapMerged]
    · refine Except.bind_eq_map (mergeBetween_map f less patience _ _) fun r => ?_
      simp [Except.map, mapMerged]

/-! ## Runs -/

/-- Says what stands for a part of a list and the rest. -/
def mapParts (r : List α × List α) : List β × List β := (r.1.map f, r.2.map f)

theorem continueRun_map (falling : Bool) (previous : α) (items : List α) :
    continueRun less falling (f previous) (items.map f) =
      (continueRun (fun a b => less (f a) (f b)) falling previous items).map (mapParts f) := by
  induction items generalizing previous with
  | nil => rfl
  | cons x rest ih =>
    refine Except.bind_eq_map_right fun goes => ?_
    split_ifs
    · exact Except.bind_eq_map (ih x) fun r => rfl
    · rfl

theorem firstRun_map (x : α) (items : List α) :
    firstRun less (f x) (items.map f) =
      (firstRun (fun a b => less (f a) (f b)) x items).map (mapParts f) := by
  rcases items with _ | ⟨y, rest⟩
  · rfl
  · refine Except.bind_eq_map_right fun falling => ?_
    refine Except.bind_eq_map (continueRun_map f less falling y rest) fun r => ?_
    cases falling <;> simp [Except.map, mapParts]

theorem insert_map (x : α) (run : List α) :
    insert less (f x) (run.map f) =
      (insert (fun a b => less (f a) (f b)) x run).map (List.map f) := by
  rw [insert, bisect_map, List.length_map]
  refine Except.bind_eq_map_right fun place => ?_
  simp [Except.map]

theorem insertAll_map (run items : List α) :
    insertAll less (run.map f) (items.map f) =
      (insertAll (fun a b => less (f a) (f b)) run items).map (List.map f) := by
  induction items generalizing run with
  | nil => rfl
  | cons x items ih => exact Except.bind_eq_map (insert_map f less x run) ih

theorem firstLongRun_map (short : Nat) (x : α) (rest : List α) :
    firstLongRun less short (f x) (rest.map f) =
      (firstLongRun (fun a b => less (f a) (f b)) short x rest).map (mapParts f) := by
  refine Except.bind_eq_map (firstRun_map f less x rest) fun r => ?_
  simp only [mapParts, List.length_map, ← List.map_take, ← List.map_drop]
  exact Except.bind_eq_map (insertAll_map f less _ _) fun run => rfl

/-! ## Merging runs -/

/-- Says what stands for a run that waits. -/
def Waiting.map (w : Waiting α) : Waiting β := ⟨w.items.map f, w.power⟩

theorem collapse_map (power patience : Nat) (waiting : List (Waiting α)) (run : List α) :
    collapse less power patience (waiting.map (Waiting.map f)) (run.map f) =
      (collapse (fun a b => less (f a) (f b)) power patience waiting run).map fun r =>
        (r.1, r.2.1.map (Waiting.map f), r.2.2.map f) := by
  induction waiting generalizing patience run with
  | nil => rfl
  | cons w waiting ih =>
    rw [List.map_cons, collapse, collapse]
    show (if power < w.power then _ else _) = _
    split_ifs
    · exact Except.bind_eq_map (merge_map f less patience w.items run) fun r => ih r.1 r.2
    · rfl

theorem mergeRest_map (patience : Nat) (waiting : List (List α)) (run : List α) :
    mergeRest less patience (waiting.map (List.map f)) (run.map f) =
      (mergeRest (fun a b => less (f a) (f b)) patience waiting run).map (List.map f) := by
  match waiting with
  | [] => simp [mergeRest, Except.map]
  | [w] =>
    rw [List.map_cons, List.map_nil, mergeRest, mergeRest]
    exact Except.bind_eq_map (merge_map f less patience w run) fun r => rfl
  | w :: v :: waiting =>
    rw [List.map_cons, List.map_cons, mergeRest, mergeRest, List.length_map, List.length_map]
    split_ifs
    · refine Except.bind_eq_map (merge_map f less patience v w) fun r => ?_
      exact mergeRest_map r.1 (r.2 :: waiting) run
    · refine Except.bind_eq_map (merge_map f less patience w run) fun r => ?_
      exact mergeRest_map r.1 (v :: waiting) r.2
termination_by waiting.length

theorem sortFrom_map (length short tries patience : Nat) (waiting : List (Waiting α))
    (run : List α) (place : Nat) (rest : List α) :
    sortFrom less length short tries patience (waiting.map (Waiting.map f)) (run.map f) place
        (rest.map f) =
      (sortFrom (fun a b => less (f a) (f b)) length short tries patience waiting run place
        rest).map (List.map f) := by
  induction tries generalizing patience waiting run place rest with
  | zero => simp [sortFrom, Except.map]
  | succ tries ih =>
    rcases rest with _ | ⟨x, rest⟩
    · have hitems : (waiting.map (Waiting.map f)).map (·.items) =
          (waiting.map (·.items)).map (List.map f) := by
        rw [List.map_map, List.map_map]; rfl
      rw [List.map_nil, sortFrom, sortFrom, hitems]
      exact mergeRest_map f less patience _ run
    · refine Except.bind_eq_map (firstLongRun_map f less short x rest) fun r => ?_
      simp only [mapParts, List.length_map]
      exact Except.bind_eq_map (collapse_map f less _ patience waiting run) fun s =>
        ih s.1 (⟨s.2.2, _⟩ :: s.2.1) r.1 _ r.2

/-- Sorting looks at what the items stand for through the test alone. -/
theorem sort_map (items : List α) :
    sort less (items.map f) = (sort (fun a b => less (f a) (f b)) items).map (List.map f) := by
  rcases items with _ | ⟨x, rest⟩
  · rfl
  · rw [List.map_cons, sort, sort, ← List.map_cons, List.length_map]
    refine Except.bind_eq_map (firstLongRun_map f less _ x rest) fun r => ?_
    have := sortFrom_map f less (x :: rest).length (shortRun (x :: rest).length)
      (x :: rest).length leastGallop [] r.1 r.1.length r.2
    simpa [mapParts] using this

end Less

/-- Two tests that say the same of the items of a list sort it in the same way. -/
theorem sort_congr {less less' : α → α → Except ε Bool} {items : List α}
    (h : ∀ a ∈ items, ∀ b ∈ items, less a b = less' a b) : sort less items = sort less' items := by
  have hless : (fun a b : { a // a ∈ items } => less a.1 b.1) = fun a b => less' a.1 b.1 :=
    funext fun a => funext fun b => h a.1 a.2 b.1 b.2
  rw [← List.attach_map_subtype_val items, sort_map, sort_map, hless]

end Sorting
end QueryDesk
