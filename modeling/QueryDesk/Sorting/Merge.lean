import QueryDesk.Sorting.Search

/-!
# Merging two sorted lists

`merge` joins two neighbouring sorted lists into one, the items of the first before equal items of
the second.  What already stands in its place at either end is left alone; the rest is taken item
by item from the fronts of both lists, or from their ends if the second list is the shorter one.

When one list gives many items in a row, the merge goes over to galloping: it looks for the number
of items that one list can give at once, then for those of the other, as long as that pays.
`patience` is how many items in a row start it, and it is handed from merge to merge.
-/

set_option autoImplicit false

namespace QueryDesk
namespace Sorting

variable {α ε : Type}

/-- The run of items from which galloping pays. -/
def leastGallop : Nat := 7

section Weave

-- Tests that an item of the second list goes before one of the first.
variable (second : α → α → Except ε Bool)
-- Says that both lists are read from their ends.
variable (fromEnd : Bool)

/-- What is put out at last, when one of the lists has a single item left: read from the front, the
last item of the first list goes behind all of the second; read from the end, the last item of the
second goes behind all of the first. -/
def lastOrder (x : α) (xs : List α) (y : α) (ys : List α) : Option (List α) :=
  if fromEnd then (if ys.isEmpty then some (x :: xs ++ [y]) else none)
  else if xs.isEmpty then some (y :: ys ++ [x]) else none

mutual

/-- Takes items one by one.  The counts say how many the first or the second list gave in a row;
the result has the patience for the next merge and the items. -/
def takeSingly (patience firstRow secondRow : Nat) (xs ys : List α) : Except ε (Nat × List α) :=
  match xs, ys with
  | x :: xs, y :: ys =>
    match lastOrder fromEnd x xs y ys with
    | some out => .ok (patience, out)
    | none => do
      if ← second x y then
        let (patience, out) ←
          if patience ≤ secondRow + 1 then takeRows patience true 0 (x :: xs) ys
          else takeSingly patience 0 (secondRow + 1) (x :: xs) ys
        .ok (patience, y :: out)
      else
        let (patience, out) ←
          if patience ≤ firstRow + 1 then takeRows patience true 0 xs (y :: ys)
          else takeSingly patience (firstRow + 1) 0 xs (y :: ys)
        .ok (patience, x :: out)
  | xs, ys => .ok (patience, xs ++ ys)
termination_by xs.length + ys.length

/-- Takes many items at once, of the first or of the second list, and one of the other.  Galloping
ends when neither of the two turns gave many; patience changes only if the merge goes on. -/
def takeRows (patience : Nat) (ofFirst : Bool) (earlier : Nat) (xs ys : List α) :
    Except ε (Nat × List α) :=
  match xs, ys with
  | x :: xs, y :: ys =>
    match lastOrder fromEnd x xs y ys with
    | some out => .ok (patience, out)
    | none =>
      if ofFirst then do
        let count ← gallop fromEnd (fun item => (second item y).map (!·)) (x :: xs)
        let row := (x :: xs).take count
        match _h : (x :: xs).drop count with
        | [] => .ok (patience, row ++ y :: ys)
        | x' :: xs' =>
          match lastOrder fromEnd x' xs' y ys with
          | some out => .ok (patience, row ++ out)
          | none =>
            let (patience, out) ← takeRows patience false count (x' :: xs') ys
            .ok (patience, row ++ y :: out)
      else do
        let count ← gallop fromEnd (second x) (y :: ys)
        let row := (y :: ys).take count
        match _h : (y :: ys).drop count with
        | [] => .ok (patience, row ++ x :: xs)
        | y' :: ys' =>
          match lastOrder fromEnd x xs y' ys' with
          | some out => .ok (patience, row ++ out)
          | none =>
            match xs with
            | [] => .ok (patience, row ++ x :: y' :: ys')
            | x' :: xs' =>
              match lastOrder fromEnd x' xs' y' ys' with
              | some out => .ok (patience, row ++ x :: out)
              | none =>
                let (patience, out) ←
                  if leastGallop ≤ earlier ∨ leastGallop ≤ count then
                    takeRows (max 1 (patience - 1)) true 0 (x' :: xs') (y' :: ys')
                  else takeSingly (patience + 1) 0 0 (x' :: xs') (y' :: ys')
                .ok (patience, row ++ x :: out)
  | xs, ys => .ok (patience, xs ++ ys)
termination_by xs.length + ys.length
decreasing_by
  all_goals
    have := congrArg List.length _h
    simp only [List.length_drop, List.length_cons] at *
    omega

end

end Weave

/-- Joins two sorted lists that are not empty. -/
def mergeBetween (less : α → α → Except ε Bool) (patience : Nat) (xs ys : List α) :
    Except ε (Nat × List α) :=
  if xs.length ≤ ys.length then
    match ys with
    | [] => .ok (patience, xs)
    | y :: ys => do
      let (patience, out) ← takeSingly (fun x y => less y x) false patience 0 0 xs ys
      .ok (patience, y :: out)
  else
    match xs.reverse with
    | [] => .ok (patience, ys)
    | x :: back => do
      let (patience, out) ←
        takeSingly (fun x y => (less y x).map (!·)) true patience 0 0 back ys.reverse
      .ok (patience, (x :: out).reverse)

/-- Joins two sorted lists; the result has the patience for the next merge and the joined list. -/
def merge (less : α → α → Except ε Bool) (patience : Nat) (xs ys : List α) :
    Except ε (Nat × List α) := do
  let front ← match ys with
    | [] => pure xs.length
    | y :: _ => gallop false (fun x => (less y x).map (!·)) xs
  match (xs.drop front).getLast? with
  | none => .ok (patience, xs ++ ys)
  | some x =>
    let back ← gallop true (fun y => (less y x).map (!·)) ys.reverse
    let middle := ys.take (ys.length - back)
    if middle.isEmpty then .ok (patience, xs ++ ys)
    else
      let (patience, out) ← mergeBetween less patience (xs.drop front) middle
      .ok (patience, xs.take front ++ out ++ ys.drop (ys.length - back))

end Sorting
end QueryDesk
