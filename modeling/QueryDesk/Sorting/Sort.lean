import QueryDesk.Sorting.Merge

/-!
# A stable sort that uses the order it finds

The list is cut into runs that are sorted already; a run that falls strictly is turned around, and
a run that is too short is extended by insertion.  Runs are merged two by two, and which two is
decided by the *power* of the border between neighbours: the depth at which a binary search over
the whole list first separates their midpoints.  A border waits until one of lesser power comes.

With an order that is consistent the result is the sorted list, equal items in their old order.
The test may also be inconsistent: then the result is some rearrangement, which one is fixed by the
rules given here, and it may fault, which ends the sort.
-/

set_option autoImplicit false

namespace QueryDesk
namespace Sorting

variable {α ε : Type}

/-! ## Runs -/

/-- The items that go on rising, or falling, behind an item, and the rest. -/
def continueRun (less : α → α → Except ε Bool) (falling : Bool) (previous : α) :
    List α → Except ε (List α × List α)
  | [] => .ok ([], [])
  | x :: rest => do
    if (← less x previous) == falling then
      let (run, rest) ← continueRun less falling x rest
      .ok (x :: run, rest)
    else .ok ([], x :: rest)

/-- The first run of a list, in rising order, and the rest. -/
def firstRun (less : α → α → Except ε Bool) (x : α) : List α → Except ε (List α × List α)
  | [] => .ok ([x], [])
  | y :: rest => do
    let falling ← less y x
    let (run, rest) ← continueRun less falling y rest
    .ok (if falling then (x :: y :: run).reverse else x :: y :: run, rest)

/-- Puts an item into a sorted list, behind its equals. -/
def insert (less : α → α → Except ε Bool) (x : α) (run : List α) : Except ε (List α) := do
  let place ← bisect false (fun y => (less x y).map (!·)) run 0 run.length
  .ok (run.take place ++ x :: run.drop place)

/-- Puts the items of a list into a sorted one, one after the other. -/
def insertAll (less : α → α → Except ε Bool) (run : List α) (items : List α) :
    Except ε (List α) :=
  items.foldlM (fun run x => insert less x run) run

/-- The length below which a run is extended, between 32 and 64 for a long list: its length divided
by a power of two, rounded up. -/
def shortRun (length : Nat) : Nat :=
  go length 0
where
  /-- Halves a number; `odd` is one if any digit dropped so far was one. -/
  go (n odd : Nat) : Nat :=
    if n < 64 then n + odd else go (n / 2) (max odd (n % 2))
  termination_by n

/-- The first run of a list, extended if it is too short, and the rest. -/
def firstLongRun (less : α → α → Except ε Bool) (short : Nat) (x : α) (rest : List α) :
    Except ε (List α × List α) := do
  let (run, rest) ← firstRun less x rest
  let more := short - run.length
  let run ← insertAll less run (rest.take more)
  .ok (run, rest.drop more)

/-! ## Merging runs -/

/-- The power of the border between two neighbouring runs, from twice their midpoints and the
length of the list: the first binary digit in which the two quotients differ. -/
def borderPower (length : Nat) : Nat → Nat → Nat → Nat
  | 0, _, _ => 1
  | tries + 1, a, b =>
    if length ≤ a then 1 + borderPower length tries (2 * (a - length)) (2 * (b - length))
    else if length ≤ b then 1
    else 1 + borderPower length tries (2 * a) (2 * b)

/-- A run that waits to be merged with the one behind it. -/
structure Waiting (α : Type) where
  items : List α
  /-- The power of the border behind it. -/
  power : Nat

/-- Merges a run with those in front of it, the nearest first, while their borders have more than
a given power. -/
def collapse (less : α → α → Except ε Bool) (power : Nat) :
    Nat → List (Waiting α) → List α → Except ε (Nat × List (Waiting α) × List α)
  | patience, [], run => .ok (patience, [], run)
  | patience, w :: waiting, run =>
    if power < w.power then do
      let (patience, run) ← merge less patience w.items run
      collapse less power patience waiting run
    else .ok (patience, w :: waiting, run)

/-- Merges the runs that are left, from the back, but a short run with the one in front of it
first. -/
def mergeRest (less : α → α → Except ε Bool) (patience : Nat) (waiting : List (List α))
    (run : List α) : Except ε (List α) :=
  match waiting with
  | [] => .ok run
  | [w] => do
    let (_, run) ← merge less patience w run
    .ok run
  | w :: v :: waiting =>
    if v.length < run.length then do
      let (patience, joined) ← merge less patience v w
      mergeRest less patience (joined :: waiting) run
    else do
      let (patience, run) ← merge less patience w run
      mergeRest less patience (v :: waiting) run
termination_by waiting.length

/-- Sorts what is left of a list, given its length, the short length of a run, the runs that wait,
and the run that ends at a place.  The count bounds the runs still to come. -/
def sortFrom (less : α → α → Except ε Bool) (length short : Nat) :
    Nat → Nat → List (Waiting α) → List α → Nat → List α → Except ε (List α)
  | 0, _, _, run, _, rest => .ok (run ++ rest)
  | tries + 1, patience, waiting, run, place, rest =>
    match rest with
    | [] => mergeRest less patience (waiting.map (·.items)) run
    | x :: rest => do
      let (next, rest) ← firstLongRun less short x rest
      -- Twice the midpoints of the two runs.
      let a := 2 * (place - run.length) + run.length
      let power := borderPower length length a (a + run.length + next.length)
      let (patience, waiting, run) ← collapse less power patience waiting run
      sortFrom less length short tries patience (⟨run, power⟩ :: waiting) next
        (place + next.length) rest

/-- Sorts a list by a test of what goes before what. -/
def sort (less : α → α → Except ε Bool) (items : List α) : Except ε (List α) :=
  match items with
  | [] => .ok []
  | x :: rest => do
    let short := shortRun items.length
    let (run, rest) ← firstLongRun less short x rest
    sortFrom less items.length short items.length leastGallop [] run run.length rest

end Sorting
end QueryDesk
