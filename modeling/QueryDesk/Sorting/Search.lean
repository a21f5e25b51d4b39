/-!
# Searching a list for a place

Given a test on the items of a list, `bisect` and `gallop` look for a place that the items before
it pass and the items behind it fail.  In a list where all items that pass stand before all that
fail there is one such place and both find it.  In any other list several places will do, and the
one that is found depends on which items are tried: `bisect` tries the middle of a window, `gallop`
first tries the items 0, 1, 3, 7, … and then the middle of what lies between its last two.

A list may be read from its far end: then `fromEnd` says that the middle of an even window lies on
the other side.  The test may fault, and then the search does.
-/

set_option autoImplicit false

namespace QueryDesk
namespace Sorting

variable {α ε : Type}

/-- The place in a window of a list, given by its first place and its size. -/
def bisect (fromEnd : Bool) (test : α → Except ε Bool) (xs : List α) (low size : Nat) :
    Except ε Nat :=
  if _h : size = 0 then .ok low
  else
    let probe := if fromEnd then size - 1 - size / 2 else size / 2
    match xs[low + probe]? with
    | none => .ok low
    | some x => do
      if ← test x then bisect fromEnd test xs (low + probe + 1) (size - probe - 1)
      else bisect fromEnd test xs low probe
termination_by size
decreasing_by
  · omega
  · split <;> omega

/-- Tries items further and further on: the last item found to pass and the next one tried, which
fails or lies behind the list. -/
def reach (test : α → Except ε Bool) (xs : List α) (last next : Nat) : Except ε (Nat × Nat) :=
  if h : next < xs.length then do
    if ← test xs[next] then reach test xs next (2 * next + 1) else .ok (last, next)
  else .ok (last, xs.length)
termination_by xs.length - next

/-- The place in a list, looked for from its front. -/
def gallop (fromEnd : Bool) (test : α → Except ε Bool) (xs : List α) : Except ε Nat :=
  match xs with
  | [] => .ok 0
  | x :: _ => do
    if ← test x then
      let (last, next) ← reach test xs 0 1
      bisect fromEnd test xs (last + 1) (next - last - 1)
    else .ok 0

end Sorting
end QueryDesk
