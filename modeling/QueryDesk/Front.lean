/-!
# The front of a list

The first items of a list, by a count that may be negative.
-/

set_option autoImplicit false

namespace QueryDesk

/-- The first items of a list, so many of them; a negative count drops as many at the end. -/
def takeFront {α : Type} (count : Int) (items : List α) : List α :=
  match count with
  | .ofNat n => items.take n
  | .negSucc n => items.take (items.length - (n + 1))

end QueryDesk
