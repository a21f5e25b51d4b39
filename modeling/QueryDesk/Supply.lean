/-!
# Supplies

A supply hands out readings one after the other, for instance those of a clock; the last reading
is handed out over and over.
-/

set_option autoImplicit false

namespace QueryDesk

/-- Readings to take one after the other. -/
structure Supply (α : Type) where
  current : α
  later : List α

namespace Supply

variable {α : Type}

/-- The supply of a list, or of one reading if the list is empty. -/
def ofList (otherwise : α) : List α → Supply α
  | [] => ⟨otherwise, []⟩
  | x :: rest => ⟨x, rest⟩

/-- Takes a reading. -/
def take (s : Supply α) : α × Supply α :=
  (s.current, match s.later with
    | [] => s
    | x :: rest => ⟨x, rest⟩)

end Supply
end QueryDesk
