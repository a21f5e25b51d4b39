import QueryDesk.Text.Classes

/-!
# Literals of a statement

A literal stands between two single or two double quotes, and nothing inside it counts except the
quote that ends it; a literal without an end runs to the end of the statement.  `after` is the one
rule of where literals begin and end, and all readers of statements go by it.

`mask` puts a low line for every glyph inside a literal.  The length of the statement, its quotes
and all that stands outside literals stay, so that a clause can be looked for in the masked text
and cut out of the statement itself.
-/

set_option autoImplicit false

namespace QueryDesk
namespace Literal

/-- Tests for a glyph that begins a literal. -/
def isQuote (g : Glyph) : Bool := g.isOneOf ['\'', '"']

/-- The quote of the literal that is open behind a glyph, given the one open before it. -/
def after (opened : Option Glyph) (g : Glyph) : Option Glyph :=
  match opened with
  | some quote => if g = quote then none else some quote
  | none => if isQuote g then some g else none

/-- Tests that a glyph belongs to the content of the literal that is open before it. -/
def isContent (opened : Option Glyph) (g : Glyph) : Bool :=
  match opened with
  | some quote => g ≠ quote
  | none => false

/-- What takes the place of the content of literals. -/
def filler : Glyph := .char '_'

/-- Masks a text, given the literal that is open before it. -/
def maskFrom (opened : Option Glyph) : Text → Text
  | [] => []
  | g :: rest => (if isContent opened g then filler else g) :: maskFrom (after opened g) rest

/-- The statement with the content of its literals masked. -/
def mask (t : Text) : Text := maskFrom none t

theorem length_maskFrom (opened : Option Glyph) (t : Text) :
    (maskFrom opened t).length = t.length := by
  induction t generalizing opened with
  | nil => rfl
  | cons g rest ih => simp [maskFrom, ih]

theorem length_mask (t : Text) : (mask t).length = t.length := length_maskFrom none t

end Literal
end QueryDesk
