import QueryDesk.Text.Glyph
import QueryDesk.Text.CaseTable

/-!
# Lower case, upper case and case folding

Each mapping replaces every glyph by one glyph or by a short text.  Folding is the lower case, but
for a few characters that fold elsewhere.

Two glyphs *agree without case* with a Latin letter when they are that letter in either case or
one of the four characters that Unicode pairs with it: the dotless and the dotted I, the long S and
the Kelvin sign.  Keywords of a statement are recognised that way.
-/

set_option autoImplicit false

namespace QueryDesk

namespace Glyph

/-- A code point moved by the first run that covers it. -/
def shiftCode? (shifts : List Text.Shift) (code : Nat) : Option Nat :=
  (shifts.find? (·.covers code)).map fun s => ((code : Int) + s.distance).toNat

/-- The text that a mapping makes of a code point, if the mapping moves it. -/
def mapCode? (specials : List (Nat × List Nat)) (shifts : List Text.Shift) (code : Nat) :
    Option Text :=
  match specials.find? (·.1 == code) with
  | some special => some (special.2.map ofCode)
  | none => (shiftCode? shifts code).map fun n => [ofCode n]

/-- The lower case of a glyph. -/
def lower (g : Glyph) : Text :=
  match g with
  | .char c =>
    if c.toNat < 0x80 then [.char c.toLower]
    else (mapCode? Text.lowerSpecials Text.lowerShifts c.toNat).getD [g]
  | .lone _ => [g]

/-- The upper case of a glyph. -/
def upper (g : Glyph) : Text :=
  match g with
  | .char c =>
    if c.toNat < 0x80 then [.char c.toUpper]
    else (mapCode? Text.upperSpecials Text.upperShifts c.toNat).getD [g]
  | .lone _ => [g]

/-- The folded form of a glyph. -/
def fold (g : Glyph) : Text :=
  match g with
  | .char c =>
    if c.toNat < 0x80 then [.char c.toLower]
    else (mapCode? Text.foldSpecials Text.foldShifts c.toNat).getD g.lower
  | .lone _ => [g]

/-- Tests that a glyph is a given lower-case letter, digit or sign when case is left aside. -/
def agrees (g : Glyph) (c : Char) : Bool :=
  match g with
  | .char d =>
    d.toLower == c ||
      match c with
      | 'i' => d == '\u0130' || d == '\u0131'
      | 's' => d == '\u017F'
      | 'k' => d == '\u212A'
      | _ => false
  | .lone _ => false

end Glyph

namespace Text

/-- The text in lower case, each glyph for itself, whatever stands around it. -/
def lower (t : Text) : Text := t.flatMap Glyph.lower

/-- The text with its ASCII letters in lower case. -/
def asciiLower (t : Text) : Text :=
  t.map fun
    | .char c => .char c.toLower
    | .lone half => .lone half

/-- The text in upper case. -/
def upper (t : Text) : Text := t.flatMap Glyph.upper

/-- The text with differences of case removed. -/
def fold (t : Text) : Text := t.flatMap Glyph.fold

end Text

end QueryDesk
