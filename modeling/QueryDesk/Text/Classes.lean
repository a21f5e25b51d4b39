import QueryDesk.Text.Glyph
import QueryDesk.Text.ClassTable

/-!
# Classes of glyphs

Blanks, word glyphs, digits and printable glyphs, for the whole of Unicode, with the trimming that
the blanks define.  The ASCII part of each class is spelled out; the rest comes from the tables.
-/

set_option autoImplicit false

namespace QueryDesk

namespace Glyph

/-- The code points that count as blank. -/
def blankCodes : List Nat :=
  [0x20, 0x9, 0xA, 0xB, 0xC, 0xD, 0x1C, 0x1D, 0x1E, 0x1F, 0x85, 0xA0, 0x1680, 0x2000, 0x2001,
    0x2002, 0x2003, 0x2004, 0x2005, 0x2006, 0x2007, 0x2008, 0x2009, 0x200A, 0x2028, 0x2029,
    0x202F, 0x205F, 0x3000]

/-- Tests for a blank: a space, a line end or another separator of words. -/
def isBlank (g : Glyph) : Bool := blankCodes.contains g.code

/-- Tests for an ASCII letter. -/
def isAsciiLetter (g : Glyph) : Bool :=
  match g with
  | .char c => c.isAlpha
  | .lone _ => false

/-- Tests for an ASCII digit. -/
def isAsciiDigit (g : Glyph) : Bool :=
  match g with
  | .char c => c.isDigit
  | .lone _ => false

/-- Tests for a glyph of a word: a letter, a digit, another number, or the low line. -/
def isWord (g : Glyph) : Bool :=
  match g with
  | .char c =>
    if c.toNat < 0x80 then c.isAlphanum || c == '_'
    else Text.turnedOn Text.alphanumericTurns c.toNat
  | .lone _ => false

/-- The value of a decimal digit of any script. -/
def digitValue? (g : Glyph) : Option Nat :=
  (Text.digitZeros.find? fun first => first ≤ g.code && g.code < first + 10).map (g.code - ·)

/-- Tests for a glyph that a quoted text shows as it is. -/
def isPrintable (g : Glyph) : Bool :=
  match g with
  | .char c =>
    if c.toNat < 0x80 then 0x20 ≤ c.toNat && c.toNat < 0x7F
    else !Text.turnedOn Text.unprintableTurns c.toNat
  | .lone _ => false

end Glyph

namespace Text

/-- The text without its leading blanks. -/
def trimStart (t : Text) : Text := t.dropWhile Glyph.isBlank

/-- The text without its trailing blanks. -/
def trimEnd (t : Text) : Text := t.dropEndWhile Glyph.isBlank

/-- The text without its outer blanks. -/
def trim (t : Text) : Text := t.trimStart.trimEnd

end Text

end QueryDesk
