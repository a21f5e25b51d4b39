/-!
# Glyphs and texts

A `Text` is a list of `Glyph`s: Unicode characters, or halves of a surrogate pair that stand
alone.  A lone half is no character, yet the escape `\ud800` of a model's answer denotes one, it
travels through questions and rows like any character, and it fails only where bytes are written.
So texts admit it from the start.

`Text.of` turns a string constant into a text; the order of texts is that of their code points.
-/

set_option autoImplicit false

namespace QueryDesk

/-- One unit of a text: a character, or half of a surrogate pair without its other half. -/
inductive Glyph
  | char (c : Char)
  | lone (half : Fin 0x800)
  deriving DecidableEq, Repr

/-- A text is the list of its glyphs. -/
abbrev Text := List Glyph

instance : Coe Char Glyph := ⟨Glyph.char⟩

instance : Inhabited Glyph := ⟨.char ' '⟩

namespace Glyph

/-- The code point of a glyph. -/
def code : Glyph → Nat
  | .char c => c.toNat
  | .lone half => 0xD800 + half

/-- The glyph of a code point; a number that is no code point gives U+FFFD. -/
def ofCode (n : Nat) : Glyph :=
  if n.isValidChar then .char (Char.ofNat n)
  else if 0xD800 ≤ n ∧ n < 0xE000 then .lone (Fin.ofNat 0x800 (n - 0xD800))
  else .char '\uFFFD'

/-- Tests that a glyph is half of a surrogate pair. -/
def isLone : Glyph → Bool
  | .char _ => false
  | .lone _ => true

/-- Tests that a glyph is the first half of a surrogate pair. -/
def isFirstHalf : Glyph → Bool
  | .char _ => false
  | .lone half => half < 0x400

/-- Tests that a glyph is the second half of a surrogate pair. -/
def isSecondHalf : Glyph → Bool
  | .char _ => false
  | .lone half => 0x400 ≤ half

/-- Tests that a glyph is one of the given characters. -/
def isOneOf (g : Glyph) (cs : List Char) : Bool :=
  match g with
  | .char c => cs.contains c
  | .lone _ => false

instance : Ord Glyph := ⟨fun a b => compare a.code b.code⟩

end Glyph

namespace Text

/-- The text of a string constant. -/
def of (s : String) : Text := s.toList.map .char

instance : Coe String Text := ⟨of⟩

/-- The text without its lone halves, as a string. -/
def toString (t : Text) : String :=
  String.ofList (t.filterMap fun
    | .char c => some c
    | .lone _ => none)

/-- Tests that one text occurs somewhere in another. -/
def occursIn (part : Text) : Text → Bool
  | [] => part.isEmpty
  | g :: rest => part.isPrefixOf (g :: rest) || occursIn part rest

/-- The texts one after the other, with a separator between neighbours. -/
def join (separator : Text) (parts : List Text) : Text :=
  separator.intercalate parts

/-- The parts of a text between the places where a glyph stands, at least one. -/
def splitAt (mark : Glyph) : Text → List Text
  | [] => [[]]
  | g :: rest =>
    if g = mark then [] :: splitAt mark rest
    else match splitAt mark rest with
      | [] => [[g]]
      | part :: parts => (g :: part) :: parts

/-- The text without its trailing glyphs that satisfy a test. -/
def dropEndWhile (p : Glyph → Bool) (t : Text) : Text := (t.reverse.dropWhile p).reverse

end Text

end QueryDesk
