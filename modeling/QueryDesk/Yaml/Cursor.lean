import QueryDesk.Fault

/-!
# Cursors

A cursor stands at a position of a YAML text and knows its line and column.  Lines end at a line
feed, at the next-line character, and at the line and paragraph separators; all line breaks are read
as a line feed but the last two, which stand for themselves.
-/

set_option autoImplicit false

namespace QueryDesk
namespace Yaml

/-- A position of a text. -/
structure Cursor where
  /-- How many glyphs are in front of the position. -/
  index : Nat
  /-- How many lines are in front of the position. -/
  line : Nat
  column : Nat
  /-- All that follows. -/
  rest : Text

/-- The fault of a text that is not well formed. -/
def malformed {α : Type} : Except Fault α := .error .malformedSettings

/-! ## Classes of glyphs -/

/-- Tests for a glyph that ends a line. -/
def isBreak (g : Glyph) : Bool := g.isOneOf ['\n', '\u0085', '\u2028', '\u2029']

/-- Tests for a space or a tab. -/
def isSpace (g : Glyph) : Bool := g.isOneOf [' ', '\t']

/-- Tests for a glyph of a name: an ASCII letter, a digit, a dash or a low line. -/
def isNameGlyph (g : Glyph) : Bool := g.isAsciiLetter || g.isAsciiDigit || g.isOneOf ['-', '_']

/-- Tests that a line ends here. -/
def endsLine : Option Glyph → Bool
  | none => true
  | some g => isBreak g

/-- Tests that a name ends here: at a space or at the end of a line. -/
def endsName : Option Glyph → Bool
  | none => true
  | some g => g.isOneOf [' '] || isBreak g

/-- Tests that a word ends here: at a space, a tab or the end of a line. -/
def endsWord : Option Glyph → Bool
  | none => true
  | some g => isSpace g || isBreak g

/-- The length of the longest run of glyphs that satisfy a test. -/
def runLength (test : Glyph → Bool) (t : Text) : Nat := (t.takeWhile test).length

namespace Cursor

/-- The start of a text. -/
def start (t : Text) : Cursor := ⟨0, 0, 0, t⟩

/-- The glyph at some distance. -/
def peek (c : Cursor) (distance : Nat) : Option Glyph := c.rest[distance]?

/-- Tests for a glyph of a list at some distance. -/
def sees (c : Cursor) (distance : Nat) (cs : List Char) : Bool :=
  (c.peek distance).any (·.isOneOf cs)

/-- The cursor one glyph on.  A byte order mark takes no column. -/
def step (c : Cursor) : Cursor :=
  match c.rest with
  | [] => c
  | g :: rest =>
    if isBreak g then ⟨c.index + 1, c.line + 1, 0, rest⟩
    else if g = .char '\uFEFF' then ⟨c.index + 1, c.line, c.column, rest⟩
    else ⟨c.index + 1, c.line, c.column + 1, rest⟩

/-- The cursor some glyphs on. -/
def skip : Nat → Cursor → Cursor
  | 0, c => c
  | n + 1, c => skip n c.step

/-- Takes so many glyphs. -/
def take (n : Nat) (c : Cursor) : Text × Cursor := (c.rest.take n, c.skip n)

/-- Takes the longest run of glyphs that satisfy a test. -/
def takeWhile (test : Glyph → Bool) (c : Cursor) : Text × Cursor := c.take (runLength test c.rest)

/-- The cursor behind all glyphs that satisfy a test. -/
def skipWhile (test : Glyph → Bool) (c : Cursor) : Cursor := (c.takeWhile test).2

/-- The cursor behind all spaces. -/
def skipSpaces (c : Cursor) : Cursor := c.skipWhile (·.isOneOf [' '])

/-- The cursor behind a comment, if there is one. -/
def skipComment (c : Cursor) : Cursor :=
  if c.sees 0 ['#'] then c.skipWhile (!isBreak ·) else c

/-- Takes a line break, if there is one, as the text that it stands for. -/
def takeBreak (c : Cursor) : Text × Cursor :=
  match c.rest with
  | [] => ([], c)
  | g :: _ =>
    if g.isOneOf ['\n', '\u0085'] then ([.char '\n'], c.step)
    else if isBreak g then ([g], c.step)
    else ([], c)

/-- Tests for a mark of three signs with the end of a word behind it. -/
def seesMark (c : Cursor) (sign : Char) : Bool :=
  c.rest.take 3 == List.replicate 3 (.char sign) && endsWord (c.peek 3)

/-- Tests for a mark between documents. -/
def seesSeparator (c : Cursor) : Bool := c.seesMark '-' || c.seesMark '.'

/-- Takes spaces, a comment and the end of the line; anything else is a fault. -/
def skipLineEnd (c : Cursor) : Except Fault Cursor :=
  let c := c.skipSpaces.skipComment
  if endsLine (c.peek 0) then .ok c.takeBreak.2 else malformed

end Cursor

/-! ## Line breaks inside scalars -/

/-- What a line break and the breaks of empty lines behind it stand for: a single line feed becomes
a space. -/
def folded (lineBreak breaks : Text) : Text :=
  if lineBreak ≠ [.char '\n'] then lineBreak ++ breaks
  else if breaks.isEmpty then [.char ' ']
  else breaks

end Yaml
end QueryDesk
