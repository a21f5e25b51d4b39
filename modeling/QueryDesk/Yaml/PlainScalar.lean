import QueryDesk.Yaml.Cursor

/-!
# Plain scalars

A plain scalar is a text without quotes.  It may go on over several lines, each of them indented
enough; a colon that ends a word ends it, and inside brackets so do commas and brackets.
-/

set_option autoImplicit false

namespace QueryDesk
namespace Yaml
namespace PlainScalar

/-- The signs that end a plain scalar inside brackets. -/
def flowSigns : List Char := [',', '?', '[', ']', '\x7b', '\x7d']

/-- The signs that make a colon in front of them end a plain scalar inside brackets. -/
def flowBrackets : List Char := [',', '[', ']', '\x7b', '\x7d']

/-- Tests that a glyph ends a plain scalar, given what follows it. -/
def isEnd (inFlow : Bool) (g : Glyph) (next : Option Glyph) : Bool :=
  endsWord (some g)
    || g.isOneOf [':'] && (endsWord next || inFlow && next.any (·.isOneOf flowBrackets))
    || inFlow && g.isOneOf flowSigns

/-- The length of the word of a plain scalar at the front of a text. -/
def wordLength (inFlow : Bool) : Text → Nat
  | [] => 0
  | g :: rest => if isEnd inFlow g rest.head? then 0 else wordLength inFlow rest + 1

/-- The space between two words: what it stands for, empty if the scalar ends here, and whether a
line ended in it. -/
structure Gap where
  text : Text
  crossedLine : Bool
  behind : Cursor

/-- Takes the breaks of empty lines, up to a mark between documents. -/
def emptyLines : Nat → Cursor → Option Text × Cursor
  | 0, c => (some [], c)
  | fuel + 1, c =>
    match c.peek 0 with
    | none => (some [], c)
    | some g =>
      if g = .char ' ' then emptyLines fuel c.step
      else if isBreak g then
        let (lineBreak, c) := c.takeBreak
        if c.seesSeparator then (none, c)
        else
          let (more, c) := emptyLines fuel c
          (more.map (lineBreak ++ ·), c)
      else (some [], c)

/-- Takes the space between two words. -/
def gap (c : Cursor) : Gap :=
  let (spaces, c) := c.takeWhile (·.isOneOf [' '])
  if (c.peek 0).any isBreak then
    let (lineBreak, c) := c.takeBreak
    if c.seesSeparator then ⟨[], true, c⟩
    else
      match emptyLines c.rest.length c with
      | (none, c) => ⟨[], true, c⟩
      | (some breaks, c) => ⟨folded lineBreak breaks, true, c⟩
  else ⟨spaces, false, c⟩

/-- Takes words and the spaces between them, the first one behind a lead. -/
def words (inFlow : Bool) (indent : Int) : Nat → Text → Bool → Cursor → Text × Bool × Cursor
  | 0, _, crossed, c => ([], crossed, c)
  | fuel + 1, lead, crossed, c =>
    let length := wordLength inFlow c.rest
    if c.sees 0 ['#'] || length = 0 then ([], crossed, c)
    else
      let (word, c) := c.take length
      let gap := gap c
      let c := gap.behind
      if gap.text.isEmpty || c.sees 0 ['#'] || !inFlow && c.column < indent then
        (lead ++ word, gap.crossedLine, c)
      else
        let (more, crossed, c) := words inFlow indent fuel gap.text gap.crossedLine c
        (lead ++ word ++ more, crossed, c)

/-- Takes a plain scalar whose further lines are indented at least as given; also tells whether a
line ended behind it. -/
def scan (inFlow : Bool) (indent : Int) (c : Cursor) : Text × Bool × Cursor :=
  words inFlow indent (c.rest.length + 1) [] false c

end PlainScalar
end Yaml
end QueryDesk
