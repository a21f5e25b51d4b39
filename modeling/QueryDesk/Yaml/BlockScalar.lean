import QueryDesk.Yaml.Cursor

/-!
# Block scalars

A block scalar is made of indented lines.  A bar keeps the line breaks between them, and a sign for
"greater" folds those between lines that do not begin with space.  Signs in the header tell how far
the lines are indented and what becomes of the line breaks at the end.
-/

set_option autoImplicit false

namespace QueryDesk
namespace Yaml
namespace BlockScalar

/-- What becomes of the line breaks at the end. -/
inductive Chomping
  | strip
  | clip
  | keep
  deriving DecidableEq

/-- What the header tells. -/
structure Header where
  chomping : Chomping
  /-- How much further than their surroundings the lines are indented. -/
  increment : Option Nat

/-- Takes a sign for the end, if there is one. -/
def takeChomping (c : Cursor) : Option Chomping × Cursor :=
  if c.sees 0 ['+'] then (some .keep, c.step)
  else if c.sees 0 ['-'] then (some .strip, c.step)
  else (none, c)

/-- Takes a digit for the indentation, if there is one; zero is a fault. -/
def takeIncrement (c : Cursor) : Except Fault (Option Nat × Cursor) :=
  match (c.peek 0).filter Glyph.isAsciiDigit with
  | none => .ok (none, c)
  | some g => if g.code = 48 then malformed else .ok (some (g.code - 48), c.step)

/-- Takes the header. -/
def header (c : Cursor) : Except Fault (Header × Cursor) := do
  let (early, c) := takeChomping c
  let (increment, c) ← takeIncrement c
  let (late, c) := if early.isNone && increment.isSome then takeChomping c else (none, c)
  if endsName (c.peek 0) then .ok (⟨(early.or late).getD .clip, increment⟩, c) else malformed

/-- Takes empty lines in front of the first line; also gives the greatest column met. -/
def leading : Nat → Nat → Cursor → Text × Nat × Cursor
  | 0, greatest, c => ([], greatest, c)
  | fuel + 1, greatest, c =>
    if c.sees 0 [' '] then leading fuel (max greatest c.step.column) c.step
    else if (c.peek 0).any isBreak then
      let (lineBreak, c) := c.takeBreak
      let (more, greatest, c) := leading fuel greatest c
      (lineBreak ++ more, greatest, c)
    else ([], greatest, c)

/-- The cursor behind spaces, but not beyond a column. -/
def indentTo (indent : Nat) : Nat → Cursor → Cursor
  | 0, c => c
  | fuel + 1, c => if c.column < indent && c.sees 0 [' '] then indentTo indent fuel c.step else c

/-- Takes empty lines between lines. -/
def between (indent : Nat) : Nat → Cursor → Text × Cursor
  | 0, c => ([], c)
  | fuel + 1, c =>
    let c := indentTo indent indent c
    if (c.peek 0).any isBreak then
      let (lineBreak, c) := c.takeBreak
      let (more, c) := between indent fuel c
      (lineBreak ++ more, c)
    else ([], c)

/-- What stands between two lines: the break at the end of the first, unless it is folded away, and
the breaks of the empty lines. -/
def joint (fold : Bool) (lineBreak breaks : Text) : Text :=
  if fold && lineBreak == [.char '\n'] then
    if breaks.isEmpty then [.char ' '] else breaks
  else lineBreak ++ breaks

/-- Takes lines, given the breaks in front of the first; also gives the line break behind the last
and the breaks of empty lines behind that. -/
def lines (fold : Bool) (indent : Nat) : Nat → Cursor → Text × Text × Text × Cursor
  | 0, c => ([], [], [], c)
  | fuel + 1, c =>
    let startsWithSpace := c.sees 0 [' ', '\t']
    let (line, c) := c.takeWhile (!isBreak ·)
    let (lineBreak, c) := c.takeBreak
    let (breaks, c) := between indent (c.rest.length + 1) c
    if c.column = indent && (c.peek 0).isSome then
      let fold' := fold && !startsWithSpace && !c.sees 0 [' ', '\t']
      let (more, lastBreak, lastBreaks, c) := lines fold indent fuel c
      (line ++ joint fold' lineBreak breaks ++ more, lastBreak, lastBreaks, c)
    else (line, lineBreak, breaks, c)

/-- Takes a block scalar, from its sign on, inside a collection of some indentation. -/
def scan (fold : Bool) (around : Int) (c : Cursor) : Except Fault (Text × Cursor) := do
  let (header, c) ← header c.step
  let c ← c.skipLineEnd
  let least := (max (around + 1) 1).toNat
  let (breaks, indent, c) := match header.increment with
    | none =>
      let (breaks, greatest, c) := leading (c.rest.length + 1) 0 c
      (breaks, max least greatest, c)
    | some n =>
      let (breaks, c) := between (least + n - 1) (c.rest.length + 1) c
      (breaks, least + n - 1, c)
  let (body, lastBreak, lastBreaks, c) :=
    if c.column = indent && (c.peek 0).isSome then
      let (body, lastBreak, lastBreaks, c) := lines fold indent (c.rest.length + 1) c
      (breaks ++ body, lastBreak, lastBreaks, c)
    else ([], [], breaks, c)
  let tail := match header.chomping with
    | .strip => []
    | .clip => lastBreak
    | .keep => lastBreak ++ lastBreaks
  .ok (body ++ tail, c)

end BlockScalar
end Yaml
end QueryDesk
