import QueryDesk.Yaml.Cursor

/-!
# Quoted scalars

Between single quotes two quotes stand for one, and nothing else is special.  Between double quotes
a backslash escapes: a named character, a character by its number, or the end of a line.  In both,
line breaks are folded.
-/

set_option autoImplicit false

namespace QueryDesk
namespace Yaml
namespace QuotedScalar

/-- Tests for a glyph that a run inside a quoted scalar consists of. -/
def isOrdinary (g : Glyph) : Bool := !(g.isOneOf ['\'', '"', '\\'] || isSpace g || isBreak g)

/-- The character that an escape of one letter stands for. -/
def namedEscape? (g : Glyph) : Option Char :=
  match g with
  | .char '0' => some '\x00'
  | .char 'a' => some '\x07'
  | .char 'b' => some '\x08'
  | .char 't' => some '\t'
  | .char '\t' => some '\t'
  | .char 'n' => some '\n'
  | .char 'v' => some '\x0b'
  | .char 'f' => some '\x0c'
  | .char 'r' => some '\r'
  | .char 'e' => some '\x1b'
  | .char ' ' => some ' '
  | .char '"' => some '"'
  | .char '\\' => some '\\'
  | .char '/' => some '/'
  | .char 'N' => some '\u0085'
  | .char '_' => some '\u00a0'
  | .char 'L' => some '\u2028'
  | .char 'P' => some '\u2029'
  | _ => none

/-- How many digits follow an escape by number. -/
def digitCount? (g : Glyph) : Option Nat :=
  match g with
  | .char 'x' => some 2
  | .char 'u' => some 4
  | .char 'U' => some 8
  | _ => none

/-- The value of a digit in base sixteen. -/
def hexValue? (g : Glyph) : Option Nat :=
  match g with
  | .char c =>
    if c.isDigit then some (c.toNat - 48)
    else if 'a' ≤ c ∧ c ≤ 'f' then some (c.toNat - 87)
    else if 'A' ≤ c ∧ c ≤ 'F' then some (c.toNat - 55)
    else none
  | .lone _ => none

/-- The number that digits in base sixteen spell. -/
def hexNumber? (t : Text) : Option Nat :=
  (t.mapM hexValue?).map (·.foldl (fun n d => 16 * n + d) 0)

/-- Takes a glyph given by so many digits. -/
def takeNumbered (count : Nat) (c : Cursor) : Except Fault (Text × Cursor) :=
  let (digits, behind) := c.take count
  match hexNumber? digits with
  | none => malformed
  | some code =>
    if digits.length < count then malformed
    else if Nat.pow 2 31 ≤ code then .error .codeBeyondWord
    else if 0x110000 ≤ code then .error .codeOutOfRange
    else .ok ([Glyph.ofCode code], behind)

/-- Takes line breaks and the space around them; a mark between documents is a fault. -/
def breaks : Nat → Cursor → Except Fault (Text × Cursor)
  | 0, c => .ok ([], c)
  | fuel + 1, c =>
    if c.seesSeparator then malformed
    else
      let c := c.skipWhile isSpace
      if (c.peek 0).any isBreak then do
        let (lineBreak, c) := c.takeBreak
        let (more, c) ← breaks fuel c
        .ok (lineBreak ++ more, c)
      else .ok ([], c)

/-- Takes an escape, from behind the backslash. -/
def escape (c : Cursor) : Except Fault (Text × Cursor) :=
  match c.peek 0 with
  | none => malformed
  | some g =>
    match namedEscape? g, digitCount? g with
    | some found, _ => .ok ([.char found], c.step)
    | none, some count => takeNumbered count c.step
    | none, none =>
      if isBreak g then
        let c := c.takeBreak.2
        breaks (c.rest.length + 1) c
      else malformed

/-- Takes all up to a space, a line break or the closing quote. -/
def word (double : Bool) : Nat → Cursor → Except Fault (Text × Cursor)
  | 0, c => .ok ([], c)
  | fuel + 1, c =>
    let (run, c) := c.takeWhile isOrdinary
    let goOn (found : Text) (c : Cursor) : Except Fault (Text × Cursor) := do
      let (more, c) ← word double fuel c
      .ok (run ++ found ++ more, c)
    if !double && c.sees 0 ['\''] && c.sees 1 ['\''] then goOn [.char '\''] (c.skip 2)
    else if double && c.sees 0 ['\''] then goOn [.char '\''] c.step
    else if !double && c.sees 0 ['"', '\\'] then goOn (c.rest.take 1) c.step
    else if double && c.sees 0 ['\\'] then do
      let (found, c) ← escape c.step
      goOn found c
    else .ok (run, c)

/-- Takes space between two words. -/
def gap (c : Cursor) : Except Fault (Text × Cursor) :=
  let (spaces, c) := c.takeWhile isSpace
  match c.peek 0 with
  | none => malformed
  | some g =>
    if isBreak g then do
      let (lineBreak, c) := c.takeBreak
      let (more, c) ← breaks (c.rest.length + 1) c
      .ok (folded lineBreak more, c)
    else .ok (spaces, c)

/-- Takes words and the space between them, up to and with the closing quote. -/
def words (double : Bool) : Nat → Cursor → Except Fault (Text × Cursor)
  | 0, _ => malformed
  | fuel + 1, c => do
    let (found, c) ← word double (c.rest.length + 1) c
    if c.sees 0 [if double then '"' else '\''] then .ok (found, c.step)
    else
      let (space, c) ← gap c
      let (more, c) ← words double fuel c
      .ok (found ++ space ++ more, c)

/-- Takes a quoted scalar, from its opening quote on. -/
def scan (double : Bool) (c : Cursor) : Except Fault (Text × Cursor) :=
  words double (c.rest.length + 1) c.step

end QuotedScalar
end Yaml
end QueryDesk
