import QueryDesk.Yaml.BlockScalar
import QueryDesk.Yaml.PlainScalar
import QueryDesk.Yaml.QuotedScalar

/-!
# Tokens

A YAML text is first cut into tokens.  Indentation becomes tokens of its own: a block collection has
a token where it starts and one where a line is indented less.

Whether a scalar is a key shows only at the colon behind it.  So each place where a key may start is
remembered (`PendingKey`), and the tokens in front of the key are put in when the colon is met.  A
key must stand on one line with its colon and be at most 1024 glyphs long.
-/

set_option autoImplicit false

namespace QueryDesk
namespace Yaml

/-- A line of directions to the reader. -/
inductive Directive
  | version (major : Nat)
  | handle (name : Text) (expansion : Text)
  | other
  deriving DecidableEq

/-- A token. -/
inductive Token
  | directive (d : Directive)
  | documentStart
  | documentEnd
  | blockSequenceStart
  | blockMappingStart
  | blockEnd
  | flowSequenceStart
  | flowSequenceEnd
  | flowMappingStart
  | flowMappingEnd
  | flowEntry
  | blockEntry
  | key
  | value
  | alias (name : Text)
  | anchor (name : Text)
  /-- A tag; without a handle it is written in full. -/
  | tag (handle : Option Text) (suffix : Text)
  | scalar (isPlain : Bool) (text : Text)
  deriving DecidableEq

/-! ## Names, tags and directives -/

namespace Token

/-- Takes a name, at least one glyph. -/
def takeName (c : Cursor) : Except Fault (Text × Cursor) :=
  let (name, c) := c.takeWhile isNameGlyph
  if name.isEmpty then malformed else .ok (name, c)

/-- The signs that may stand behind the name of an anchor. -/
def anchorEnds : List Char := ['?', ':', ',', ']', '\x7d', '%', '@', '\x60']

/-- Takes the name of an anchor or an alias, from its sign on. -/
def takeAnchor (c : Cursor) : Except Fault (Text × Cursor) := do
  let (name, c) ← takeName c.step
  if endsWord (c.peek 0) || c.sees 0 anchorEnds then .ok (name, c) else malformed

/-- Takes the handle of a tag. -/
def takeHandle (c : Cursor) : Except Fault (Text × Cursor) :=
  if !c.sees 0 ['!'] then malformed
  else if c.sees 1 [' '] then .ok (c.take 1)
  else
    let length := 1 + runLength isNameGlyph (c.rest.drop 1)
    if c.sees length ['!'] then .ok (c.take (length + 1)) else malformed

/-- The signs that may stand in the suffix of a tag. -/
def suffixSigns : List Char :=
  ['-', ';', '/', '?', ':', '@', '&', '=', '+', '$', ',', '_', '.', '!', '~', '*', '\'', '(', ')',
    '[', ']']

/-- Tests for a glyph of a suffix that is not escaped. -/
def isSuffixGlyph (g : Glyph) : Bool :=
  g.isAsciiLetter || g.isAsciiDigit || g.isOneOf suffixSigns

/-- Takes bytes that are escaped by a percent sign and two digits. -/
def takeBytes : Nat → Cursor → Except Fault (List UInt8 × Cursor)
  | 0, c => .ok ([], c)
  | fuel + 1, c =>
    if c.sees 0 ['%'] then
      match (c.peek 1).bind QuotedScalar.hexValue?, (c.peek 2).bind QuotedScalar.hexValue? with
      | some high, some low => do
        let (more, c) ← takeBytes fuel (c.skip 3)
        .ok (UInt8.ofNat (16 * high + low) :: more, c)
      | _, _ => malformed
    else .ok ([], c)

/-- Takes the suffix of a tag; escaped bytes must spell a text. -/
def suffixParts : Nat → Cursor → Except Fault (Text × Cursor)
  | 0, c => .ok ([], c)
  | fuel + 1, c =>
    let (run, c) := c.takeWhile isSuffixGlyph
    if c.sees 0 ['%'] then do
      let (bytes, c) ← takeBytes (c.rest.length + 1) c
      match String.fromUTF8? ⟨bytes.toArray⟩ with
      | none => malformed
      | some found =>
        let (more, c) ← suffixParts fuel c
        .ok (run ++ Text.of found ++ more, c)
    else .ok (run, c)

/-- Takes the suffix of a tag, at least one glyph. -/
def takeSuffix (c : Cursor) : Except Fault (Text × Cursor) := do
  let (suffix, behind) ← suffixParts (c.rest.length + 1) c
  if behind.index = c.index then malformed else .ok (suffix, behind)

/-- Tests that a name and an exclamation mark follow before the end of the name. -/
def hasHandle (c : Cursor) : Bool :=
  ((c.rest.drop 1).takeWhile fun g => !endsName (some g)).contains (.char '!')

/-- Takes a tag. -/
def takeTag (c : Cursor) : Except Fault (Token × Cursor) := do
  let (found, c) ←
    if c.sees 1 ['<'] then do
      let (suffix, c) ← takeSuffix (c.skip 2)
      if c.sees 0 ['>'] then .ok (Token.tag none suffix, c.step) else malformed
    else if endsWord (c.peek 1) then .ok (Token.tag none [.char '!'], c.step)
    else do
      let (handle, c) ← if hasHandle c then takeHandle c else .ok (c.take 1)
      let (suffix, c) ← takeSuffix c
      .ok (Token.tag (some handle) suffix, c)
  if endsName (c.peek 0) then .ok (found, c) else malformed

/-- Takes a number in digits. -/
def takeNumber (c : Cursor) : Except Fault (Nat × Cursor) :=
  let (digits, c) := c.takeWhile Glyph.isAsciiDigit
  if digits.isEmpty then malformed
  else .ok (Number.ofDigitValues (digits.map fun g => g.code - 48), c)

/-- Takes what stands behind the name of a directive. -/
def takeDirectiveBody (name : Text) (c : Cursor) : Except Fault (Directive × Cursor) :=
  if name = Text.of "YAML" then do
    let (major, c) ← takeNumber c.skipSpaces
    if c.sees 0 ['.'] then
      let (_, c) ← takeNumber c.step
      if endsName (c.peek 0) then .ok (.version major, c) else malformed
    else malformed
  else if name = Text.of "TAG" then do
    let (handle, c) ← takeHandle c.skipSpaces
    if c.sees 0 [' '] then
      let (expansion, c) ← takeSuffix c.skipSpaces
      if endsName (c.peek 0) then .ok (.handle handle expansion, c) else malformed
    else malformed
  else .ok (.other, c.skipWhile (!isBreak ·))

/-- Takes a directive, from its sign on. -/
def takeDirective (c : Cursor) : Except Fault (Directive × Cursor) := do
  let (name, c) ← takeName c.step
  if endsName (c.peek 0) then
    let (found, c) ← takeDirectiveBody name c
    .ok (found, ← c.skipLineEnd)
  else malformed

end Token

/-! ## Layout -/

/-- A place where a key may start. -/
structure PendingKey where
  /-- How many brackets are open around it. -/
  depth : Nat
  /-- How many tokens are in front of it. -/
  number : Nat
  /-- Nothing but a key may stand here. -/
  isRequired : Bool
  index : Nat
  line : Nat
  column : Nat

/-- How far a text is cut into tokens. -/
structure Layout where
  cursor : Cursor
  tokens : Array Token
  /-- How many brackets are open. -/
  depth : Nat
  /-- The column of the innermost block collection; below zero there is none. -/
  indent : Int
  /-- The columns of the block collections around it, the innermost first. -/
  outer : List Int
  mayStartKey : Bool
  pending : List PendingKey

namespace Layout

/-- The layout at the start of a text. -/
def start (t : Text) : Layout := ⟨.start t, #[], 0, -1, [], true, []⟩

/-- How long a key may be. -/
def longestKey : Nat := 1024

/-- Adds a token at the end. -/
def add (token : Token) (s : Layout) : Layout := { s with tokens := s.tokens.push token }

/-- Adds a token and moves on over so many glyphs. -/
def addOver (token : Token) (length : Nat) (s : Layout) : Layout :=
  { s.add token with cursor := s.cursor.skip length }

/-- Puts a token in at a place. -/
def putIn (number : Nat) (token : Token) (s : Layout) : Layout :=
  { s with tokens := s.tokens.insertIdxIfInBounds number token }

/-- Tests that a pending key can still become one. -/
def isFresh (c : Cursor) (k : PendingKey) : Bool :=
  k.line == c.line && c.index - k.index ≤ longestKey

/-- Forgets pending keys that can no longer become one; a required key among them is a fault. -/
def dropStale (s : Layout) : Except Fault Layout :=
  if s.pending.any fun k => !isFresh s.cursor k && k.isRequired then malformed
  else .ok { s with pending := s.pending.filter (isFresh s.cursor) }

/-- The pending key between the innermost brackets. -/
def pendingHere? (s : Layout) : Option PendingKey := s.pending.find? (·.depth == s.depth)

/-- The layout without the pending key between the innermost brackets. -/
def withoutPending (s : Layout) : Layout :=
  { s with pending := s.pending.filter (·.depth != s.depth) }

/-- Forgets the pending key between the innermost brackets; a required key is a fault. -/
def forgetPending (s : Layout) : Except Fault Layout :=
  if s.pendingHere?.any (·.isRequired) then malformed else .ok s.withoutPending

/-- Remembers that a key may start here. -/
def remember (s : Layout) : Except Fault Layout :=
  if s.mayStartKey then do
    let s ← s.forgetPending
    let c := s.cursor
    let isRequired := s.depth == 0 && s.indent == (c.column : Int)
    .ok { s with
      pending := ⟨s.depth, s.tokens.size, isRequired, c.index, c.line, c.column⟩ :: s.pending }
  else .ok s

/-- Closes the block collections to the right of a column. -/
def closeFrom (tokens : Array Token) (column indent : Int) :
    List Int → Array Token × Int × List Int
  | [] => (tokens, indent, [])
  | outer :: rest =>
    if column < indent then closeFrom (tokens.push .blockEnd) column outer rest
    else (tokens, indent, outer :: rest)

/-- Closes the block collections to the right of a column; brackets keep them open. -/
def unwind (column : Int) (s : Layout) : Layout :=
  if s.depth = 0 then
    let (tokens, indent, outer) := closeFrom s.tokens column s.indent s.outer
    { s with tokens, indent, outer }
  else s

/-- Tests that a column is to the right of all block collections. -/
def isDeeper (s : Layout) (column : Nat) : Bool := s.indent < (column : Int)

/-- Opens a block collection at a column. -/
def openAt (column : Nat) (s : Layout) : Layout :=
  { s with indent := column, outer := s.indent :: s.outer }

/-- Opens a block collection here, if there is none at this column. -/
def openHere (token : Token) (s : Layout) : Layout :=
  if s.isDeeper s.cursor.column then (s.openAt s.cursor.column).add token else s

/-! ## Single tokens -/

/-- Moves on over blank lines and comments.  Behind a line break outside of brackets a key may
start. -/
def skipBlank : Nat → Layout → Layout
  | 0, s => s
  | fuel + 1, s =>
    let c := s.cursor.skipSpaces.skipComment
    let (lineBreak, c) := c.takeBreak
    if lineBreak.isEmpty then { s with cursor := c }
    else skipBlank fuel { s with cursor := c, mayStartKey := s.mayStartKey || s.depth == 0 }

/-- Ends all block collections in front of a directive or a mark between documents. -/
def endBlocks (s : Layout) : Except Fault Layout := do
  let s ← (s.unwind (-1)).forgetPending
  .ok { s with mayStartKey := false }

/-- Reads an opening bracket. -/
def openFlow (token : Token) (s : Layout) : Except Fault Layout := do
  let s ← s.remember
  .ok ({ s with depth := s.depth + 1, mayStartKey := true }.addOver token 1)

/-- Reads a closing bracket; there must be one to close. -/
def closeFlow (token : Token) (s : Layout) : Except Fault Layout := do
  if s.depth = 0 then malformed
  else
    let s ← s.forgetPending
    .ok ({ s with depth := s.depth - 1, mayStartKey := false }.addOver token 1)

/-- Reads a comma between brackets. -/
def readComma (s : Layout) : Except Fault Layout := do
  let s ← { s with mayStartKey := true }.forgetPending
  .ok (s.addOver .flowEntry 1)

/-- Reads the dash of an item. -/
def readDash (s : Layout) : Except Fault Layout := do
  if s.depth = 0 && !s.mayStartKey then malformed
  else
    let s := if s.depth = 0 then s.openHere .blockSequenceStart else s
    let s ← { s with mayStartKey := true }.forgetPending
    .ok (s.addOver .blockEntry 1)

/-- Reads the question mark of a key. -/
def readQuestion (s : Layout) : Except Fault Layout := do
  if s.depth = 0 && !s.mayStartKey then malformed
  else
    let s := if s.depth = 0 then s.openHere .blockMappingStart else s
    let s ← { s with mayStartKey := s.depth == 0 }.forgetPending
    .ok (s.addOver .key 1)

/-- Reads the colon of a value.  If a key is pending, the tokens in front of it are put in. -/
def readColon (s : Layout) : Except Fault Layout := do
  match s.pendingHere? with
  | some k =>
    let s := s.withoutPending.putIn k.number .key
    let s :=
      if s.depth = 0 && s.isDeeper k.column then
        (s.openAt k.column).putIn k.number .blockMappingStart
      else s
    .ok ({ s with mayStartKey := false }.addOver .value 1)
  | none =>
    if s.depth = 0 && !s.mayStartKey then malformed
    else
      let s := if s.depth = 0 then s.openHere .blockMappingStart else s
      let s ← { s with mayStartKey := s.depth == 0 }.forgetPending
      .ok (s.addOver .value 1)

/-- Reads a token that may be a key or stand in front of one. -/
def readKeyed (scan : Cursor → Except Fault (Token × Cursor)) (s : Layout) :
    Except Fault Layout := do
  let s ← s.remember
  let (token, c) ← scan s.cursor
  .ok { s.add token with cursor := c, mayStartKey := false }

/-- Reads a block scalar. -/
def readBlock (fold : Bool) (s : Layout) : Except Fault Layout := do
  let s ← { s with mayStartKey := true }.forgetPending
  let (t, c) ← BlockScalar.scan fold s.indent s.cursor
  .ok { s.add (.scalar false t) with cursor := c }

/-- Reads a plain scalar. -/
def readPlain (s : Layout) : Except Fault Layout := do
  let s ← s.remember
  let (t, crossed, c) := PlainScalar.scan (s.depth != 0) (s.indent + 1) s.cursor
  .ok { s.add (.scalar true t) with cursor := c, mayStartKey := crossed }

/-- The signs that no plain scalar starts with. -/
def indicators : List Char :=
  ['-', '?', ':', ',', '[', ']', '\x7b', '\x7d', '#', '&', '*', '!', '|', '>', '\'', '"', '%', '@',
    '\x60']

/-- Tests that a plain scalar starts here. -/
def startsPlain (s : Layout) : Bool :=
  let c := s.cursor
  !(endsWord (c.peek 0) || c.sees 0 indicators)
    || !endsWord (c.peek 1) && (c.sees 0 ['-'] || s.depth = 0 && c.sees 0 ['?', ':'])

/-- Tests for a sign that is followed by the end of a word, or that stands between brackets. -/
def seesIndicator (s : Layout) (sign : Char) : Bool :=
  s.cursor.sees 0 [sign] && (s.depth != 0 || endsWord (s.cursor.peek 1))

/-- Reads the token that starts here. -/
def readToken (s : Layout) : Except Fault Layout := do
  let c := s.cursor
  if c.column = 0 && c.sees 0 ['%'] then
    let s ← s.endBlocks
    let (d, c) ← Token.takeDirective s.cursor
    .ok { s.add (.directive d) with cursor := c }
  else if c.column = 0 && c.seesMark '-' then return (← s.endBlocks).addOver .documentStart 3
  else if c.column = 0 && c.seesMark '.' then return (← s.endBlocks).addOver .documentEnd 3
  else if c.sees 0 ['['] then s.openFlow .flowSequenceStart
  else if c.sees 0 ['\x7b'] then s.openFlow .flowMappingStart
  else if c.sees 0 [']'] then s.closeFlow .flowSequenceEnd
  else if c.sees 0 ['\x7d'] then s.closeFlow .flowMappingEnd
  else if c.sees 0 [','] then s.readComma
  else if c.sees 0 ['-'] && endsWord (c.peek 1) then s.readDash
  else if s.seesIndicator '?' then s.readQuestion
  else if s.seesIndicator ':' then s.readColon
  else if c.sees 0 ['*'] then
    s.readKeyed fun c => do let (name, c) ← Token.takeAnchor c; .ok (.alias name, c)
  else if c.sees 0 ['&'] then
    s.readKeyed fun c => do let (name, c) ← Token.takeAnchor c; .ok (.anchor name, c)
  else if c.sees 0 ['!'] then s.readKeyed Token.takeTag
  else if s.depth = 0 && c.sees 0 ['|'] then s.readBlock false
  else if s.depth = 0 && c.sees 0 ['>'] then s.readBlock true
  else if c.sees 0 ['\''] then
    s.readKeyed fun c => do let (t, c) ← QuotedScalar.scan false c; .ok (.scalar false t, c)
  else if c.sees 0 ['"'] then
    s.readKeyed fun c => do let (t, c) ← QuotedScalar.scan true c; .ok (.scalar false t, c)
  else if s.startsPlain then s.readPlain
  else malformed

/-- Reads tokens up to the end of the text. -/
def readAll : Nat → Layout → Except Fault Layout
  | 0, s => .ok s
  | fuel + 1, s => do
    let s ← (s.skipBlank (s.cursor.rest.length + 1)).dropStale
    let s := s.unwind s.cursor.column
    if s.cursor.rest.isEmpty then s.endBlocks else readAll fuel (← s.readToken)

end Layout

/-- Tests for a glyph that may stand in a YAML text. -/
def isAllowed (g : Glyph) : Bool :=
  let n := g.code
  n = 0x9 || n = 0xA || n = 0xD || 0x20 ≤ n && n ≤ 0x7E || n = 0x85 || 0xA0 ≤ n && n ≤ 0xD7FF
    || 0xE000 ≤ n && n ≤ 0xFFFD || 0x10000 ≤ n

/-- The cursor at the start of a text, behind a byte order mark. -/
def Cursor.first (t : Text) : Cursor :=
  let c := Cursor.start t
  if c.sees 0 ['\uFEFF'] then c.step else c

/-- The tokens of a text. -/
def Token.ofText (t : Text) : Except Fault (List Token) := do
  if t.all isAllowed then
    let s := { Layout.start t with cursor := .first t }
    return (← s.readAll (t.length + 1)).tokens.toList
  else malformed

end Yaml
end QueryDesk
