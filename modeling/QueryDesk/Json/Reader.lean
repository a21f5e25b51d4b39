import QueryDesk.Value.Basic

/-!
# JSON from text

Reads the JSON of RFC 8259, with `NaN`, `Infinity` and `-Infinity` beside the numbers.  Of fields
with one name the last one counts, in the place of the first.  Two escaped halves of a surrogate
pair make one character, and a half without partner stays alone.

A text that is no JSON and a number with too many digits are different troubles: the first makes a
search go on, the second ends it.  How many digits a whole number may have is up to the caller
(`most`); `read` and `readFront` admit as many as can be written.
-/

set_option autoImplicit false

namespace QueryDesk
namespace Json

/-- Why a text could not be read. -/
inductive Trouble
  | malformed
  /-- A whole number of so many digits. -/
  | numeralTooLong (count : Nat)
  deriving DecidableEq, Repr

/-- Drops blanks between tokens. -/
def skipBlanks (t : Text) : Text := t.dropWhile (·.isOneOf [' ', '\t', '\n', '\r'])

/-! ## Strings -/

/-- The value of a hexadecimal digit. -/
def hexValue? (g : Glyph) : Option Nat :=
  match g with
  | .char c =>
    if c.isDigit then some (c.toNat - 48)
    else if 'a' ≤ c ∧ c ≤ 'f' then some (c.toNat - 87)
    else if 'A' ≤ c ∧ c ≤ 'F' then some (c.toNat - 55)
    else none
  | .lone _ => none

/-- The code unit of four hexadecimal digits. -/
def codeUnit? (a b c d : Glyph) : Option Nat := do
  some (((← hexValue? a) * 16 + (← hexValue? b)) * 256 + (← hexValue? c) * 16 + (← hexValue? d))

/-- The glyph that a one-letter escape stands for. -/
def shortEscape? (g : Glyph) : Option Glyph :=
  match g with
  | .char '"' => some (.char '"')
  | .char '\\' => some (.char '\\')
  | .char '/' => some (.char '/')
  | .char 'b' => some (.char '\x08')
  | .char 'f' => some (.char '\x0c')
  | .char 'n' => some (.char '\n')
  | .char 'r' => some (.char '\r')
  | .char 't' => some (.char '\t')
  | _ => none

/-- The code point of two halves of a surrogate pair. -/
def joinHalves (first second : Nat) : Nat := 0x10000 + (first - 0xD800) * 0x400 + (second - 0xDC00)

/-- One glyph of a string and what follows. -/
def takeGlyph? : Text → Option (Glyph × Text)
  | [] => none
  | .char '\\' :: .char 'u' :: a :: b :: c :: d :: rest =>
    match codeUnit? a b c d with
    | none => none
    | some n =>
      match rest with
      | .char '\\' :: .char 'u' :: e :: f :: g :: h :: more =>
        match codeUnit? e f g h with
        | some m =>
          if 0xD800 ≤ n ∧ n < 0xDC00 ∧ 0xDC00 ≤ m ∧ m < 0xE000 then
            some (Glyph.ofCode (joinHalves n m), more)
          else some (Glyph.ofCode n, rest)
        | none => some (Glyph.ofCode n, rest)
      | _ => some (Glyph.ofCode n, rest)
  | .char '\\' :: g :: rest => (shortEscape? g).map (·, rest)
  | g :: rest => if g.code < 0x20 ∨ g = .char '\\' then none else some (g, rest)

/-- The glyphs of a string behind its first quote, and what follows.  The count bounds the
steps. -/
def takeString : Nat → Text → Except Trouble (Text × Text)
  | 0, _ => .error .malformed
  | steps + 1, t =>
    match t with
    | .char '"' :: rest => .ok ([], rest)
    | _ =>
      match takeGlyph? t with
      | none => .error .malformed
      | some (g, rest) => do
        let (gs, behind) ← takeString steps rest
        .ok (g :: gs, behind)

/-! ## Numbers -/

/-- ASCII digits from the front of a text. -/
def takeDigits (t : Text) : Text × Text :=
  (t.takeWhile Glyph.isAsciiDigit, t.dropWhile Glyph.isAsciiDigit)

/-- The number that ASCII digits denote. -/
def digitsValue (ds : Text) : Nat := Number.ofDigitValues (ds.map fun g => g.code - 48)

/-- The whole part of a number: a zero, or digits that start with no zero. -/
def takeWhole? (t : Text) : Option (Text × Text) :=
  match t with
  | .char '0' :: rest => some ([.char '0'], rest)
  | _ =>
    match takeDigits t with
    | ([], _) => none
    | found => some found

/-- The places behind the point, if there is a point with digits behind it. -/
def takePlaces? (t : Text) : Option (Text × Text) :=
  match t with
  | .char '.' :: rest =>
    match takeDigits rest with
    | ([], _) => none
    | found => some found
  | _ => none

/-- The exponent, if there is a mark with digits behind it. -/
def takePower? (t : Text) : Option (Int × Text) :=
  match t with
  | g :: rest =>
    if g.isOneOf ['e', 'E'] then
      let (negative, body) := Number.takeSign rest
      match takeDigits body with
      | ([], _) => none
      | (ds, behind) => some (Number.withSign negative (digitsValue ds), behind)
    else none
  | [] => none

/-- Reads a number: whole if it has neither places nor an exponent. -/
def readNumber (most : Nat) (t : Text) : Except Trouble (Value × Text) :=
  let (negative, body) := match t with
    | .char '-' :: rest => (true, rest)
    | _ => (false, t)
  match takeWhole? body with
  | none => .error .malformed
  | some (whole, rest) =>
    match takePlaces? rest, takePower? ((takePlaces? rest).elim rest (·.2)) with
    | none, none =>
      if most < whole.length then .error (.numeralTooLong whole.length)
      else .ok (.whole (Number.withSign negative (digitsValue whole)), rest)
    | places, power =>
      let digits := whole ++ (places.map (·.1)).getD []
      let exponent := (power.map (·.1)).getD 0 - ((places.map (·.1.length)).getD 0 : Nat)
      let behind := match power with
        | some (_, behind) => behind
        | none => places.elim rest (·.2)
      .ok (.real (.ofDecimal negative (digitsValue digits) exponent), behind)

/-! ## Values -/

/-- Drops a constant word from the front of a text. -/
def dropWord? (word : String) (t : Text) : Option Text :=
  if (Text.of word).isPrefixOf t then some (t.drop word.length) else none

/-- The values that have names. -/
def names : List (String × Value) :=
  [("null", .null), ("true", .flag true), ("false", .flag false), ("NaN", .real .nan),
    ("Infinity", .real (.infinite false)), ("-Infinity", .real (.infinite true))]

/-- Reads a name or a number. -/
def readSimple (most : Nat) (t : Text) : Except Trouble (Value × Text) :=
  match names.firstM fun p => (dropWord? p.1 t).map (p.2, ·) with
  | some found => .ok found
  | none => readNumber most t

mutual

/-- Reads a value.  The count bounds the steps; each glyph takes two at most. -/
def readValue (most : Nat) : Nat → Text → Except Trouble (Value × Text)
  | 0, _ => .error .malformed
  | steps + 1, t =>
    match t with
    | .char '"' :: rest => do
      let (s, behind) ← takeString steps rest
      .ok (.text s, behind)
    | .char '[' :: rest =>
      match skipBlanks rest with
      | .char ']' :: behind => .ok (.list [], behind)
      | inside => do
        let (items, behind) ← readItems most steps inside
        .ok (.list items, behind)
    | .char '\x7b' :: rest =>
      match skipBlanks rest with
      | .char '\x7d' :: behind => .ok (.record [], behind)
      | inside => do
        let (fields, behind) ← readFields most steps inside
        .ok (Value.recordOf fields, behind)
    | _ => readSimple most t

/-- Reads the items of a list up to its end, at least one. -/
def readItems (most : Nat) : Nat → Text → Except Trouble (List Value × Text)
  | 0, _ => .error .malformed
  | steps + 1, t => do
    let (v, behind) ← readValue most steps t
    match skipBlanks behind with
    | .char ']' :: rest => .ok ([v], rest)
    | .char ',' :: rest => do
      let (vs, behind) ← readItems most steps (skipBlanks rest)
      .ok (v :: vs, behind)
    | _ => .error .malformed

/-- Reads the fields of a record up to its end, at least one. -/
def readFields (most : Nat) : Nat → Text → Except Trouble (List (Text × Value) × Text)
  | 0, _ => .error .malformed
  | steps + 1, t =>
    match t with
    | .char '"' :: rest => do
      let (name, behind) ← takeString steps rest
      match skipBlanks behind with
      | .char ':' :: rest => do
        let (v, behind) ← readValue most steps (skipBlanks rest)
        match skipBlanks behind with
        | .char '\x7d' :: rest => .ok ([(name, v)], rest)
        | .char ',' :: rest => do
          let (fields, behind) ← readFields most steps (skipBlanks rest)
          .ok ((name, v) :: fields, behind)
        | _ => .error .malformed
      | _ => .error .malformed
    | _ => .error .malformed

end

/-- Reads a value from the front of a text. -/
def readFront (t : Text) : Except Trouble (Value × Text) :=
  readValue Number.maxDigits (2 * t.length + 2) t

/-- Reads a text that holds one value and blanks, with whole numbers of so many digits at most. -/
def readAtMost (most : Nat) (t : Text) : Except Trouble Value := do
  let (v, behind) ← readValue most (2 * t.length + 2) (skipBlanks t)
  if (skipBlanks behind).isEmpty then .ok v else .error .malformed

/-- Reads a text that holds one value and blanks. -/
def read (t : Text) : Except Trouble Value := readAtMost Number.maxDigits t

end Json
end QueryDesk
