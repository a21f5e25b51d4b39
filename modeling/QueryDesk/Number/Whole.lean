import QueryDesk.Text.Classes

/-!
# Whole numbers in writing

Decimal digits of whole numbers, both ways.  Numbers of more than 4300 digits are neither read nor
written: the conversion would take time quadratic in their length, so it is refused on both sides.
-/

set_option autoImplicit false

namespace QueryDesk
namespace Number

/-- The most digits that a whole number may have in writing. -/
def maxDigits : Nat := 4300

/-- The glyph of a digit. -/
def digitGlyph (d : Nat) : Glyph := .char (Char.ofNat (48 + d % 10))

/-- The decimal digits of a number in front of a text. -/
def digitsOnto (n : Nat) (behind : Text) : Text :=
  if n < 10 then digitGlyph n :: behind
  else digitsOnto (n / 10) (digitGlyph (n % 10) :: behind)
termination_by n

/-- The decimal digits of a number. -/
def digits (n : Nat) : Text := digitsOnto n []

/-- The decimal digits of a number, padded with zeros to a width. -/
def paddedDigits (width n : Nat) : Text :=
  let written := digits n
  List.replicate (width - written.length) (.char '0') ++ written

/-- A whole number in decimal digits, with a sign when it is negative. -/
def signedDigits : Int → Text
  | .ofNat n => digits n
  | .negSucc n => .char '-' :: digits (n + 1)

/-- Tests that a number has too many digits to be written. -/
def isTooLong (n : Int) : Bool := Nat.pow 10 maxDigits ≤ n.natAbs

/-- The number that digit values denote, the leading one first. -/
def ofDigitValues (values : List Nat) : Nat := values.foldl (fun n d => 10 * n + d) 0

/-- What a text that should hold a whole number turns out to be. -/
inductive WholeReading
  | read (n : Int)
  /-- So many digits, more than a number may have. -/
  | tooLong (count : Nat)
  | malformed
  deriving DecidableEq, Repr

/-- The values of digits that single low lines may separate. -/
def groupedDigits? : Text → Option (List Nat)
  | [] => none
  | [g] => g.digitValue?.map ([·])
  | g :: h :: rest =>
    match g.digitValue? with
    | none => none
    | some d =>
      if h = .char '_' then (groupedDigits? rest).map (d :: ·)
      else (groupedDigits? (h :: rest)).map (d :: ·)

/-- Splits off a leading sign; `true` stands for minus. -/
def takeSign : Text → Bool × Text
  | .char '-' :: rest => (true, rest)
  | .char '+' :: rest => (false, rest)
  | t => (false, t)

/-- Gives a magnitude a sign. -/
def withSign (negative : Bool) (n : Nat) : Int := if negative then -(n : Int) else n

/-- Reads a whole number: blanks around it, a sign, then digits of any script, which single low
lines may separate. -/
def readWhole (t : Text) : WholeReading :=
  let (negative, body) := takeSign t.trim
  match groupedDigits? body with
  | none => .malformed
  | some values =>
    if maxDigits < values.length then .tooLong values.length
    else .read (withSign negative (ofDigitValues values))

end Number
end QueryDesk
