import QueryDesk.Number.Shortest

/-!
# Decimal numbers

A finite decimal is a sign, a coefficient and a power of ten; trailing zeros are significant, so
`1.50` and `1.5` are different decimals of equal size.  Decimals are read exactly, compared exactly
and written back with the digits they have.  A sum keeps 28 digits, a tie going to the even one.

Comparison and sums never compute a power of ten that is larger than the digits at hand: an
exponent may have eighteen digits.
-/

set_option autoImplicit false

namespace QueryDesk

/-- A decimal number. -/
inductive Decimal
  /-- The number `coefficient * 10 ^ exponent` with a sign. -/
  | finite (negative : Bool) (coefficient : Nat) (exponent : Int)
  | infinite (negative : Bool)
  /-- No number, with digits that say why; a signalling one admits no comparison. -/
  | nan (negative signalling : Bool) (payload : Nat)
  deriving DecidableEq, Repr

namespace Decimal

/-- What goes wrong with a decimal. -/
inductive Trouble
  /-- A text does not have the form of a decimal. -/
  | malformed
  /-- An operation has no result: an exponent out of bounds, a signalling operand, a difference of
  infinities, an order with something that is no number. -/
  | invalid
  /-- A sum is too large. -/
  | overflow
  deriving DecidableEq, Repr

/-! ## Parts -/

/-- Tests that a decimal is neither infinite nor undefined. -/
def isFinite : Decimal → Bool
  | .finite .. => true
  | _ => false

/-- The count of decimal digits of a number; zero has one. -/
def digitCount (n : Nat) : Nat := (Number.digits n).length

/-- The power of ten of the leading digit. -/
def leadingPower (coefficient : Nat) (exponent : Int) : Int := digitCount coefficient + exponent - 1

/-! ## Reading -/

/-- The greatest power of ten of a leading digit. -/
def greatestPower : Int := 999999999999999999

/-- The least exponent. -/
def leastExponent : Int := -1999999999999999997

/-- The digits of a text all of whose glyphs are digits. -/
def allDigits? (t : Text) : Option (List Nat) := t.mapM Glyph.digitValue?

/-- Splits a text at the first glyph that satisfies a test. -/
def splitBefore (test : Glyph → Bool) (t : Text) : Text × Text :=
  (t.takeWhile (!test ·), t.dropWhile (!test ·))

/-- The value of an exponent: an optional sign and digits, at least one. -/
def readExponent? (t : Text) : Option Int :=
  let (negative, body) := Number.takeSign t
  if body.isEmpty then none
  else (allDigits? body).map fun ds => Number.withSign negative (Number.ofDigitValues ds)

/-- Reads digits with an optional point and an optional exponent. -/
def readFinite (negative : Bool) (t : Text) : Except Trouble Decimal :=
  let (mantissa, tail) := splitBefore (·.isOneOf ['e', 'E']) t
  let exponent? := match tail with
    | [] => some 0
    | _ :: body => readExponent? body
  let (whole, tail) := splitBefore (· = .char '.') mantissa
  let places := tail.drop 1
  match exponent?, allDigits? (whole ++ places) with
  | some e, some (d :: ds) =>
    let coefficient := Number.ofDigitValues (d :: ds)
    let exponent := e - places.length
    if greatestPower < leadingPower coefficient exponent ∨ exponent < leastExponent then
      .error .invalid
    else .ok (.finite negative coefficient exponent)
  | _, _ => .error .malformed

/-- Reads the digits behind a name of something that is no number. -/
def readPayload (negative signalling : Bool) (t : Text) : Except Trouble Decimal :=
  match allDigits? t with
  | some ds => .ok (.nan negative signalling (Number.ofDigitValues ds))
  | none => .error .malformed

/-- Reads a decimal: blanks around it, a sign, then a name, or digits of any script.  Low lines
count for nothing, wherever they stand. -/
def read (t : Text) : Except Trouble Decimal :=
  let (negative, body) := Number.takeSign (t.trim.filter (· ≠ .char '_'))
  let lowered := body.asciiLower
  if lowered = Text.of "inf" ∨ lowered = Text.of "infinity" then .ok (.infinite negative)
  else if (Text.of "nan").isPrefixOf lowered then readPayload negative false (body.drop 3)
  else if (Text.of "snan").isPrefixOf lowered then readPayload negative true (body.drop 4)
  else readFinite negative body

/-- The decimal of a whole number. -/
def ofInt (n : Int) : Decimal := .finite (n < 0) n.natAbs 0

/-! ## Writing -/

/-- The exponent mark with a signed exponent, for exponents other than zero. -/
def exponentMark (e : Int) : Text :=
  if e = 0 then []
  else .char 'E' :: (if e < 0 then Number.signedDigits e else .char '+' :: Number.signedDigits e)

/-- The decimal in writing: positional while the exponent is not positive and the leading digit is
at most six places behind the point, and otherwise with one digit before the point. -/
def written : Decimal → Text
  | .infinite negative => signed negative (Text.of "Infinity")
  | .nan negative signalling payload =>
    let name := Text.of (if signalling then "sNaN" else "NaN")
    signed negative (if payload = 0 then name else name ++ Number.digits payload)
  | .finite negative coefficient exponent =>
    let ds := Number.digits coefficient
    let leading := leadingPower coefficient exponent
    signed negative <|
      if exponent ≤ 0 ∧ -6 ≤ leading then
        let point := ds.length + exponent
        if exponent = 0 then ds
        else if point ≤ 0 then
          Text.of "0." ++ List.replicate (-point).toNat (.char '0') ++ ds
        else ds.take point.toNat ++ .char '.' :: ds.drop point.toNat
      else
        let mantissa := match ds with
          | d :: e :: more => d :: .char '.' :: e :: more
          | few => few
        mantissa ++ exponentMark leading
where
  /-- Puts a minus sign in front, if there is one. -/
  signed (negative : Bool) (t : Text) : Text := if negative then .char '-' :: t else t

/-! ## Comparison -/

/-- Compares `m * 10 ^ d` with `n * 10 ^ e`. -/
def compareMagnitudes (m : Nat) (d : Int) (n : Nat) (e : Int) : Ordering :=
  if m = 0 ∨ n = 0 then compare m n
  else
    (compare (leadingPower m d) (leadingPower n e)).then <|
      if d ≤ e then compare m (n * Nat.pow 10 (e - d).toNat)
      else compare (m * Nat.pow 10 (d - e).toNat) n

/-- Where two decimals stand to each other; something that is no number stands nowhere. -/
def compare? : Decimal → Decimal → Option Ordering
  | .nan .., _ => none
  | _, .nan .. => none
  | .infinite a, .infinite b => some (compare b.toNat a.toNat)
  | .infinite a, .finite .. => some (if a then .lt else .gt)
  | .finite .., .infinite b => some (if b then .gt else .lt)
  | .finite a m d, .finite b n e =>
    if m = 0 ∧ n = 0 then some .eq
    else if m = 0 then some (if b then .gt else .lt)
    else if n = 0 then some (if a then .lt else .gt)
    else match a, b with
      | false, false => some (compareMagnitudes m d n e)
      | true, true => some (compareMagnitudes n e m d)
      | true, false => some .lt
      | false, true => some .gt

/-- Where two finite decimals stand to each other. -/
def order (x y : Decimal) : Ordering := (x.compare? y).getD .eq

/-! ## Sums -/

/-- The digits that a sum keeps. -/
def precision : Nat := 28

/-- The greatest power of ten of the leading digit of a sum. -/
def sumGreatestPower : Int := 999999

/-- The least exponent of a sum. -/
def sumLeastExponent : Int := -1000026

/-- Drops the last `count` digits of a number, rounding to the nearest, a tie to the even. -/
def dropDigits (n count : Nat) : Nat := Binary64.roundDiv n (Nat.pow 10 count)

/-- Fits a number into the digits and exponents of a sum. -/
def fit (negative : Bool) (coefficient : Nat) (exponent : Int) : Except Trouble Decimal :=
  if coefficient = 0 then
    .ok (.finite negative 0 (max sumLeastExponent (min sumGreatestPower exponent)))
  else
    let excess : Int := max (digitCount coefficient - precision) (sumLeastExponent - exponent)
    let (coefficient, exponent) :=
      if excess ≤ 0 then (coefficient, exponent)
      else if digitCount coefficient < excess then (0, exponent + excess)
      else (dropDigits coefficient excess.toNat, exponent + excess)
    let (coefficient, exponent) :=
      if digitCount coefficient ≤ precision then (coefficient, exponent)
      else (coefficient / 10, exponent + 1)
    if coefficient ≠ 0 ∧ sumGreatestPower < leadingPower coefficient exponent then .error .overflow
    else .ok (.finite negative coefficient exponent)

/-- The sum of `m * 10 ^ d` and `n * 10 ^ e` with signs, where `e ≤ d`.  A second summand far below
the last digit kept is replaced by one unit that rounds alike. -/
def addAligned (a : Bool) (m : Nat) (d : Int) (b : Bool) (n : Nat) (e : Int) :
    Except Trouble Decimal :=
  let floor := d - 1 + min 0 ((digitCount m : Int) - precision - 1)
  let (n, e) :=
    if m ≠ 0 ∧ leadingPower n e < floor then ((if n = 0 then 0 else 1), floor) else (n, e)
  let m := if m = 0 then 0 else m * Nat.pow 10 (d - e).toNat
  let total := Number.withSign a m + Number.withSign b n
  let negative := if total = 0 then a && b else total < 0
  fit negative total.natAbs e

/-- The sum of two decimals. -/
def add : Decimal → Decimal → Except Trouble Decimal
  | .nan _ true _, _ => .error .invalid
  | _, .nan _ true _ => .error .invalid
  | .nan a false p, _ => .ok (.nan a false p)
  | _, .nan b false p => .ok (.nan b false p)
  | .infinite a, .infinite b => if a = b then .ok (.infinite a) else .error .invalid
  | .infinite a, .finite .. => .ok (.infinite a)
  | .finite .., .infinite b => .ok (.infinite b)
  | .finite a m d, .finite b n e => if e ≤ d then addAligned a m d b n e else addAligned b n e a m d

/-- The sum of a list of decimals, from the left. -/
def sum (xs : List Decimal) : Except Trouble Decimal :=
  xs.foldlM add (.finite false 0 0)

/-! ## Binary numbers -/

/-- The binary number nearest to a decimal. -/
def toBinary64 : Decimal → Binary64
  | .finite negative coefficient exponent => .ofDecimal negative coefficient exponent
  | .infinite negative => .infinite negative
  | .nan .. => .nan

/-- The decimal that a finite binary number is written as. -/
def ofBinary64 : Binary64 → Decimal
  | .nan => .nan false false 0
  | .infinite negative => .infinite negative
  | .finite negative significand unit =>
    match read (Binary64.written (.finite negative significand unit)) with
    | .ok d => d
    | .error _ => .nan false false 0

/-- The decimal that equals a finite binary number. -/
def exactly : Binary64 → Decimal
  | .nan => .nan false false 0
  | .infinite negative => .infinite negative
  | .finite negative significand unit =>
    .finite negative (significand * Nat.pow 2 unit * Nat.pow 5 1074) (-1074)

end Decimal

end QueryDesk
