import QueryDesk.Number.Whole

/-!
# Binary floating-point numbers of 64 bits

A finite number is a sign, a significand below 2^53 and the exponent of its unit over the least
unit 2^-1074, so that every finite number is an integer multiple of the least unit (`scaled`).
Each operation computes its exact result as a fraction of integers and rounds it once, to the
nearest number, a tie to the even significand (`round`); beyond the range the result is infinite.

Numbers are kept canonical: the significand has 53 bits unless the unit is the least one.
-/

set_option autoImplicit false

namespace QueryDesk

/-- A binary floating-point number. -/
inductive Binary64
  | nan
  | infinite (negative : Bool)
  /-- The number `significand * 2 ^ unit` in units of 2^-1074, with a sign. -/
  | finite (negative : Bool) (significand unit : Nat)
  deriving DecidableEq, Repr

namespace Binary64

/-! ## Rounding -/

/-- Divides and rounds to the nearest integer, a tie to the even one. -/
def roundDiv (num den : Nat) : Nat :=
  let q := num / den
  let r := num % den
  if 2 * r < den then q
  else if den < 2 * r then q + 1
  else if q % 2 = 0 then q else q + 1

/-- The number nearest to `num / den` least units. -/
def roundUnits (negative : Bool) (num den : Nat) : Binary64 :=
  let unit := Nat.log2 (num / den) - 52
  let significand := roundDiv num (den * Nat.pow 2 unit)
  let (significand, unit) :=
    if significand = Nat.pow 2 53 then (Nat.pow 2 52, unit + 1) else (significand, unit)
  if 2045 < unit then .infinite negative else .finite negative significand unit

/-- The number nearest to the fraction `num / den`. -/
def round (negative : Bool) (num den : Nat) : Binary64 :=
  roundUnits negative (num * Nat.pow 2 1074) den

/-- Zero, with a sign. -/
def zero (negative : Bool) : Binary64 := .finite negative 0 0

/-- The number nearest to `n * 10 ^ e`.  Exponents far outside the range are decided by size, so
that no power of ten is computed for them. -/
def ofDecimal (negative : Bool) (n : Nat) (e : Int) : Binary64 :=
  if n = 0 then zero negative
  else
    let magnitude : Int := (Number.digits n).length + e
    if 400 < magnitude then .infinite negative
    else if magnitude < -400 then zero negative
    else if 0 ≤ e then round negative (n * Nat.pow 10 e.toNat) 1
    else round negative n (Nat.pow 10 (-e).toNat)

/-- The number nearest to a whole number, if it is within the range. -/
def ofInt? (n : Int) : Option Binary64 :=
  match round (n < 0) n.natAbs 1 with
  | .finite negative significand unit => some (.finite negative significand unit)
  | _ => none

/-! ## Parts of a number -/

/-- The sign: `true` for numbers below zero and for negative zero. -/
def isNegative : Binary64 → Bool
  | .nan => false
  | .infinite negative => negative
  | .finite negative _ _ => negative

/-- Tests that a number is neither infinite nor undefined. -/
def isFinite : Binary64 → Bool
  | .finite .. => true
  | _ => false

/-- A finite number in least units. -/
def scaled : Binary64 → Int
  | .finite negative significand unit => Number.withSign negative (significand * Nat.pow 2 unit)
  | _ => 0

/-- The whole part of a finite number, towards zero. -/
def truncate (x : Binary64) : Int := x.scaled.tdiv (Nat.pow 2 1074)

/-! ## Comparison -/

/-- Where two numbers stand to each other; an undefined number stands nowhere. -/
def compare? : Binary64 → Binary64 → Option Ordering
  | .nan, _ => none
  | _, .nan => none
  | .infinite a, .infinite b => some (compare b.toNat a.toNat)
  | .infinite a, .finite .. => some (if a then .lt else .gt)
  | .finite .., .infinite b => some (if b then .gt else .lt)
  | x, y => some (compare x.scaled y.scaled)

/-- Tests that a number is less than another. -/
def lt (x y : Binary64) : Bool := x.compare? y == some .lt

/-! ## Arithmetic -/

/-- A whole count of least units as a number; `negativeZero` is the sign of zero. -/
def ofScaled (n : Int) (negativeZero : Bool) : Binary64 :=
  if n = 0 then zero negativeZero else roundUnits (n < 0) n.natAbs 1

/-- The sum. -/
def add : Binary64 → Binary64 → Binary64
  | .nan, _ => .nan
  | _, .nan => .nan
  | .infinite a, .infinite b => if a = b then .infinite a else .nan
  | .infinite a, .finite .. => .infinite a
  | .finite .., .infinite b => .infinite b
  | x, y => ofScaled (x.scaled + y.scaled) (x.isNegative && y.isNegative)

/-- The number with the other sign. -/
def neg : Binary64 → Binary64
  | .nan => .nan
  | .infinite negative => .infinite !negative
  | .finite negative significand unit => .finite (!negative) significand unit

/-- The difference. -/
def sub (x y : Binary64) : Binary64 := x.add y.neg

/-- The product. -/
def mul : Binary64 → Binary64 → Binary64
  | .nan, _ => .nan
  | _, .nan => .nan
  | .finite a m u, .finite b n v =>
    if m * n = 0 then zero (a != b)
    else roundUnits (a != b) (m * n * Nat.pow 2 (u + v)) (Nat.pow 2 1074)
  | .infinite a, .finite b n _ => if n = 0 then .nan else .infinite (a != b)
  | .finite a m _, .infinite b => if m = 0 then .nan else .infinite (a != b)
  | .infinite a, .infinite b => .infinite (a != b)

/-- The part of a finite number behind the point, with its sign. -/
def fraction (x : Binary64) : Binary64 :=
  ofScaled (x.scaled - x.truncate * Nat.pow 2 1074) x.isNegative

/-- The nearest whole number to a finite number, a tie to the even one. -/
def nearestInt (x : Binary64) : Int :=
  Number.withSign x.isNegative (roundDiv x.scaled.natAbs (Nat.pow 2 1074))

/-! ## Constants -/

/-- The whole number `n`, for `n` below 2^53. -/
def ofNat (n : Nat) : Binary64 := round false n 1

end Binary64

end QueryDesk
