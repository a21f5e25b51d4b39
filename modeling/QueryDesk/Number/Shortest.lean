import QueryDesk.Number.Binary64
import QueryDesk.Text.Casing

/-!
# Binary numbers in writing

A binary number is written with the fewest decimal digits that read back as that number, and of
those with the digits nearest to it.  The number of digits is searched from one up: on each decimal
grid the two neighbours of the number are tried, so the first grid with a hit decides.  Positional
notation is used from 10^-4 up to 10^16, and an exponent of two digits at least beyond.
-/

set_option autoImplicit false

namespace QueryDesk
namespace Binary64

/-! ## The digits -/

/-- `n * 10 ^ e` as a fraction. -/
def tenFraction (n : Nat) (e : Int) : Nat × Nat :=
  if 0 ≤ e then (n * Nat.pow 10 e.toNat, 1) else (n, Nat.pow 10 (-e).toNat)

/-- The exponent `k` with `10 ^ (k - 1) ≤ num / den < 10 ^ k`, searched upwards from a lower
bound. -/
def decimalExponent (num den : Nat) : Nat → Int → Int
  | 0, k => k
  | tries + 1, k =>
    let (top, bottom) := tenFraction 1 k
    if num * bottom < top * den then k else decimalExponent num den tries (k + 1)

/-- The digits and the exponent of a neighbour on the grid, if it reads back as the number. -/
def readsBack? (significand unit n : Nat) (e : Int) : Option (Nat × Int) :=
  let (top, bottom) := tenFraction n e
  if round false top bottom = .finite false significand unit then some (n, e) else none

/-- Of the two neighbours of `num / den` the nearest that is a hit. -/
def nearestHit? (hit : Nat → Option (Nat × Int)) (num den : Nat) : Option (Nat × Int) :=
  let low := num / den
  let excess := num % den
  match hit low, hit (low + 1) with
  | some a, some b =>
    some (if 2 * excess < den then a
      else if den < 2 * excess then b
      else if low % 2 = 0 then a else b)
  | some a, none => some a
  | none, found => found

/-- The first hit for a count and for those that follow, so many tries in all. -/
def firstHit (hit : Nat → Option (Nat × Int)) (otherwise : Nat × Int) : Nat → Nat → Nat × Int
  | 0, _ => otherwise
  | tries + 1, count =>
    match hit count with
    | some found => found
    | none => firstHit hit otherwise tries (count + 1)

/-- The first grid, by its count of digits, with a neighbour that reads back. -/
def searchGrid (significand unit : Nat) (num den : Nat) (k : Int) : Nat × Int :=
  firstHit (fun count =>
    let e := k - count
    let (top, bottom) := tenFraction 1 e
    nearestHit? (fun n => readsBack? significand unit n e) (num * bottom) (den * top))
    (significand, 0) 18 1

/-- Drops trailing zeros of a decimal. -/
def dropZeros : Nat → Nat → Int → Nat × Int
  | 0, n, e => (n, e)
  | tries + 1, n, e => if n % 10 = 0 then dropZeros tries (n / 10) (e + 1) else (n, e)

/-- The shortest decimal `n * 10 ^ e` that reads back as a positive finite number. -/
def shortest (significand unit : Nat) : Nat × Int :=
  let num := significand * Nat.pow 2 unit
  let den := Nat.pow 2 1074
  -- 2^a ≤ x gives 10^(a * 3 / 10 - 1) ≤ x for every binary exponent in range, with room to spare.
  let binary : Int := (Nat.log2 num : Int) - 1074
  let k := decimalExponent num den 100 (binary * 301 / 1000 - 1)
  let found := searchGrid significand unit num den k
  dropZeros 20 found.1 found.2

/-! ## The notation -/

/-- How a number is laid out in writing. -/
structure Notation where
  /-- Below this decimal exponent an exponent is written. -/
  least : Int
  /-- From this decimal exponent on an exponent is written. -/
  greatest : Int
  /-- The spelling of undefined, infinite and negative infinite. -/
  undefinedText : String
  infiniteText : String
  negativeInfiniteText : String

/-- The notation of numbers shown to people. -/
def plainNotation : Notation := ⟨-4, 16, "nan", "inf", "-inf"⟩

/-- The notation of numbers in stored rows and log lines. -/
def storedNotation : Notation := ⟨-4, 16, "NaN", "Infinity", "-Infinity"⟩

/-- An exponent with its sign and at least two digits. -/
def exponentText (e : Int) : Text :=
  (if e < 0 then Glyph.char '-' else .char '+') :: Number.paddedDigits 2 e.natAbs

/-- The decimal `n * 10 ^ e` laid out, positional where the notation says so. -/
def layOut (notn : Notation) (n : Nat) (e : Int) : Text :=
  let ds := Number.digits n
  let point : Int := ds.length + e
  if notn.least < point ∧ point ≤ notn.greatest then
    if point ≤ 0 then
      Text.of "0." ++ List.replicate (-point).toNat (.char '0') ++ ds
    else if point < ds.length then
      ds.take point.toNat ++ .char '.' :: ds.drop point.toNat
    else ds ++ List.replicate (point.toNat - ds.length) (.char '0') ++ Text.of ".0"
  else
    let mantissa := match ds with
      | [] => []
      | [d] => [d]
      | d :: more => d :: .char '.' :: more
    mantissa ++ .char 'e' :: exponentText (point - 1)

/-- A number in a notation. -/
def writtenIn (notn : Notation) : Binary64 → Text
  | .nan => Text.of notn.undefinedText
  | .infinite negative =>
    Text.of (if negative then notn.negativeInfiniteText else notn.infiniteText)
  | .finite negative significand unit =>
    let magnitude :=
      if significand = 0 then Text.of "0.0"
      else
        let (n, e) := shortest significand unit
        layOut notn n e
    if negative then .char '-' :: magnitude else magnitude

/-- A number as people see it. -/
def written : Binary64 → Text := writtenIn plainNotation

/-- A finite number with a fixed count of places behind the point, a tie to the even last digit. -/
def fixed (places : Nat) (x : Binary64) : Text :=
  let n := roundDiv (x.scaled.natAbs * Nat.pow 10 places) (Nat.pow 2 1074)
  let ds := Number.paddedDigits (places + 1) n
  let sign := if x.isNegative then [Glyph.char '-'] else []
  let cut := ds.length - places
  if places = 0 then sign ++ ds else sign ++ ds.take cut ++ .char '.' :: ds.drop cut

/-! ## Reading -/

/-- Digits of any script, which single low lines may separate, from the front of a text: their
values and what follows. -/
def takeDigits : Text → List Nat × Text
  | [] => ([], [])
  | [g] =>
    match g.digitValue? with
    | none => ([], [g])
    | some d => ([d], [])
  | g :: h :: rest =>
    match g.digitValue? with
    | none => ([], g :: h :: rest)
    | some d =>
      if h = .char '_' then
        match takeDigits rest with
        | ([], _) => ([d], h :: rest)
        | (ds, behind) => (d :: ds, behind)
      else
        let (ds, behind) := takeDigits (h :: rest)
        (d :: ds, behind)

/-- The exponent part of a number, if there is one: its value and what follows. -/
def takeExponent (t : Text) : Int × Text :=
  match t with
  | g :: rest =>
    if g.isOneOf ['e', 'E'] then
      let (negative, body) := Number.takeSign rest
      match takeDigits body with
      | ([], _) => (0, t)
      | (ds, behind) => (Number.withSign negative (Number.ofDigitValues ds), behind)
    else (0, t)
  | [] => (0, t)

/-- The names of values that are no finite numbers, in lower case. -/
def named? (t : Text) : Option Binary64 :=
  if t = Text.of "inf" ∨ t = Text.of "infinity" then some (.infinite false)
  else if t = Text.of "nan" then some .nan
  else none

/-- Reads a number without sign and blanks. -/
def readMagnitude? (t : Text) : Option Binary64 :=
  match named? t.asciiLower with
  | some x => some x
  | none =>
    let (whole, behind) := takeDigits t
    let (places, behind) := match behind with
      | .char '.' :: more => takeDigits more
      | _ => ([], behind)
    if whole.isEmpty && places.isEmpty then none
    else
      let (e, behind) := takeExponent behind
      if behind.isEmpty then
        some (ofDecimal false (Number.ofDigitValues (whole ++ places)) (e - places.length))
      else none

/-- Reads a number: blanks around it, a sign, then a name, or digits with a point and an exponent;
single low lines may separate digits. -/
def read? (t : Text) : Option Binary64 :=
  let (negative, body) := Number.takeSign t.trim
  (readMagnitude? body).map fun x => if negative then x.neg else x

end Binary64
end QueryDesk
