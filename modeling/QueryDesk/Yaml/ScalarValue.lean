import QueryDesk.Yaml.Kind

/-!
# Values of scalars

A scalar of a kind is read by the rules of that kind.  A tag may give a text a kind that its looks
do not bear out; then reading it may fault.
-/

set_option autoImplicit false

namespace QueryDesk
namespace Yaml
namespace ScalarValue

/-- The text without low lines. -/
def withoutLowLines (t : Text) : Text := t.filter (· != .char '_')

/-- Splits a sign off; a text without any glyph is a fault. -/
def takeSign (t : Text) : Except Fault (Bool × Text) :=
  if t.isEmpty then .error .noFirstGlyph else .ok (Number.takeSign t)

/-! ## Whole numbers -/

/-- Reads a whole number in base ten. -/
def decimalWhole (t : Text) : Except Fault Int :=
  match Number.readWhole t with
  | .read n => .ok n
  | .tooLong count => .error (.numeralTooLong count)
  | .malformed => .error (.notWhole t)

/-- The value of a digit: a decimal digit of any script or a Latin letter up to F. -/
def digitValue? (g : Glyph) : Option Nat :=
  match g with
  | .char c =>
    if 'a' ≤ c ∧ c ≤ 'f' then some (c.toNat - 87)
    else if 'A' ≤ c ∧ c ≤ 'F' then some (c.toNat - 55)
    else g.digitValue?
  | .lone _ => none

/-- The mark of a base, which may stand in front of digits in that base. -/
def baseMark (base : Nat) : Text :=
  Text.of (if base = 2 then "0b" else if base = 8 then "0o" else "0x")

/-- Reads digits in a base: blanks around them, a sign and the mark of the base may be there. -/
def basedWhole (base : Nat) (t : Text) : Except Fault Int :=
  let (negative, body) := Number.takeSign t.trim
  let body := if (baseMark base).isPrefixOf body.lower then body.drop 2 else body
  match body.mapM fun g => (digitValue? g).filter (· < base) with
  | some values =>
    if values.isEmpty then .error (.notWholeIn base t)
    else .ok (Number.withSign negative (values.foldl (fun n d => base * n + d) 0))
  | none => .error (.notWholeIn base t)

/-- Reads a whole number in base sixty, its parts in base ten. -/
def sexagesimalWhole (t : Text) : Except Fault Int := do
  let parts ← (Text.splitAt (.char ':') t).mapM decimalWhole
  .ok (parts.foldl (fun n part => 60 * n + part) 0)

/-- Reads a whole number without a sign: in base two, sixteen or eight by its front, in base sixty
by its colons, and else in base ten. -/
def magnitude (t : Text) : Except Fault Int :=
  if t = [.char '0'] then .ok 0
  else if (Text.of "0b").isPrefixOf t then basedWhole 2 (t.drop 2)
  else if (Text.of "0x").isPrefixOf t then basedWhole 16 (t.drop 2)
  else
    match t with
    | [] => .error .noFirstGlyph
    | g :: _ =>
      if g = .char '0' then basedWhole 8 t
      else if t.contains (.char ':') then sexagesimalWhole t
      else decimalWhole t

/-- Reads a whole number. -/
def whole (t : Text) : Except Fault Int := do
  let (negative, t) ← takeSign (withoutLowLines t)
  let n ← magnitude t
  .ok (if negative then -n else n)

/-! ## Real numbers -/

/-- Reads a real number in base ten. -/
def decimalReal (t : Text) : Except Fault Binary64 :=
  match Binary64.read? t with
  | some x => .ok x
  | none => .error (.notReal t)

/-- The sum of parts, the last one first, each counted sixty times as much as the one before. -/
def sexagesimalSum (sum : Binary64) (base : Int) : List Binary64 → Except Fault Binary64
  | [] => .ok sum
  | part :: parts =>
    match Binary64.ofInt? base with
    | some factor => sexagesimalSum (sum.add (part.mul factor)) (60 * base) parts
    | none => .error .wholeTooLargeForReal

/-- Reads a real number. -/
def real (t : Text) : Except Fault Binary64 := do
  let (negative, t) ← takeSign (withoutLowLines t).lower
  if t = Text.of ".inf" then .ok (.infinite negative)
  else if t = Text.of ".nan" then .ok .nan
  else
    let x ←
      if t.contains (.char ':') then do
        let parts ← (Text.splitAt (.char ':') t).mapM decimalReal
        sexagesimalSum (.zero false) 1 parts.reverse
      else decimalReal t
    .ok (if negative then x.neg else x)

/-! ## All kinds -/

/-- Reads a flag, in any mixture of cases. -/
def flag (t : Text) : Except Fault Bool :=
  if Kind.isWord ["yes", "true", "on"] t.lower then .ok true
  else if Kind.isWord ["no", "false", "off"] t.lower then .ok false
  else .error (.noSuchKey t.lower)

/-- Reads a date or a time. -/
def time (t : Text) : Except Fault Value :=
  match TimeForm.read? t with
  | some form => form.value
  | none => .error (.noSuchPart "NoneType" "groupdict")

/-- Reads a scalar of a kind. -/
def read (kind : Kind) (t : Text) : Except Fault Value :=
  match kind with
  | .null => .ok .null
  | .flag => (flag t).map .flag
  | .whole => (whole t).map .whole
  | .real => (real t).map .real
  | .time => time t
  | .text => .ok (.text t)
  | _ => malformed

end ScalarValue
end Yaml
end QueryDesk
