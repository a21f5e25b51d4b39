import QueryDesk.Yaml.Cursor
import QueryDesk.Yaml.TimeForm

/-!
# Kinds of nodes

Every node has a kind, which says what it is read as.  A tag may name it; a plain scalar without a
tag gets its kind from its looks (`Kind.ofPlain`), and other nodes have a usual kind.
-/

set_option autoImplicit false

namespace QueryDesk
namespace Yaml

/-- What a node is read as. -/
inductive Kind
  | null
  | flag
  | whole
  | real
  | time
  | text
  | sequence
  | mapping
  | set
  | pairs
  /-- The key under which another mapping is merged in. -/
  | merge
  /-- The key that stands for a mapping as a whole. -/
  | default
  /-- A kind that is not known here. -/
  | unknown
  deriving DecidableEq

namespace Kind

/-- The front of the tags of all known kinds. -/
def family : Text := Text.of "tag:yaml.org,2002:"

/-- The names of the kinds. -/
def names : List (String × Kind) :=
  [("null", .null), ("bool", .flag), ("int", .whole), ("float", .real), ("timestamp", .time),
    ("str", .text), ("seq", .sequence), ("map", .mapping), ("set", .set), ("omap", .pairs),
    ("pairs", .pairs), ("merge", .merge), ("value", .default)]

/-- The kind that a tag names. -/
def ofTag (tag : Text) : Kind :=
  match names.find? fun p => family ++ Text.of p.1 == tag with
  | some p => p.2
  | none => .unknown

/-- Tests for a kind of scalars. -/
def isScalar : Kind → Bool
  | null | flag | whole | real | time | text => true
  | _ => false

/-! ## The looks of plain scalars

Each test takes a text as a whole.  They follow the forms of YAML 1.1: numbers may hold low lines
and be written in base sixty, and `yes` and `off` are flags. -/

/-- Tests that all of a text, at least one glyph, is of a class. -/
def isRun (test : Glyph → Bool) (t : Text) : Bool := !t.isEmpty && t.all test

/-- Tests for a digit or a low line. -/
def isGroupedDigit (g : Glyph) : Bool := g.isAsciiDigit || g.isOneOf ['_']

/-- The text without a sign. -/
def withoutSign : Text → Text
  | g :: rest => if g.isOneOf ['+', '-'] then rest else g :: rest
  | [] => []

/-- Tests for a digit and perhaps further digits and low lines. -/
def isGrouped : Text → Bool
  | g :: rest => g.isAsciiDigit && rest.all isGroupedDigit
  | [] => false

/-- Tests for a part of a number in base sixty. -/
def isSixtieth : Text → Bool
  | [g] => g.isAsciiDigit
  | [g, h] => g.isOneOf ['0', '1', '2', '3', '4', '5'] && h.isAsciiDigit
  | _ => false

/-- Tests for one of several words. -/
def isWord (words : List String) (t : Text) : Bool := words.any fun w => Text.of w == t

/-- Tests for a flag. -/
def looksFlag : Text → Bool :=
  isWord ["yes", "Yes", "YES", "no", "No", "NO", "true", "True", "TRUE", "false", "False", "FALSE",
    "on", "On", "ON", "off", "Off", "OFF"]

/-- Tests for a null. -/
def looksNull : Text → Bool := isWord ["", "~", "null", "Null", "NULL"]

/-- Tests for a power of ten with its sign, or nothing. -/
def isPower : Text → Bool
  | [] => true
  | e :: sign :: digits =>
    e.isOneOf ['e', 'E'] && sign.isOneOf ['+', '-'] && isRun Glyph.isAsciiDigit digits
  | _ => false

/-- Tests for places behind a point, and perhaps a power of ten. -/
def isPlaces (t : Text) : Bool := isPower (t.dropWhile isGroupedDigit)

/-- Tests for whole parts in base sixty, the first one of any size and at least one more. -/
def isSexagesimal (first : Text → Bool) (t : Text) : Bool :=
  match Text.splitAt (.char ':') t with
  | head :: part :: parts => first head && (part :: parts).all isSixtieth
  | _ => false

/-- Tests for the digits in front of a point and the places behind it, without a sign. -/
def isPointed (front places : Text) : Bool :=
  isGrouped front && isPlaces places
    || isSexagesimal isGrouped front && places.all isGroupedDigit
    || front.isEmpty && isWord ["inf", "Inf", "INF"] places

/-- Tests for a number with a point.  Without a digit in front of the point there may be no sign,
unless the number is infinite. -/
def looksReal (t : Text) : Bool :=
  let bare := withoutSign t
  match bare.dropWhile (· != .char '.') with
  | [] => false
  | _ :: places =>
    let front := bare.takeWhile (· != .char '.')
    isPointed front places
      || t.head? == some (.char '.')
        && (places.head?.any Glyph.isAsciiDigit && isPlaces places
          || isWord ["nan", "NaN", "NAN"] places)

/-- Tests for a digit other than zero and perhaps further digits and low lines. -/
def isGroupedFromOne (t : Text) : Bool := isGrouped t && t.head? != some (.char '0')

/-- Tests for a whole number. -/
def looksWhole (t : Text) : Bool :=
  let bare := withoutSign t
  bare == [.char '0'] || isGroupedFromOne bare || isSexagesimal isGroupedFromOne bare
    || match bare with
      | zero :: rest =>
        zero == .char '0' &&
          (isRun (·.isOneOf ['0', '1', '2', '3', '4', '5', '6', '7', '_']) rest ||
            match rest with
            | base :: digits =>
              base == .char 'b' && isRun (·.isOneOf ['0', '1', '_']) digits
                || base == .char 'x' && isRun isHexadecimal digits
            | [] => false)
      | [] => false
where
  /-- Tests for a digit in base sixteen or a low line. -/
  isHexadecimal (g : Glyph) : Bool :=
    isGroupedDigit g || g.isOneOf ['a', 'b', 'c', 'd', 'e', 'f', 'A', 'B', 'C', 'D', 'E', 'F']

/-- The kind of a plain scalar without a tag. -/
def ofPlain (t : Text) : Kind :=
  if looksFlag t then .flag
  else if looksReal t then .real
  else if looksWhole t then .whole
  else if isWord ["<<"] t then .merge
  else if looksNull t then .null
  else if TimeForm.looksTime t then .time
  else if isWord ["="] t then .default
  else .text

end Kind
end Yaml
end QueryDesk
