import QueryDesk.Text.Quoted
import QueryDesk.Number.Decimal

/-!
# Faults

Everything that can go wrong while a question is answered, by cause.  A fault travels to the caller
of the operation that met it, unless something on the way turns it into a record in the state
`error` or into an answer of its own.  `Fault.message` is the wording of each cause.

A value is named in a message by its kind, for instance `str` or `datetime.datetime`.
-/

set_option autoImplicit false

namespace QueryDesk

/-- What went wrong. -/
inductive Fault
  -- Numbers.
  /-- A whole number is too long to be read; so many digits. -/
  | numeralTooLong (count : Nat)
  /-- A whole number is too long to be written. -/
  | wholeTooLong
  | notWhole (literal : Text)
  | notReal (literal : Text)
  | wholeFromKind (kind : String)
  | realFromKind (kind : String)
  | decimalFromKind (kind : String)
  | wholeTooLargeForReal
  | wholeFromInfinity
  | wholeFromUndefined
  | decimal (trouble : Decimal.Trouble)
  -- Instants.
  /-- A timestamp with a known distance from universal time meets one without. -/
  | mixedClocks
  | timestampWithDate
  | yearOutOfRange (year : Int)
  | yearAboveWord
  | yearBelowWord
  | yearBeyondWords
  -- Values of any kind.
  | notOrdered (left right : String)
  | notIterable (kind : String)
  | notSerializable (kind : String)
  | noSuchPart (kind part : String)
  | notJoinable (index : Nat) (kind : String)
  /-- A number that is not finite has no form in a body. -/
  | notFinite
  -- Statements.
  | notSelect
  | noTable (supported : List Text)
  | badLimit (clause raw : Text)
  | unsupportedPredicate (shown : Text)
  /-- Filtering, sorting or limiting a table met another fault. -/
  | execution (table : Text) (cause : Fault)
  -- Records.
  | unknownQuery (id : Text)
  | unknownCollection (name : Text)
  | alreadyFinished (id status : Text)
  -- Generation of statements.
  | generation (message : Text)
  | modelLibraryMissing
  | modelKeyMissing (name : Text)
  -- Log files and other files.
  | unknownEvent (name : Text)
  /-- A lone half of a surrogate pair cannot be written as bytes. -/
  | notEncodable (text : Text) (first last : Nat)
  | noSuchFile (path : Text)
  | fileExists (path : Text)
  | notADirectory (path : Text)
  | isADirectory (path : Text)
  /-- The home folder of somebody else is not known. -/
  | noHome
  | malformedSettings
  | codeOutOfRange
  | codeBeyondWord
  /-- A part of a date or a time of day lies outside its bounds. -/
  | timePartOutOfRange (part : String) (least most : Nat)
  | dayOutOfRange
  /-- A clock is a day or more away from universal time; its distance, shown. -/
  | aheadOutOfRange (shown : Text)
  /-- Digits in some base spell no whole number. -/
  | notWholeIn (base : Nat) (literal : Text)
  | noFirstGlyph
  | noSuchKey (key : Text)
  -- The programs.
  /-- A demand to stop the program, with a status. -/
  | stop (status : Nat)
  /-- A fault of some other kind from outside, with its own message. -/
  | foreign (kind message : Text)
  deriving DecidableEq, Repr

namespace Fault

/-- The wording of a trouble with decimals. -/
def decimalMessage : Decimal.Trouble → Text
  | .malformed => Text.of "[<class 'decimal.ConversionSyntax'>]"
  | .invalid => Text.of "[<class 'decimal.InvalidOperation'>]"
  | .overflow => Text.of "[<class 'decimal.Overflow'>]"

/-- The wording for lone halves at a range of positions. -/
def notEncodableMessage (text : Text) (first last : Nat) : Text :=
  let codec := Text.of "'utf-8' codec can't encode character"
  let tail := Text.of ": surrogates not allowed"
  if first = last then
    let shown := (text[first]?.map fun g => Text.quotedGlyph '\'' g).getD []
    codec ++ Text.of " '" ++ shown ++ Text.of "' in position " ++ Number.digits first ++ tail
  else
    codec ++ Text.of "s in position " ++ Number.digits first ++ .char '-' :: Number.digits last
      ++ tail

/-- The wording of a fault. -/
def message : Fault → Text
  | numeralTooLong count =>
    Text.of "Exceeds the limit (4300 digits) for integer string conversion: value has "
      ++ Number.digits count
      ++ Text.of " digits; use sys.set_int_max_str_digits() to increase the limit"
  | wholeTooLong =>
    Text.of ("Exceeds the limit (4300 digits) for integer string conversion; "
      ++ "use sys.set_int_max_str_digits() to increase the limit")
  | notWhole literal =>
    Text.of "invalid literal for int() with base 10: " ++ literal.quoted.take 200
  | notReal literal => Text.of "could not convert string to float: " ++ literal.quoted
  | wholeFromKind kind =>
    Text.of "int() argument must be a string, a bytes-like object or a real number, not '"
      ++ Text.of kind ++ Text.of "'"
  | realFromKind kind =>
    Text.of "float() argument must be a string or a real number, not '" ++ Text.of kind
      ++ Text.of "'"
  | decimalFromKind kind =>
    Text.of "conversion from " ++ Text.of kind ++ Text.of " to Decimal is not supported"
  | wholeTooLargeForReal => Text.of "int too large to convert to float"
  | wholeFromInfinity => Text.of "cannot convert float infinity to integer"
  | wholeFromUndefined => Text.of "cannot convert float NaN to integer"
  | decimal trouble => decimalMessage trouble
  | mixedClocks => Text.of "can't compare offset-naive and offset-aware datetimes"
  | timestampWithDate => Text.of "can't compare datetime.datetime to datetime.date"
  | yearOutOfRange year =>
    Text.of "year " ++ Number.signedDigits year ++ Text.of " is out of range"
  | yearAboveWord => Text.of "signed integer is greater than maximum"
  | yearBelowWord => Text.of "signed integer is less than minimum"
  | yearBeyondWords => Text.of "Python int too large to convert to C long"
  | notOrdered left right =>
    Text.of "'<=' not supported between instances of '" ++ Text.of left ++ Text.of "' and '"
      ++ Text.of right ++ Text.of "'"
  | notIterable kind => Text.of "'" ++ Text.of kind ++ Text.of "' object is not iterable"
  | notSerializable kind =>
    Text.of "Object of type " ++ Text.of kind ++ Text.of " is not JSON serializable"
  | noSuchPart kind part =>
    Text.of "'" ++ Text.of kind ++ Text.of "' object has no attribute '" ++ Text.of part
      ++ Text.of "'"
  | notJoinable index kind =>
    Text.of "sequence item " ++ Number.digits index ++ Text.of ": expected str instance, "
      ++ Text.of kind ++ Text.of " found"
  | notFinite => Text.of "Out of range float values are not JSON compliant"
  | notSelect => Text.of "Only SELECT queries are supported"
  | noTable supported =>
    Text.of "No valid table found in query. Supported tables: "
      ++ Text.join (Text.of ", ") supported
  | badLimit clause raw =>
    Text.of "Invalid " ++ clause ++ Text.of " value '" ++ raw
      ++ Text.of "'; expected a non-negative integer"
  | unsupportedPredicate shown => Text.of "Unsupported predicate " ++ shown
  | execution table cause =>
    Text.of "SQL execution error on " ++ table ++ Text.of ": " ++ cause.message
  | unknownQuery id => id.quoted
  | unknownCollection name => (Text.of "Unknown table '" ++ name ++ Text.of "'").quoted
  | alreadyFinished id status =>
    Text.of "Query '" ++ id ++ Text.of "' already finished with status '" ++ status ++ Text.of "'"
  | generation message => message
  | modelLibraryMissing =>
    Text.of "openai package is required. Install openai>=1.0 to enable SQL generation."
  | modelKeyMissing name =>
    Text.of "Environment variable '" ++ name ++ Text.of "' must be set for SQL generation"
  | unknownEvent name => Text.of "Unknown query event '" ++ name ++ Text.of "'"
  | notEncodable text first last => notEncodableMessage text first last
  | noSuchFile path => Text.of "[Errno 2] No such file or directory: " ++ path.quoted
  | fileExists path => Text.of "[Errno 17] File exists: " ++ path.quoted
  | notADirectory path => Text.of "[Errno 20] Not a directory: " ++ path.quoted
  | isADirectory path => Text.of "[Errno 21] Is a directory: " ++ path.quoted
  | noHome => Text.of "Could not determine home directory."
  | malformedSettings => []
  | codeOutOfRange => Text.of "chr() arg not in range(0x110000)"
  | codeBeyondWord => Text.of "signed integer is greater than maximum"
  | timePartOutOfRange part least most =>
    Text.of part ++ Text.of " must be in " ++ Number.digits least ++ Text.of ".."
      ++ Number.digits most
  | dayOutOfRange => Text.of "day is out of range for month"
  | aheadOutOfRange shown =>
    Text.of "offset must be a timedelta strictly between -timedelta(hours=24) and "
      ++ Text.of "timedelta(hours=24), not " ++ shown
  | notWholeIn base literal =>
    Text.of "invalid literal for int() with base " ++ Number.digits base ++ Text.of ": "
      ++ literal.quoted.take 200
  | noFirstGlyph => Text.of "string index out of range"
  | noSuchKey key => key.quoted
  | stop status => Number.digits status
  | foreign _ message => message

/-- Tests for a fault that is a demand to stop, so that nobody on the way may hold it up. -/
def isDemandToStop : Fault → Bool
  | stop _ => true
  | foreign kind _ =>
    [Text.of "SystemExit", Text.of "KeyboardInterrupt", Text.of "GeneratorExit",
      Text.of "BaseException"].contains kind
  | _ => false

/-- Tests for a fault of reading a statement or of running it on a table. -/
def isStatementFault : Fault → Bool
  | notSelect | noTable _ | badLimit .. | execution .. => true
  | _ => false

end Fault

end QueryDesk
