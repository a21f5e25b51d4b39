import QueryDesk.Journal.Folder
import QueryDesk.Calendar.IsoText

/-!
# Names of journal files

The file of a query is named for the time of its first entry and for its id, in which all but ASCII
letters, digits, low lines and dashes is replaced.
-/

set_option autoImplicit false

namespace QueryDesk
namespace Naming

/-- Tests for a glyph that a name keeps. -/
def isPlain (g : Glyph) : Bool := g.isAsciiLetter || g.isAsciiDigit || g.isOneOf ['_', '-']

/-- Puts one dash in the place of each run of glyphs that a name does not keep; the flag says that
such a run is open. -/
def dashed : Bool → Text → Text
  | _, [] => []
  | isOpen, g :: rest =>
    if isPlain g then g :: dashed false rest
    else if isOpen then dashed true rest
    else .char '-' :: dashed true rest

/-- An id as part of a name. -/
def plainId (id : Text) : Text :=
  let cleaned := dashed false id.trim
  if cleaned.isEmpty then Text.of "query" else cleaned

/-- What a clock shows, to the millisecond and without signs but a `T` between day and time. -/
def slug (t : Timestamp) : Text :=
  Number.digits t.date.year ++ Number.paddedDigits 2 t.date.month
    ++ Number.paddedDigits 2 t.date.day ++ .char 'T' :: Number.paddedDigits 2 t.hour
    ++ Number.paddedDigits 2 t.minute ++ Number.paddedDigits 2 t.second
    ++ Number.paddedDigits 3 (t.micro / 1000)

/-- The text without a `Z` at its end. -/
def withoutZone (t : Text) : Text :=
  if t.getLast? = some (.char 'Z') then t.dropLast else t

/-- The timestamp that a text spells, with a `Z` at its end left aside. -/
def time? (raw : Text) : Option Timestamp :=
  if raw.trim.isEmpty then none else Timestamp.read? (withoutZone raw.trim)

/-- The name of the file of a query, given the slug of a time. -/
def fileName (slug id : Text) : Text :=
  slug ++ .char '-' :: plainId id ++ Text.of ".jsonl"

end Naming
end QueryDesk
