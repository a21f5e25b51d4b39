import QueryDesk.Value.Written

/-!
# JSON in writing

Writes values as JSON text with a blank behind commas and colons and with characters outside ASCII
kept.  The writer sends one piece of text after the other, and what it has sent before it meets a
value that it cannot write stays sent: `Output` is the list of pieces together with the fault that
ended it, if any.  `write` is for those who want a whole text or a fault.

Decimals, timestamps, days and things have no JSON form; each writer is told how to turn them into
texts.
-/

set_option autoImplicit false

namespace QueryDesk
namespace Json

/-! ## Strings -/

/-- A glyph inside a string. -/
def escapedGlyph (g : Glyph) : Text :=
  if g = .char '"' then Text.of "\\\""
  else if g = .char '\\' then Text.of "\\\\"
  else if g = .char '\n' then Text.of "\\n"
  else if g = .char '\r' then Text.of "\\r"
  else if g = .char '\t' then Text.of "\\t"
  else if g = .char '\x0c' then Text.of "\\f"
  else if g = .char '\x08' then Text.of "\\b"
  else if g.code < 0x20 then Text.of "\\u" ++ Text.hexadecimal 4 g.code
  else [g]

/-- A text as a string. -/
def string (t : Text) : Text := .char '"' :: t.flatMap escapedGlyph ++ [.char '"']

/-! ## Output -/

/-- What a writer sent, piece by piece, and the fault that ended it. -/
structure Output where
  sent : List Text
  fault : Option Fault

namespace Output

/-- A piece on its own. -/
def piece (t : Text) : Output := ⟨[t], none⟩

/-- Nothing sent. -/
def nothing : Output := ⟨[], none⟩

/-- One output after the other; a fault ends it. -/
def andThen (a b : Output) : Output :=
  match a.fault with
  | some _ => a
  | none => ⟨a.sent ++ b.sent, b.fault⟩

/-- A piece that could not be made is not sent. -/
def attempt : Except Fault Text → Output
  | .ok t => piece t
  | .error f => ⟨[], some f⟩

/-- The whole text, if nothing went wrong. -/
def toExcept (o : Output) : Except Fault Text :=
  match o.fault with
  | some f => .error f
  | none => .ok o.sent.flatten

end Output

/-! ## Values -/

/-- How values without a JSON form become texts. -/
abbrev Fallback := Value → Except Fault Text

/-- A piece that opens a nested value, unless there is nothing to send. -/
def opening (lead : Text) : Output := if lead.isEmpty then .nothing else .piece lead

mutual

/-- Sends a value behind a lead.  The lead travels in one piece with a simple value and alone in
front of any other. -/
def send (fallback : Fallback) (lead : Text) : Value → Output
  | .null => .piece (lead ++ Text.of "null")
  | .flag b => .piece (lead ++ Text.of (if b then "true" else "false"))
  | .whole n => .attempt ((Value.writeWhole n).map (lead ++ ·))
  | .real x => .piece (lead ++ x.writtenIn Binary64.storedNotation)
  | .text t => .piece (lead ++ string t)
  | .list items =>
    (opening lead).andThen <|
      if items.isEmpty then .piece (Text.of "[]") else sendItems fallback (Text.of "[") items
  | .tuple items =>
    (opening lead).andThen <|
      if items.isEmpty then .piece (Text.of "[]") else sendItems fallback (Text.of "[") items
  | .record fields =>
    (opening lead).andThen <|
      if fields.isEmpty then .piece (Text.of "\x7b\x7d")
      else (Output.piece (Text.of "\x7b")).andThen (sendFields fallback [] fields)
  | .decimal d => (opening lead).andThen (.attempt ((fallback (.decimal d)).map string))
  | .timestamp t => (opening lead).andThen (.attempt ((fallback (.timestamp t)).map string))
  | .date d => (opening lead).andThen (.attempt ((fallback (.date d)).map string))
  | .object parts => (opening lead).andThen (.attempt ((fallback (.object parts)).map string))

/-- Sends the items of a list, the first one behind a lead, and the end of the list. -/
def sendItems (fallback : Fallback) (lead : Text) : List Value → Output
  | [] => .piece (Text.of "]")
  | v :: vs => (send fallback lead v).andThen (sendItems fallback (Text.of ", ") vs)

/-- Sends the fields of a record, the first one behind a lead, and the end of the record. -/
def sendFields (fallback : Fallback) (lead : Text) : List (Text × Value) → Output
  | [] => .piece (Text.of "\x7d")
  | (name, v) :: fields =>
    (opening lead).andThen <| (Output.piece (string name)).andThen <|
      (Output.piece (Text.of ": ")).andThen <| (send fallback [] v).andThen <|
        sendFields fallback (Text.of ", ") fields

end

/-- Writes a value as JSON. -/
def write (fallback : Fallback) (v : Value) : Except Fault Text := (send fallback [] v).toExcept

end Json
end QueryDesk
