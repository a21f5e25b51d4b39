import QueryDesk.Text.Classes

/-!
# Quoted texts

How a text is shown inside a larger text, for instance in an error message: between single quotes,
or between double quotes when it holds single quotes only; the quote in use and the backslash are
escaped, and so is every glyph that is not printable.
-/

set_option autoImplicit false

namespace QueryDesk

namespace Text

/-- The digits of a number in base sixteen, in lower case, padded with zeros to a width. -/
def hexadecimal (width n : Nat) : Text :=
  let digits := (Nat.toDigits 16 n).map Glyph.char
  List.replicate (width - digits.length) (.char '0') ++ digits

/-- A glyph as it stands between the given quotes. -/
def quotedGlyph (quote : Char) (g : Glyph) : Text :=
  if g = .char quote ∨ g = .char '\\' then [.char '\\', g]
  else if g = .char '\n' then of "\\n"
  else if g = .char '\r' then of "\\r"
  else if g = .char '\t' then of "\\t"
  else if g.isPrintable then [g]
  else if g.code < 0x100 then of "\\x" ++ hexadecimal 2 g.code
  else if g.code < 0x10000 then of "\\u" ++ hexadecimal 4 g.code
  else of "\\U" ++ hexadecimal 8 g.code

/-- The quote for a text: a double quote when the text holds single quotes and no double ones. -/
def quoteFor (t : Text) : Char :=
  if t.contains (.char '\'') && !t.contains (.char '"') then '"' else '\''

/-- The text between quotes. -/
def quoted (t : Text) : Text :=
  let quote := t.quoteFor
  .char quote :: t.flatMap (quotedGlyph quote) ++ [.char quote]

end Text

end QueryDesk
