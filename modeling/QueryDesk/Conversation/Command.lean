import QueryDesk.Text.Classes
import QueryDesk.Text.Casing

/-!
# Commands

What a person types at the prompt: nothing, a word that ends the conversation, a statement to run
as it stands, or a question.  `Command.read` tells them apart; blanks around the line count for
nothing.
-/

set_option autoImplicit false

namespace QueryDesk

/-- What a line at the prompt asks for. -/
inductive Command
  | nothing
  | leave
  | statement (t : Text)
  /-- A call for a statement without the statement. -/
  | noStatement
  | question (t : Text)
  deriving DecidableEq, Repr

namespace Command

/-- The words that end a conversation, in lower case. -/
def leaving : List Text := [Text.of "/exit", Text.of "exit", Text.of "quit", Text.of ":q"]

/-- What a line begins with that gives a statement. -/
def statementMark : Text := Text.of "/sql"

/-- What follows the first word of a line and the blanks behind that word. -/
def behindFirstWord (line : Text) : Text :=
  (line.dropWhile (!·.isBlank)).dropWhile Glyph.isBlank

/-- The command of a line. -/
def read (line : Text) : Command :=
  let line := line.trim
  if line.isEmpty then nothing
  else if leaving.contains line.lower then leave
  else if statementMark.isPrefixOf line then
    let rest := behindFirstWord line
    if rest.isEmpty then noStatement else statement rest
  else question line

end Command
end QueryDesk
