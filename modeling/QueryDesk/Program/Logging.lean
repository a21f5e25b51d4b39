import QueryDesk.Front
import QueryDesk.Text.Classes

/-!
# Logging

How much a program tells about its work on the side.  Only the first program to set up logging
sets the level as it likes; after that the level can only be turned to `debug`.
-/

set_option autoImplicit false

namespace QueryDesk

/-- How much is told. -/
inductive LogLevel
  | warning
  | info
  | debug
  deriving DecidableEq, Repr

/-- The name of a level. -/
def LogLevel.name : LogLevel → Text
  | warning => Text.of "WARNING"
  | info => Text.of "INFO"
  | debug => Text.of "DEBUG"

/-- The state of logging: its level, and how many places messages go to. -/
structure Logging where
  level : LogLevel
  handlers : Nat
  deriving DecidableEq, Repr

namespace Logging

/-- Before anybody set it up. -/
def fresh : Logging := ⟨.warning, 0⟩

/-- Sets up logging, for debugging or not. -/
def configure (debug : Bool) (l : Logging) : Logging :=
  if l.handlers = 0 then ⟨if debug then .debug else .info, 1⟩
  else if debug then { l with level := .debug }
  else l

/-- How many glyphs of a text a message quotes. -/
def usualLimit : Int := 200

/-- A text as a message quotes it: without outer blanks, and with dots at the end if it is longer
than the limit. -/
def shortened (limit : Int) (t : Text) : Text :=
  if (t.trim.length : Int) ≤ limit then t.trim
  else takeFront (limit - 3) t.trim ++ Text.of "..."

end Logging
end QueryDesk
