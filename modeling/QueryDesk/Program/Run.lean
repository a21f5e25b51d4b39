import QueryDesk.Conversation.Talk
import QueryDesk.Program.Logging
import QueryDesk.Program.Options
import QueryDesk.Setup.Opening

/-!
# Programs

Two programs open a desk: `chat` holds a conversation over the lines of its input, and `web` hands
the desk to a server that is told where to listen.  Both take the file of the settings and whether
to debug; a call for help stops them.  Logging is set up as soon as the command line is read.
-/

set_option autoImplicit false

namespace QueryDesk

/-- What a command line sets. -/
structure ProgramOptions where
  config : Text := Text.of "configs/dev.yaml"
  debug : Bool := false
  host : Text := Text.of "127.0.0.1"
  port : Int := 5000

namespace ProgramOptions

/-- The options of both programs. -/
def sharedForms : List OptionForm :=
  [⟨Text.of "-h", false⟩, ⟨Text.of "--help", false⟩, ⟨Text.of "--config", true⟩,
    ⟨Text.of "--debug", false⟩]

/-- The options of the program that serves requests. -/
def webForms : List OptionForm :=
  sharedForms ++ [⟨Text.of "--host", true⟩, ⟨Text.of "--port", true⟩]

/-- What an option with a value does. -/
def setValue (name value : Text) (o : ProgramOptions) : Except Fault ProgramOptions :=
  if name = Text.of "--config" then .ok { o with config := value }
  else if name = Text.of "--host" then .ok { o with host := value }
  else match Number.readWhole value with
    | .read port => .ok { o with port }
    | _ => .error CommandLine.misused

/-- What an option does. -/
def act : CommandLine.Effect ProgramOptions := fun form value o =>
  match value with
  | some value => setValue form.name value o
  | none => if form.name = Text.of "--debug" then .ok { o with debug := true } else .error (.stop 0)

/-- Reads a command line with some forms of options. -/
def read (forms : List OptionForm) (line : List Text) : Except Fault ProgramOptions :=
  CommandLine.read forms act {} line

end ProgramOptions

/-- Where a server is to listen, and under which title. -/
structure Service where
  title : Text
  host : Text
  port : Int

/-- What a program works on. -/
structure Run where
  session : Session
  logging : Logging
  /-- The servers that were called for. -/
  served : List Service

/-- A step of a program, which may fault; what was done before the fault stays done. -/
abbrev Program (α : Type) := ExceptT Fault (StateM Run) α

namespace Program

variable {α : Type}

/-- A step of a conversation, in a program. -/
def ofTalk (step : Talk α) : Program α := ExceptT.mk fun run =>
  let (result, session) := step.run run.session
  (result, { run with session })

/-- Reads a command line, sets up logging and opens a desk. -/
def start (forms : List OptionForm) (line : List Text) (around : Surroundings) (seed : Int) :
    Program (ProgramOptions × Opening) := do
  let options ← ExceptT.mk (pure (ProgramOptions.read forms line))
  modify fun run => { run with logging := run.logging.configure options.debug }
  let opening ← ofTalk (Talk.ofAction (Settings.openFrom options.config around seed))
  return (options, opening)

/-- The lines of an input; a line break at the end begins no further line. -/
def lines (input : Text) : List Text :=
  let parts := Text.splitAt (.char '\n') input
  if parts.getLast? = some [] then parts.dropLast else parts

/-- Holds a conversation over the lines of an input. -/
def chat (line : List Text) (input : Text) (around : Surroundings) (seed : Int) : Program Unit := do
  let (_, opening) ← start ProgramOptions.sharedForms line around seed
  ofTalk (Talk.converse opening.office Talk.usualPreview (lines input))

/-- The title of the server. -/
def title : Text := Text.of "EBS Query Assistant"

/-- Opens a desk and calls for a server. -/
def web (line : List Text) (around : Surroundings) (seed : Int) : Program Opening := do
  let (options, opening) ← start ProgramOptions.webForms line around seed
  let service : Service := ⟨title, options.host, options.port⟩
  modify fun run => { run with served := run.served ++ [service] }
  return opening

end Program
end QueryDesk
