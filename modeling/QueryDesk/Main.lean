import QueryDesk.Program.Run
import QueryDesk.Web.Server
import Std.Time.DateTime.Timestamp

/-!
# The command line

`chat` answers the lines of standard input, and `web` answers the requests on it, one a line: a
method, an address and perhaps a body.  All decisions are made by the library; what is here reads
clocks, lines and the file of the settings, prints what is shown, and keeps the files of the
journal.

While one line is answered the clocks stand still.
-/

set_option autoImplicit false

namespace QueryDesk
namespace Terminal

/-! ## Clocks -/

/-- The time on the wall. -/
def wallTime : IO Timestamp := do
  let now ← Std.Time.Timestamp.now
  return (Timestamp.midnight ⟨1970, 1, 1⟩).later (now.toNanosecondsSinceUnixEpoch.val / 1000)

/-- The reading of the stopwatch. -/
def stopwatch : IO Binary64 := do
  return .round false (← IO.monoNanosNow) (Nat.pow 10 9)

/-- The run with its clocks set. -/
def atNow (run : Run) : IO Run := do
  let wall : Supply Timestamp := ⟨← wallTime, []⟩
  let stopwatch : Supply Binary64 := ⟨← stopwatch, []⟩
  let desk := run.session.desk
  let desk := { desk with stopwatch, journal := { desk.journal with wall } }
  return { run with session := { run.session with desk } }

/-! ## Files -/

/-- The file tree that holds the file of the settings, if there is one. -/
def settingsTree (name : Text) : IO FileTree := do
  try
    let content ← IO.FS.readFile name.toString
    return ⟨[(Path.ofText name, Text.of content)], []⟩
  catch _ => return .empty

/-- Keeps what a step put behind the text of a file. -/
def keepFile (before : FileTree) (file : Path × Text) : IO Unit := do
  let known := ((before.text? file.1).getD []).length
  if known < file.2.length then
    IO.FS.withFile file.1.written.toString .append fun handle =>
      handle.putStr (Text.toString (file.2.drop known))

/-- Keeps the folders and files that a step made. -/
def keepFiles (before after : FileTree) : IO Unit := do
  for folder in after.folders.take (after.folders.length - before.folders.length) do
    unless folder.isEmpty do IO.FS.createDirAll folder.written.toString
  for file in after.files do
    keepFile before file

/-! ## Steps -/

/-- Takes a step of a program: shows what it shows, keeps the files that it makes. -/
def advance {α : Type} (ref : IO.Ref Run) (step : Program α) : IO (Except Fault α) := do
  let before ← atNow (← ref.get)
  let (result, after) := step.run before
  ref.set after
  let shown := after.session.shown.drop before.session.shown.length
  let output ← IO.getStdout
  output.putStr (Shown.screen shown).toString
  output.flush
  keepFiles before.session.desk.journal.tree after.session.desk.journal.tree
  return result

/-- The status of a program that a fault ended. -/
def statusOf : Fault → IO UInt32
  | .stop status => return status.toUInt32
  | fault => do
    (← IO.getStderr).putStrLn fault.message.toString
    return 1

/-- The next line of an input, without its line break. -/
def nextLine (input : IO.FS.Stream) : IO (Option Text) := do
  let line ← input.getLine
  if line.isEmpty then return none
  let line := Text.of line
  return some (if line.getLast? = some (.char '\n') then line.dropLast else line)

/-! ## The programs -/

/-- Answers line after line. -/
partial def converse (ref : IO.Ref Run) (office : Office) (input : IO.FS.Stream) : IO UInt32 := do
  let _ ← advance ref (Program.ofTalk Talk.ask)
  match ← nextLine input with
  | none =>
    let _ ← advance ref (Program.ofTalk Talk.runOut)
    return 0
  | some line =>
    match ← advance ref (Program.ofTalk (Talk.answerLine office Talk.usualPreview line)) with
    | .error fault => statusOf fault
    | .ok true => converse ref office input
    | .ok false => return 0

/-- The request on a line. -/
def requestOf (line : Text) : Request :=
  let notBlank (g : Glyph) : Bool := g != .char ' '
  let behind := (line.dropWhile notBlank).drop 1
  ⟨line.takeWhile notBlank, behind.takeWhile notBlank, (behind.dropWhile notBlank).drop 1⟩

/-- An answer on a line: its status and its body. -/
def responseText (r : Response) : Text :=
  let body := match Json.write Office.resultForm r.body with
    | .ok t => t
    | .error _ => []
  Number.digits r.status ++ .char ' ' :: body

/-- Answers request after request. -/
partial def attend (ref : IO.Ref Run) (office : Office) (input : IO.FS.Stream) : IO UInt32 := do
  match ← nextLine input with
  | none => return 0
  | some line =>
    let step := Talk.ofAction (Server.answer office (requestOf line))
    match ← advance ref (Program.ofTalk (do Talk.say (responseText (← step)))) with
    | .error fault => statusOf fault
    | .ok () => attend ref office input

/-- A run before its first step, with the file of the settings at hand. -/
def fresh (config : Text) : IO Run := do
  let journal : Journal := ⟨⟨← wallTime, []⟩, [], [], ← settingsTree config⟩
  let desk : Desk := {
    dataset := .empty, store := .empty, ids := ⟨[], 0⟩, clock := none
    stopwatch := ⟨← stopwatch, []⟩, replies := ⟨.ok .null, []⟩, asked := [], journal }
  return ⟨⟨desk, []⟩, .fresh, []⟩

/-- Runs a program: opens a desk by the command line and then goes on at it. -/
def runProgram (forms : List OptionForm) (line : List Text)
    (opening : Surroundings → Int → Program Opening)
    (goOn : IO.Ref Run → Office → IO.FS.Stream → IO UInt32) : IO UInt32 := do
  match ProgramOptions.read forms line with
  | .error fault => statusOf fault
  | .ok options =>
    let ref ← IO.mkRef (← fresh options.config)
    let seed ← IO.rand 0 (Nat.pow 2 31)
    match ← advance ref (opening ⟨false, []⟩ seed) with
    | .error fault => statusOf fault
    | .ok opened => goOn ref opened.office (← IO.getStdin)

/-- Opens a desk for a conversation. -/
def openForChat (line : List Text) (around : Surroundings) (seed : Int) : Program Opening := do
  let (_, opening) ← Program.start ProgramOptions.sharedForms line around seed
  Program.ofTalk (Talk.say Talk.welcome)
  return opening

/-- Runs the program that the first word names. -/
def run : List Text → IO UInt32
  | name :: line =>
    if name = Text.of "chat" then
      runProgram ProgramOptions.sharedForms line (openForChat line) converse
    else if name = Text.of "web" then
      runProgram ProgramOptions.webForms line (Program.web line) attend
    else statusOf CommandLine.misused
  | [] => statusOf CommandLine.misused

end Terminal
end QueryDesk

/-- Runs the program that the command line names. -/
def main (words : List String) : IO UInt32 := QueryDesk.Terminal.run (words.map QueryDesk.Text.of)
