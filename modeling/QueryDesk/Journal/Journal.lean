import QueryDesk.Journal.Entry
import QueryDesk.Journal.Naming
import QueryDesk.Json.Writer
import QueryDesk.Supply

/-!
# The journal

Keeps what happens to queries.  A *sink* takes an entry and either keeps it or faults; what it keeps
it keeps in the journal.  There are three: one keeps the entries themselves, one always faults, and
one writes each entry as a line of JSON to the file of its query in a folder.

A file is named when its query is first noted, and the name is remembered.  A line that cannot be
written as a whole is written up to the piece that went wrong.
-/

set_option autoImplicit false

namespace QueryDesk

/-! ## The journal -/

/-- Entries, files, and what is needed to write them. -/
structure Journal where
  /-- The clock on the wall. -/
  wall : Supply Timestamp
  /-- The entries kept, the oldest first. -/
  entries : List Entry
  /-- The files named so far, by folder and query. -/
  names : List ((Path × Text) × Path)
  tree : FileTree

/-- A step of the journal, which may fault; what was done before the fault stays done. -/
abbrev Noting (α : Type) := ExceptT Fault (StateM Journal) α

/-- What takes entries. -/
abbrev Sink := Entry → Noting Unit

namespace Journal

/-- The time on the wall, in universal time. -/
def wallTime : Noting Timestamp := do
  let j ← get
  let (now, wall) := j.wall.take
  set { j with wall }
  return now.toUniversal

/-- The time on the wall, in writing. -/
def timeText : Noting Text := do
  let now ← wallTime
  return now.writtenToMillisecond

/-- The slug of a text that spells a timestamp, or else of the time on the wall. -/
def slug (raw : Text) : Noting Text := do
  match Naming.time? raw with
  | some t => return Naming.slug t
  | none => return Naming.slug (← wallTime)

/-- The time of an entry that is noted now, and its fields.  An entry of an unknown event is refused
before the clock is looked at. -/
def stamped (e : Entry) : Noting (Text × Row) := do
  if Entry.events.contains e.event then
    let time ← timeText
    return (time, ← e.row time)
  else throw (.unknownEvent e.event)

/-- Keeps an entry. -/
def keep (e : Entry) : Noting Unit := modify fun j => { j with entries := j.entries ++ [e] }

/-! ## Files -/

/-- The file of a query in a folder.  Naming it for the first time makes the folder. -/
def fileOf (folder : Path) (id time : Text) : Noting Path := do
  let folder := folder.resolved
  match ((← get).names.find? (·.1 == (folder, id))).map (·.2) with
  | some file => return file
  | none =>
    let file := folder ++ [Naming.fileName (← slug time) id]
    let tree ← (← get).tree.makeFolder folder
    modify fun j => { j with tree, names := ((folder, id), file) :: j.names }
    return file

/-- Puts output behind the text of a file, as far as it was made and can be written, and then a line
break. -/
def writeLine (file : Path) (output : Json.Output) : Noting Unit := do
  let j ← get
  let (tree, fault) := (j.tree.append file []).appendAll file output.sent
  set { j with tree }
  match fault, output.fault with
  | some fault, _ => throw fault
  | none, some fault => throw fault
  | none, none => modify fun j => { j with tree := j.tree.append file (Text.of "\n") }

end Journal

namespace Sink

/-- Keeps each entry. -/
def recorder : Sink := Journal.keep

/-- Takes no entry at all. -/
def broken : Sink := fun _ => throw (.foreign (Text.of "OSError") (Text.of "disk full"))

/-- Writes each entry as a line of JSON to the file of its query in a folder. -/
def files (folder : Path) : Sink := fun e => do
  let (time, fields) ← Journal.stamped e
  let folder ← folder.atHome
  let file ← Journal.fileOf folder e.queryId time
  Journal.writeLine file (Json.send Value.written [] (.record fields))

end Sink

end QueryDesk
