import QueryDesk.Fault

/-!
# Files and folders

The files below a working folder, by path, with their texts.  A path is a list of names; `a//b/./c`
and `a/b/c` are the same path, and `~` at the front is the working folder itself.  A path from the
root on begins with an empty name.  A folder exists if it was made or if a file lies below it.
-/

set_option autoImplicit false

namespace QueryDesk

/-- A path from the working folder on. -/
abbrev Path := List Text

namespace Path

/-- The root of all paths. -/
def root : Path := [[]]

/-- The path that a text spells. -/
def ofText (t : Text) : Path :=
  let names := (Text.splitAt (.char '/') t).filter fun name =>
    !name.isEmpty && name != Text.of "."
  if t.head? = some (.char '/') then root ++ names else names

/-- The path in writing. -/
def written (p : Path) : Text :=
  if p.isEmpty then Text.of "."
  else if p = root then Text.of "/"
  else Text.join (Text.of "/") p

/-- The path with a name of a home folder at its front replaced.  Only the desk's own home, `~`, is
known. -/
def atHome (p : Path) : Except Fault Path :=
  match p with
  | [] => .ok []
  | name :: rest =>
    if name = Text.of "~" then .ok rest
    else if name.head? = some (.char '~') then .error .noHome
    else .ok p

/-- The path with steps back to an enclosing folder taken. -/
def resolved (p : Path) : Path :=
  (p.foldl (fun (done : Path) name =>
    if name = Text.of ".." then done.drop 1 else name :: done) []).reverse

/-- The paths that a path leads through, from the working folder to the path itself. -/
def fronts (p : Path) : List Path := (List.range (p.length + 1)).map fun n => p.take n

end Path

/-- Files and folders. -/
structure FileTree where
  files : List (Path × Text)
  folders : List Path

namespace FileTree

/-- No files and no folders but the working folder. -/
def empty : FileTree := ⟨[], []⟩

/-- The text of a file. -/
def text? (tree : FileTree) (p : Path) : Option Text := (tree.files.find? (·.1 == p)).map (·.2)

/-- Tests for a file. -/
def isFile (tree : FileTree) (p : Path) : Bool := tree.files.any (·.1 == p)

/-- Tests for a folder. -/
def isFolder (tree : FileTree) (p : Path) : Bool :=
  p.isEmpty || p == Path.root || tree.folders.contains p
    || tree.files.any fun f => p.isPrefixOf f.1 && p.length < f.1.length

/-- The place that a path leads to from a folder on, name by name; the path as a whole is named when
it leads nowhere. -/
def locate (tree : FileTree) (whole : Path) (here : Path) : Path → Except Fault Path
  | [] => .ok here
  | name :: rest =>
    if tree.isFile here then .error (.notADirectory whole.written)
    else if !tree.isFolder here then .error (.noSuchFile whole.written)
    else if name = Text.of ".." then locate tree whole here.dropLast rest
    else locate tree whole (here ++ [name]) rest

/-- Reads a file. -/
def read (tree : FileTree) (p : Path) : Except Fault Text := do
  let place ← tree.locate p [] p
  match tree.text? place with
  | some t => .ok t
  | none =>
    if tree.isFolder place then .error (.isADirectory p.written)
    else .error (.noSuchFile p.written)

/-- Makes a folder and those around it; one that exists already stays. -/
def makeFolder (tree : FileTree) (p : Path) : Except Fault FileTree :=
  let places := p.fronts.map Path.resolved
  if tree.isFile p.resolved then .error (.fileExists p.written)
  else if places.any tree.isFile then .error (.notADirectory p.written)
  else .ok { tree with folders := places ++ tree.folders }

/-- Puts a text behind that of a file, which begins empty if it is new. -/
def append (tree : FileTree) (p : Path) (t : Text) : FileTree :=
  if tree.isFile p then
    { tree with files := tree.files.map fun f => if f.1 = p then (f.1, f.2 ++ t) else f }
  else { tree with files := tree.files ++ [(p, t)] }

/-- What is wrong with a text that is to be written as bytes: the first run of lone halves. -/
def unwritable? (t : Text) : Option Fault :=
  (t.findIdx? Glyph.isLone).map fun first =>
    let run := ((t.drop first).takeWhile Glyph.isLone).length
    .notEncodable t first (first + run - 1)

/-- Puts pieces of text behind that of a file, one after the other up to the first that cannot be
written. -/
def appendAll (tree : FileTree) (p : Path) : List Text → FileTree × Option Fault
  | [] => (tree, none)
  | piece :: pieces =>
    match unwritable? piece with
    | some fault => (tree, some fault)
    | none => appendAll (tree.append p piece) p pieces

end FileTree

end QueryDesk
