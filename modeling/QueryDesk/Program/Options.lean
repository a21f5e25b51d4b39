import QueryDesk.Fault
import QueryDesk.Text.Classes

/-!
# Options

Reads the words behind the name of a program.  An option is known by its name, `--config`, or by any
shorter form of it that is no other option's; its value is the next word or stands behind a `=`.
Options of one letter, `-h`, take no value and may be run together, up to the first letter that is
no option.

Every word is classified before the first option is acted on (`words`), so a form that fits two
options stops the program whatever else there is.  Words that are neither options nor values stop it
too, but only at the end.  The program stops with the status 2 on each fault.
-/

set_option autoImplicit false

namespace QueryDesk

/-- An option that a program takes. -/
structure OptionForm where
  /-- The name, with its dashes. -/
  name : Text
  takesValue : Bool
  deriving DecidableEq, Repr

namespace OptionForm

/-- Tests for an option of one letter. -/
def isShort (form : OptionForm) : Bool := form.name.length = 2

end OptionForm

namespace CommandLine

/-- The status of a program whose command line is at fault. -/
def misused : Fault := .stop 2

/-! ## Words -/

/-- What is attached to an option, with a `=` between or without. -/
structure Attached where
  text : Text
  hasSign : Bool
  deriving DecidableEq, Repr

/-- What a word of a command line is. -/
inductive Word
  /-- Something that may be the value of an option. -/
  | plain
  /-- The word behind which there are no more options. -/
  | separator
  /-- An option, and what is attached to it. -/
  | option (form : OptionForm) (attached : Option Attached)
  | unknown
  deriving DecidableEq, Repr

/-- The dash that options begin with. -/
def dash : Glyph := .char '-'

/-- What stands before the first `=` of a word, and what stands behind it if there is one. -/
def splitAttached (word : Text) : Text × Option Attached :=
  match word.dropWhile (· != .char '=') with
  | [] => (word, none)
  | _ :: rest => (word.takeWhile (· != .char '='), some ⟨rest, true⟩)

/-- Tests for a negative number, which is no option: digits, perhaps with a point and places.  One
line break behind it is overlooked. -/
def isNegativeNumber (word : Text) : Bool :=
  let body := word.drop 1
  let body := if body.getLast? = some (.char '\n') then body.dropLast else body
  let isDigit (g : Glyph) : Bool := g.digitValue?.isSome
  match body.dropWhile isDigit with
  | [] => !body.isEmpty
  | .char '.' :: places => !places.isEmpty && places.all isDigit
  | _ => false

/-- The options that a word is a shorter form of.  A short one may have something attached to it
without a sign between. -/
def candidates (forms : List OptionForm) (word : Text) : List Word :=
  if word[1]? = some dash then
    let (stem, attached) := splitAttached word
    (forms.filter fun form => stem.isPrefixOf form.name).map fun form => .option form attached
  else
    forms.filterMap fun form =>
      if form.name = word.take 2 then some (.option form (some ⟨word.drop 2, false⟩))
      else if word.isPrefixOf form.name then some (.option form none)
      else none

/-- The option of a name. -/
def named? (forms : List OptionForm) (name : Text) : Option OptionForm :=
  forms.find? (·.name == name)

/-- What a word is that fits no option by its full name. -/
def classifyOther (forms : List OptionForm) (word : Text) : Except Fault Word :=
  match candidates forms word with
  | [found] => .ok found
  | _ :: _ :: _ => .error misused
  | [] => .ok (if isNegativeNumber word || word.contains (.char ' ') then .plain else .unknown)

/-- What a word is. -/
def classify (forms : List OptionForm) (word : Text) : Except Fault Word :=
  if word.head? ≠ some dash ∨ word.length = 1 then .ok .plain
  else match named? forms word with
    | some form => .ok (.option form none)
    | none =>
      match splitAttached word with
      | (stem, some attached) =>
        match named? forms stem with
        | some form => .ok (.option form (some attached))
        | none => classifyOther forms word
      | (_, none) => classifyOther forms word

/-- The words of a command line, classified. -/
def words (forms : List OptionForm) : List Text → Except Fault (List (Text × Word))
  | [] => .ok []
  | word :: rest =>
    if word = Text.of "--" then .ok ((word, .separator) :: rest.map fun w => (w, .plain))
    else do
      let found ← classify forms word
      let others ← words forms rest
      .ok ((word, found) :: others)

/-! ## Reading -/

/-- The options that are run together behind a first one; the flag says that what follows them is
no option. -/
def runTogether (forms : List OptionForm) : Text → Except Fault (List OptionForm × Bool)
  | [] => .ok ([], false)
  | letter :: rest =>
    if letter = dash then .error misused
    else match named? forms [dash, letter] with
      | none => .ok ([], true)
      | some form =>
        if rest.head? = some (.char '=') then .error misused
        else (runTogether forms rest).map fun found => (form :: found.1, found.2)

/-- The options that stand in one word together with what is attached to it, and whether a part of
the word has no meaning. -/
def withAttached (forms : List OptionForm) (form : OptionForm) (attached : Attached) :
    Except Fault (List (OptionForm × Option Text) × Bool) :=
  if form.takesValue then .ok ([(form, some attached.text)], false)
  else if form.isShort && !attached.hasSign then
    (runTogether forms attached.text).map fun found =>
      ((form :: found.1).map fun f => (f, none), found.2)
  else .error misused

/-- What an option does to what was read so far. -/
abbrev Effect (σ : Type) := OptionForm → Option Text → σ → Except Fault σ

/-- Reads words from left to right; the flag says that there were words without a meaning. -/
def readWords {σ : Type} (forms : List OptionForm) (act : Effect σ) :
    Bool → σ → List (Text × Word) → Except Fault σ
  | strays, s, [] => if strays then .error misused else .ok s
  | strays, s, (_, .option form (some attached)) :: rest => do
    let (options, hasStray) ← withAttached forms form attached
    let s ← options.foldlM (fun s option => act option.1 option.2 s) s
    readWords forms act (strays || hasStray) s rest
  | strays, s, [(_, .option form none)] => do
    if form.takesValue then .error misused
    else
      let s ← act form none s
      if strays then .error misused else .ok s
  | strays, s, (_, .option form none) :: (value, kind) :: rest => do
    if form.takesValue then
      if kind = .plain then
        let s ← act form (some value) s
        readWords forms act strays s rest
      else .error misused
    else
      let s ← act form none s
      readWords forms act strays s ((value, kind) :: rest)
  | _, s, _ :: rest => readWords forms act true s rest

/-- Reads a command line. -/
def read {σ : Type} (forms : List OptionForm) (act : Effect σ) (s : σ) (line : List Text) :
    Except Fault σ := do
  readWords forms act false s (← words forms line)

end CommandLine
end QueryDesk
