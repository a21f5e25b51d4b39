import QueryDesk.Desk.Answering
import QueryDesk.Setup.Settings

/-!
# Opening a desk

A desk is opened by its settings: business records are made up, the folder of the journal is made,
and a model is reached if there is one to be reached.  A model that cannot be reached is done
without.
-/

set_option autoImplicit false

namespace QueryDesk

/-- An open desk: the office, the model in use with the terms on which it was reached, the most
tokens that it may use for an answer, and the folder of the journal. -/
structure Opening where
  office : Office
  model : Option (Text × Row)
  tokens : Int
  journalFolder : Path

namespace Settings

variable (s : Settings)

/-- The folder of the journal if no other is set. -/
def usualFolder : Text := Text.of "logs/query"

/-- The folder of the journal. -/
def journalFolder : Except Fault Path :=
  let name := ((s.paths.bind (·.journalFolder)).filter (!·.isEmpty)).getD usualFolder
  (Path.ofText name).atHome

/-- The terms on which the model is reached, unless there is none or it cannot be reached. -/
def reachModel (around : Surroundings) : Option Row :=
  if s.modelName.isEmpty then Option.none
  else
    let access : ModelAccess := ⟨s.model.keyName, some (.real s.model.timeout)⟩
    match access.connect around with
    | .ok terms => some terms
    | .error _ => Option.none

/-- Makes up the business records; a seed stands in if none is set. -/
def dataset (seed : Int) : Dataset := Sample.dataset (s.sample.seed.getD seed) s.sample.sizes

/-- Opens a desk. -/
def openDesk (around : Surroundings) (seed : Int) : Action Opening := do
  modify fun desk => { desk with dataset := s.dataset seed }
  let folder ← Action.ofExcept s.journalFolder
  let tree ← Action.ofExcept ((← get).journal.tree.makeFolder folder)
  modify fun desk => { desk with journal := { desk.journal with tree } }
  let sink := some (Sink.files folder)
  let terms := s.reachModel around
  let client := terms.map fun _ => ModelClient.named s.modelName
  return {
    office := {
      agent := Agent.main client sink s.model.maxOutputTokens
      sink, tables := Option.none
      contextQueries := s.history.contextQueries, recentLimit := s.history.recentLimit }
    model := terms.map fun row => (s.modelName, row)
    tokens := s.model.maxOutputTokens
    journalFolder := folder }

/-- Reads the settings in a file. -/
def load (path : Text) : Action Settings := do
  let t ← Action.ofExcept ((← get).journal.tree.read (Path.ofText path))
  Action.ofExcept (ofText t)

/-- Opens a desk by the settings in a file. -/
def openFrom (path : Text) (around : Surroundings) (seed : Int) : Action Opening := do
  let s ← load path
  s.openDesk around seed

end Settings
end QueryDesk
