import QueryDesk.Business.Sample
import QueryDesk.Yaml.Datum

/-!
# Settings

The settings of a desk are a YAML mapping of sections.  A section or a setting that is missing takes
its usual value, and so does a section that is empty; a setting is turned into the kind that is
wanted, which may fault.
-/

set_option autoImplicit false

namespace QueryDesk

/-- How to reach a model, and how much it may say. -/
structure ModelSettings where
  keyName : Text
  timeout : Binary64
  maxOutputTokens : Int

/-- What business records to make up. -/
structure SampleSettings where
  /-- The seed; without one there is no telling what is made up. -/
  seed : Option Int
  sizes : Sample.Sizes

/-- How many queries are looked back at. -/
structure HistorySettings where
  contextQueries : Int
  recentLimit : Int

/-- Where files are kept. -/
structure PathSettings where
  journalFolder : Option Text

/-- The settings of a desk. -/
structure Settings where
  /-- The name of the model; without one no model is used. -/
  modelName : Text
  model : ModelSettings
  sample : SampleSettings
  history : HistorySettings
  paths : Option PathSettings

namespace Settings

open Yaml (Datum)

/-- No settings. -/
def none : Datum := .mapping []

/-- The datum itself if it counts as given, and no settings otherwise. -/
def orNone (d : Option Datum) : Datum := (d.filter Datum.isGiven).getD none

/-- A section of settings. -/
def sectionOf (d : Datum) (name : String) : Except Fault Datum := do
  .ok (orNone (← d.entry? name))

/-- A setting as a text. -/
def text (d : Datum) (name : String) (usual : Text) : Except Fault Text := do
  match ← d.entry? name with
  | some found => found.written
  | .none => .ok usual

/-- A setting as a whole number. -/
def whole (d : Datum) (name : String) (usual : Int) : Except Fault Int := do
  match ← d.entry? name with
  | some found => found.whole
  | .none => .ok usual

/-- A setting as a real number. -/
def real (d : Datum) (name : String) (usual : Binary64) : Except Fault Binary64 := do
  match ← d.entry? name with
  | some found => found.real
  | .none => .ok usual

/-- Tests for a null. -/
def isNull : Datum → Bool
  | .simple .null => true
  | _ => false

/-- The settings of the section about models. -/
def modelOf (d : Datum) : Except Fault ModelSettings := do
  let keyName ← text d "api_key_env" (Text.of "OPENAI_API_KEY")
  let timeout ← real d "request_timeout_s" (.ofNat 60)
  let maxOutputTokens ← whole d "max_output_tokens" 2048
  .ok ⟨keyName, timeout, maxOutputTokens⟩

/-- The settings of the section about business records. -/
def sampleOf (d : Datum) : Except Fault SampleSettings := do
  let seed ← ((← d.entry? "seed").filter (!isNull ·)).mapM Datum.whole
  let usual : Sample.Sizes := {}
  let salesOrders ← whole d "sales_orders" usual.salesOrders
  let workOrders ← whole d "work_orders" usual.workOrders
  let invoices ← whole d "invoices" usual.invoices
  let inventoryItems ← whole d "inventory_items" usual.inventoryItems
  .ok ⟨seed, ⟨salesOrders, workOrders, invoices, inventoryItems⟩⟩

/-- The settings of the section about the history. -/
def historyOf (d : Datum) : Except Fault HistorySettings := do
  let contextQueries ← whole d "context_queries" 5
  let recentLimit ← whole d "recent_limit" 5
  .ok ⟨contextQueries, recentLimit⟩

/-- The settings of the section about files; a name that does not count as given is none. -/
def pathsOf (d : Datum) : Except Fault PathSettings := do
  let folder ← ((← d.entry? "query_logs_dir").filter Datum.isGiven).mapM Datum.written
  .ok ⟨folder⟩

/-- The settings of a datum. -/
def ofDatum (d : Datum) : Except Fault Settings := do
  let d := orNone (some d)
  let model ← modelOf (← sectionOf d "openai")
  let sample ← sampleOf (← sectionOf d "mock_data")
  let history ← historyOf (← sectionOf d "history")
  let paths ← ((← d.entry? "paths").filter Datum.isGiven).mapM pathsOf
  let modelName ← text d "model_id" []
  .ok ⟨modelName, model, sample, history, paths⟩

/-- The text of a file with each line ended by a line feed alone. -/
def withLineFeeds : Text → Text
  | [] => []
  | .char '\r' :: .char '\n' :: rest => .char '\n' :: withLineFeeds rest
  | .char '\r' :: rest => .char '\n' :: withLineFeeds rest
  | g :: rest => g :: withLineFeeds rest

/-- The settings that a text spells. -/
def ofText (t : Text) : Except Fault Settings := do
  ofDatum (← Datum.ofText (withLineFeeds t))

end Settings
end QueryDesk
