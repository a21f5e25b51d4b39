import QueryDesk.Value.Order
import QueryDesk.Yaml.Node
import QueryDesk.Yaml.ScalarValue

/-!
# Data

A document is read as data: simple values, lists, pairs, and mappings whose keys are simple values.
Under the key `<<` a mapping takes over the entries of other mappings, in front of its own
(`Node.merged`); of entries with equal keys the last gives the value and the first its place.
-/

set_option autoImplicit false

namespace QueryDesk
namespace Yaml

/-! ## Merging -/

namespace Node

/-- The entries of a mapping. -/
def entries? : Node → Option (List (Node × Node))
  | mapping _ entries => some entries
  | _ => none

/-- The entries that the value of a merging key stands for: those of a mapping, or of the mappings
of a sequence from the last to the first. -/
def mergedIn : Node → Except Fault (List (Node × Node))
  | mapping _ entries => .ok entries
  | sequence _ items =>
    match items.mapM entries? with
    | some found => .ok found.reverse.flatten
    | none => malformed
  | scalar .. => malformed

/-- What a node is read as. -/
def kind : Node → Kind
  | scalar kind _ | sequence kind _ | mapping kind _ => kind

/-- Tests for a merging key. -/
def isMerge (node : Node) : Bool := node.kind == .merge

/-- A key; the key for a mapping as a whole is an ordinary one among others. -/
def asKey : Node → Node
  | scalar .default t => scalar .text t
  | node => node

/-- The entries of a mapping with all merging done: those taken over, then its own. -/
def spliced (entries : List (Node × Node)) : Except Fault (List (Node × Node)) := do
  let taken ← (entries.filter (·.1.isMerge)).mapM fun e => e.2.mergedIn
  let own := (entries.filter (!·.1.isMerge)).map fun e => (e.1.asKey, e.2)
  .ok (taken.flatten ++ own)

mutual

/-- The node with all merging done in it. -/
def merged : Node → Except Fault Node
  | scalar kind t => .ok (scalar kind t)
  | sequence kind items => (mergedItems items).map (sequence kind)
  | mapping kind entries =>
    if kind.isScalar then .ok (mapping kind entries)
    else do .ok (mapping kind (← spliced (← mergedEntries entries)))

/-- Nodes with all merging done in them. -/
def mergedItems : List Node → Except Fault (List Node)
  | [] => .ok []
  | item :: rest => do
    let item ← merged item
    let rest ← mergedItems rest
    .ok (item :: rest)

/-- Entries with all merging done in them. -/
def mergedEntries : List (Node × Node) → Except Fault (List (Node × Node))
  | [] => .ok []
  | (key, value) :: rest => do
    let key ← merged key
    let value ← merged value
    let rest ← mergedEntries rest
    .ok ((key, value) :: rest)

end

mutual

/-- The text of a node that is read as a scalar: of a mapping, that of the value of its first key
for the mapping as a whole. -/
def scalarText : Node → Except Fault Text
  | scalar _ t => .ok t
  | sequence .. => malformed
  | mapping _ entries => scalarTextAmong entries

/-- The text of the value of the first key for a mapping as a whole. -/
def scalarTextAmong : List (Node × Node) → Except Fault Text
  | [] => malformed
  | (key, value) :: rest =>
    if key.kind == .default then scalarText value else scalarTextAmong rest

end

end Node

/-! ## Data -/

/-- A piece of data. -/
inductive Datum
  | simple (v : Value)
  | list (items : List Datum)
  | pair (first second : Datum)
  | mapping (entries : List (Value × Datum))
  | set (items : List Value)

namespace Datum

/-- Tests that two keys are equal. -/
def sameKey (v w : Value) : Bool :=
  match v.same w with
  | .ok same => same
  | .error _ => false

/-- Sets the datum under a key: in its old place if there is one, else behind the others. -/
def setEntry (key : Value) (d : Datum) : List (Value × Datum) → List (Value × Datum)
  | [] => [(key, d)]
  | (k, old) :: rest =>
    if sameKey k key then (k, d) :: rest else (k, old) :: setEntry key d rest

/-- A simple value; only such a value may be a key. -/
def keyOf : Datum → Except Fault Value
  | simple v => .ok v
  | _ => malformed

mutual

/-- The datum of a node. -/
def ofNode : Node → Except Fault Datum
  | .scalar kind t => (ScalarValue.read kind t).map simple
  | .sequence kind items =>
    match kind with
    | .sequence => (ofItems items).map list
    | .pairs => (ofPairs items).map list
    | _ => malformed
  | .mapping kind entries =>
    match kind with
    | .mapping => (ofEntries [] entries).map mapping
    | .set => (ofEntries [] entries).map fun found => set (found.map (·.1))
    | _ => do
      let t ← Node.scalarTextAmong entries
      (ScalarValue.read kind t).map simple

/-- The data of nodes. -/
def ofItems : List Node → Except Fault (List Datum)
  | [] => .ok []
  | item :: rest => do
    let d ← ofNode item
    let ds ← ofItems rest
    .ok (d :: ds)

/-- The pairs of mappings with one entry each. -/
def ofPairs : List Node → Except Fault (List Datum)
  | [] => .ok []
  | .mapping _ [(key, value)] :: rest => do
    let first ← ofNode key
    let second ← ofNode value
    let ds ← ofPairs rest
    .ok (pair first second :: ds)
  | _ => malformed

/-- The entries of nodes, put behind entries that are there already. -/
def ofEntries (found : List (Value × Datum)) :
    List (Node × Node) → Except Fault (List (Value × Datum))
  | [] => .ok found
  | (key, value) :: rest => do
    let key ← keyOf (← ofNode key)
    let d ← ofNode value
    ofEntries (setEntry key d found) rest

end

/-- The data of a text; a text without a document is null. -/
def ofText (t : Text) : Except Fault Datum := do
  match ← Node.ofText? t with
  | none => .ok (simple .null)
  | some node => ofNode (← node.merged)

/-! ## Looking at data -/

/-- Tests that a datum counts as given. -/
def isGiven : Datum → Bool
  | simple v => v.isGiven
  | list items => !items.isEmpty
  | pair .. => true
  | mapping entries => !entries.isEmpty
  | set items => !items.isEmpty

/-- The name of a kind, as messages give it. -/
def kindName : Datum → String
  | simple v => v.kindName
  | list _ => "list"
  | pair .. => "tuple"
  | mapping _ => "dict"
  | set _ => "set"

/-- The datum under a name, if there is one; only a mapping has names. -/
def entry? (d : Datum) (name : String) : Except Fault (Option Datum) :=
  match d with
  | mapping entries => .ok ((entries.find? fun e => sameKey e.1 (.text (Text.of name))).map (·.2))
  | d => .error (.noSuchPart d.kindName "get")

mutual

/-- A datum, shown without ambiguity. -/
def shown : Datum → Except Fault Text
  | simple v => v.shown
  | list items => (shownItems items).map (Value.bracketed "[" "]")
  | pair first second => do
    .ok (Value.bracketed "(" ")" [← shown first, ← shown second])
  | mapping entries => (shownEntries entries).map (Value.bracketed "\x7b" "\x7d")
  | set items =>
    if items.isEmpty then .ok (Text.of "set()")
    else (items.mapM Value.shown).map (Value.bracketed "\x7b" "\x7d")

/-- The items of a list, shown. -/
def shownItems : List Datum → Except Fault (List Text)
  | [] => .ok []
  | item :: rest => do
    let t ← shown item
    let ts ← shownItems rest
    .ok (t :: ts)

/-- The entries of a mapping, shown. -/
def shownEntries : List (Value × Datum) → Except Fault (List Text)
  | [] => .ok []
  | (key, d) :: rest => do
    let name ← key.shown
    let t ← shown d
    let ts ← shownEntries rest
    .ok ((name ++ Text.of ": " ++ t) :: ts)

end

/-- A datum as people see it on its own. -/
def written : Datum → Except Fault Text
  | simple v => v.written
  | d => d.shown

/-- The whole number that a datum stands for. -/
def whole : Datum → Except Fault Int
  | simple (.whole n) => .ok n
  | simple (.flag b) => .ok b.toNat
  | simple (.real .nan) => .error .wholeFromUndefined
  | simple (.real (.infinite _)) => .error .wholeFromInfinity
  | simple (.real x) => .ok x.truncate
  | simple (.text t) => ScalarValue.decimalWhole t
  | d => .error (.wholeFromKind d.kindName)

/-- The real number that a datum stands for. -/
def real : Datum → Except Fault Binary64
  | simple (.whole n) =>
    match Binary64.ofInt? n with
    | some x => .ok x
    | none => .error .wholeTooLargeForReal
  | simple (.flag b) => .ok (.ofNat b.toNat)
  | simple (.real x) => .ok x
  | simple (.text t) => ScalarValue.decimalReal t
  | d => .error (.realFromKind d.kindName)

end Datum
end Yaml
end QueryDesk
