import QueryDesk.Yaml.Kind
import QueryDesk.Yaml.Token

/-!
# Nodes

The tokens of a text are read as one document: a tree of nodes, each a scalar, a sequence or a
mapping, with its kind.  An anchor names a node, and an alias stands for the node that it names.  A
name is given once, and to nodes further in front only.
-/

set_option autoImplicit false

namespace QueryDesk
namespace Yaml

/-- A node of a document. -/
inductive Node
  | scalar (kind : Kind) (text : Text)
  | sequence (kind : Kind) (items : List Node)
  | mapping (kind : Kind) (entries : List (Node × Node))

/-- How far the tokens are read. -/
structure Reading where
  tokens : List Token
  /-- The handles of tags with what they stand for. -/
  handles : List (Text × Text)
  /-- The nodes with names; a node that is not read to its end has a name already. -/
  anchors : List (Text × Option Node)

namespace Reading

/-- The handles that every document has. -/
def usualHandles : List (Text × Text) :=
  [(Text.of "!", Text.of "!"), (Text.of "!!", Kind.family)]

/-- The reading without its first token. -/
def next (r : Reading) : Reading := { r with tokens := r.tokens.drop 1 }

/-- Tests for a token of a list in front. -/
def sees (r : Reading) (tokens : List Token) : Bool := r.tokens.head?.any tokens.contains

/-- Gives a name to a node that begins here. -/
def announce (r : Reading) : Option Text → Except Fault Reading
  | none => .ok r
  | some name =>
    if r.anchors.any (·.1 == name) then malformed
    else .ok { r with anchors := (name, none) :: r.anchors }

/-- Remembers a node under its name. -/
def remember (r : Reading) (name : Option Text) (node : Node) : Reading :=
  match name with
  | none => r
  | some name => { r with anchors := (name, some node) :: r.anchors }

/-- The node that an alias stands for. -/
def aliased (r : Reading) (name : Text) : Except Fault Node :=
  match (r.anchors.find? (·.1 == name)).bind (·.2) with
  | some node => .ok node
  | none => malformed

/-! ## Properties -/

/-- The anchor and the tag of a node. -/
structure Properties where
  anchor : Option Text
  tag : Option Text

/-- A tag in full. -/
def fullTag (r : Reading) (handle : Option Text) (suffix : Text) : Except Fault Text :=
  match handle with
  | none => .ok suffix
  | some handle =>
    match r.handles.find? (·.1 == handle) with
    | some found => .ok (found.2 ++ suffix)
    | none => malformed

/-- Reads the anchor and the tag of a node, in either order. -/
def properties (r : Reading) : Except Fault (Properties × Reading) :=
  match r.tokens with
  | .anchor name :: .tag handle suffix :: rest => do
    .ok (⟨some name, some (← r.fullTag handle suffix)⟩, { r with tokens := rest })
  | .tag handle suffix :: .anchor name :: rest => do
    .ok (⟨some name, some (← r.fullTag handle suffix)⟩, { r with tokens := rest })
  | .anchor name :: rest => .ok (⟨some name, none⟩, { r with tokens := rest })
  | .tag handle suffix :: rest => do
    .ok (⟨none, some (← r.fullTag handle suffix)⟩, { r with tokens := rest })
  | _ => .ok (⟨none, none⟩, r)

/-- Tests that a node has no kind of its own: it has no tag, or the tag is a mere mark. -/
def Properties.isOpen (p : Properties) : Bool := p.tag.all (· == [.char '!'])

/-- The kind of a collection. -/
def Properties.kind (p : Properties) (usual : Kind) : Kind :=
  if p.isOpen then usual else (p.tag.map Kind.ofTag).getD usual

/-- The kind of a scalar.  A mark makes even a quoted scalar count as plain. -/
def Properties.scalarKind (p : Properties) (isPlain : Bool) (t : Text) : Kind :=
  match p.tag with
  | none => if isPlain then Kind.ofPlain t else .text
  | some tag => if tag == [.char '!'] then Kind.ofPlain t else Kind.ofTag tag

/-! ## Nodes -/

/-- The node that stands where nothing is written. -/
def nothing : Node := .scalar .null []

/-- The reading with a token in front removed; another token is a fault. -/
def expect (r : Reading) (token : Token) : Except Fault Reading :=
  if r.sees [token] then .ok r.next else malformed

mutual

/-- Reads a node.  In a block, collections without brackets may stand, and as the value of a key a
sequence may be indented no further than the key. -/
def node : Nat → Bool → Bool → Reading → Except Fault (Node × Reading)
  | 0, _, _, _ => malformed
  | fuel + 1, isBlock, mayBeLevel, r =>
    match r.tokens with
    | .alias name :: _ => do .ok (← r.aliased name, r.next)
    | _ => do
      let (p, r) ← r.properties
      let r ← r.announce p.anchor
      let (found, r) ← content fuel isBlock mayBeLevel p r
      .ok (found, r.remember p.anchor found)

/-- Reads what stands behind the properties of a node. -/
def content : Nat → Bool → Bool → Properties → Reading → Except Fault (Node × Reading)
  | 0, _, _, _, _ => malformed
  | fuel + 1, isBlock, mayBeLevel, p, r =>
    match r.tokens with
    | .scalar isPlain t :: _ => .ok (.scalar (p.scalarKind isPlain t) t, r.next)
    | .flowSequenceStart :: _ => do
      let (items, r) ← flowItems fuel true r.next
      .ok (.sequence (p.kind .sequence) items, r)
    | .flowMappingStart :: _ => do
      let (entries, r) ← flowEntries fuel true r.next
      .ok (.mapping (p.kind .mapping) entries, r)
    | token :: _ =>
      if mayBeLevel && token == .blockEntry then do
        let (items, r) ← levelItems fuel r
        .ok (.sequence (p.kind .sequence) items, r)
      else if isBlock && token == .blockSequenceStart then do
        let (items, r) ← blockItems fuel r.next
        .ok (.sequence (p.kind .sequence) items, r)
      else if isBlock && token == .blockMappingStart then do
        let (entries, r) ← blockEntries fuel r.next
        .ok (.mapping (p.kind .mapping) entries, r)
      else absent p r
    | [] => absent p r

/-- Reads a node that is not written: it has properties at least. -/
def absent (p : Properties) (r : Reading) : Except Fault (Node × Reading) :=
  if p.anchor.isSome || p.tag.isSome then
    .ok (.scalar (if p.isOpen then .null else p.kind .null) [], r)
  else malformed

/-- Reads a node of a block, unless one of some tokens shows that there is none. -/
def nodeUnless : Nat → Bool → List Token → Reading → Except Fault (Node × Reading)
  | 0, _, _, _ => malformed
  | fuel + 1, mayBeLevel, ends, r =>
    if r.sees ends then .ok (nothing, r) else node fuel true mayBeLevel r

/-- Reads the items of a block sequence and its end. -/
def blockItems : Nat → Reading → Except Fault (List Node × Reading)
  | 0, _ => malformed
  | fuel + 1, r =>
    if r.sees [.blockEntry] then do
      let (item, r) ← nodeUnless fuel false [.blockEntry, .blockEnd] r.next
      let (items, r) ← blockItems fuel r
      .ok (item :: items, r)
    else do .ok ([], ← r.expect .blockEnd)

/-- Reads the items of a sequence that is indented no further than its key. -/
def levelItems : Nat → Reading → Except Fault (List Node × Reading)
  | 0, _ => malformed
  | fuel + 1, r =>
    if r.sees [.blockEntry] then do
      let (item, r) ← nodeUnless fuel false [.blockEntry, .key, .value, .blockEnd] r.next
      let (items, r) ← levelItems fuel r
      .ok (item :: items, r)
    else .ok ([], r)

/-- Reads the entries of a block mapping and its end. -/
def blockEntries : Nat → Reading → Except Fault (List (Node × Node) × Reading)
  | 0, _ => malformed
  | fuel + 1, r =>
    if r.sees [.key] then do
      let (key, r) ← nodeUnless fuel true [.key, .value, .blockEnd] r.next
      let (value, r) ←
        if r.sees [.value] then nodeUnless fuel true [.key, .value, .blockEnd] r.next
        else .ok (nothing, r)
      let (entries, r) ← blockEntries fuel r
      .ok ((key, value) :: entries, r)
    else do .ok ([], ← r.expect .blockEnd)

/-- Reads a node between brackets, unless one of some tokens shows that there is none. -/
def flowNodeUnless : Nat → List Token → Reading → Except Fault (Node × Reading)
  | 0, _, _ => malformed
  | fuel + 1, ends, r => if r.sees ends then .ok (nothing, r) else node fuel false false r

/-- Reads a value between brackets, if there is one. -/
def flowValue : Nat → List Token → Reading → Except Fault (Node × Reading)
  | 0, _, _ => malformed
  | fuel + 1, ends, r =>
    if r.sees [.value] then flowNodeUnless fuel ends r.next else .ok (nothing, r)

/-- Reads the items of a sequence between brackets and its end.  A key makes an item a mapping with
one entry. -/
def flowItems : Nat → Bool → Reading → Except Fault (List Node × Reading)
  | 0, _, _ => malformed
  | fuel + 1, isFirst, r =>
    if r.sees [.flowSequenceEnd] then .ok ([], r.next)
    else do
      let r ← if isFirst then .ok r else r.expect .flowEntry
      if r.sees [.key] then
        let (key, r) ← flowNodeUnless fuel [.value, .flowEntry, .flowSequenceEnd] r.next
        let (value, r) ← flowValue fuel [.flowEntry, .flowSequenceEnd] r
        let (items, r) ← flowItems fuel false r
        .ok (.mapping .mapping [(key, value)] :: items, r)
      else if r.sees [.flowSequenceEnd] then .ok ([], r.next)
      else
        let (item, r) ← node fuel false false r
        let (items, r) ← flowItems fuel false r
        .ok (item :: items, r)

/-- Reads the entries of a mapping between brackets and its end. -/
def flowEntries : Nat → Bool → Reading → Except Fault (List (Node × Node) × Reading)
  | 0, _, _ => malformed
  | fuel + 1, isFirst, r =>
    if r.sees [.flowMappingEnd] then .ok ([], r.next)
    else do
      let r ← if isFirst then .ok r else r.expect .flowEntry
      if r.sees [.key] then
        let (key, r) ← flowNodeUnless fuel [.value, .flowEntry, .flowMappingEnd] r.next
        let (value, r) ← flowValue fuel [.flowEntry, .flowMappingEnd] r
        let (entries, r) ← flowEntries fuel false r
        .ok ((key, value) :: entries, r)
      else if r.sees [.flowMappingEnd] then .ok ([], r.next)
      else
        let (key, r) ← node fuel false false r
        let (entries, r) ← flowEntries fuel false r
        .ok ((key, nothing) :: entries, r)

end

/-! ## Documents -/

/-- Reads the directives in front of a document.  There may be one version at most, and it must
begin with a one; each handle may be explained once. -/
def directives : Bool → List (Text × Text) → List Token →
    Except Fault (List (Text × Text) × List Token)
  | hasVersion, handles, .directive d :: rest =>
    match d with
    | .version major => if hasVersion || major ≠ 1 then malformed else directives true handles rest
    | .handle name expansion =>
      if handles.any (·.1 == name) then malformed
      else directives hasVersion (handles ++ [(name, expansion)]) rest
    | .other => directives hasVersion handles rest
  | _, handles, rest => .ok (handles ++ usualHandles, rest)

/-- Skips marks at the end of documents. -/
def skipEnds (tokens : List Token) : List Token := tokens.dropWhile (· == .documentEnd)

/-- The tokens that show that a document is empty. -/
def documentEnds : List Token := [.documentStart, .documentEnd]

/-- Tests for a directive. -/
def isDirective : Token → Bool
  | .directive _ => true
  | _ => false

/-- How many calls reading a list of tokens may take. -/
def fuelFor (tokens : List Token) : Nat := 4 * tokens.length + 8

/-- Reads the node of a document whose start is marked. -/
def markedDocument (tokens : List Token) : Except Fault (Node × Reading) := do
  let (handles, rest) ← directives false [] tokens
  match rest with
  | .documentStart :: rest =>
    let r : Reading := ⟨rest, handles, []⟩
    if rest.isEmpty || rest.head?.any isDirective || r.sees documentEnds then .ok (nothing, r)
    else node (fuelFor rest) true false r
  | _ => malformed

/-- Reads the one document of a text, if there is one. -/
def document (tokens : List Token) : Except Fault (Option Node) := do
  if tokens.isEmpty then .ok none
  else
    let (found, r) ←
      if tokens.head?.any fun t => isDirective t || t == .documentStart then markedDocument tokens
      else node (fuelFor tokens) true false ⟨tokens, usualHandles, []⟩
    if (skipEnds r.tokens).isEmpty then .ok (some found) else malformed

end Reading

/-- The one document of a text, if there is one. -/
def Node.ofText? (t : Text) : Except Fault (Option Node) := do
  Reading.document (← Token.ofText t)

end Yaml
end QueryDesk
