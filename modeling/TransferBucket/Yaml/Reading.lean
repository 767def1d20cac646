import TransferBucket.Yaml.Graph
import TransferBucket.Yaml.Token

/-!
# Reading a graph of nodes

The graph that the tokens of a document describe. A node gets its number where it begins, so that an
alias inside it can name it. An anchor is given once in a document.

Every loop takes a token, or calls one that does, in each of its rounds; its fuel is reckoned from
the number of tokens.
-/

namespace TransferBucket.Yaml

/-- The state between two nodes. -/
structure Reading where
  tokens : List Token
  /-- The beginnings of tags by their handles. -/
  handles : List (String × String) := []
  /-- The numbers of the nodes with anchors. -/
  anchors : List (String × Nat) := []
  /-- The nodes so far. -/
  graph : Graph := #[]

/-- A step that takes tokens. -/
abbrev Read (α : Type) := Action Reading Problem α

namespace Read

/-- The token ahead. -/
def peek : Read (Option Token) := .read fun r => r.tokens.head?

/-- Pass over a token. -/
def pass : Read Unit := .modify fun r => { r with tokens := r.tokens.tail }

/-- Refuse the token ahead, for its own reason if it has one. -/
def refuse {α : Type} : Read α := do
  match ← peek with
  | some (.broken p) => .fail p
  | _ => .fail .malformed

/-- Refuse unless a condition holds. -/
def require (b : Bool) : Read Unit := if b then pure () else refuse

/-- Take a token if it lies ahead, and say whether it did. -/
def accept (t : Token) : Read Bool := do
  if (← peek) = some t then
    pass
    pure true
  else pure false

/-- Take a token that must lie ahead. -/
def expect (t : Token) : Read Unit := do
  let there ← accept t
  require there

/-! ## Making nodes -/

/-- Add a node, and give its number. -/
def add (n : Node) : Read Nat := do
  let i ← .read fun r => r.graph.size
  .modify fun r => { r with graph := r.graph.push n }
  pure i

/-- Say what the node with a number is. -/
def complete (i : Nat) (n : Node) : Read Unit :=
  .modify fun r => { r with graph := r.graph.setIfInBounds i n }

/-- A node, or an empty one in front of certain tokens. -/
def orEmpty (stops : List Token) (x : Read Nat) : Read Nat := do
  match ← peek with
  | some t => if stops.contains t then add .empty else x
  | none => x

/-! ## Properties -/

/-- The full name of a tag, which `unknown` refuses if its handle is not known. -/
def fullName (unknown : Read String) (handle : Option String) (suffix : String) : Read String := do
  match handle with
  | none => pure suffix
  | some h =>
    match (← .read Reading.handles).lookup h with
    | some stem => pure (stem ++ suffix)
    | none => unknown

/-- The anchor and the name of the tag in front of a node, in either order. The token behind them has
been looked at only where an anchor might have followed the tag. -/
def properties : Read (Option String × Option String) := do
  match ← peek with
  | some (.anchor a) => do
    pass
    match ← peek with
    | some (.tag h s) => do
      pass
      let name ← fullName (.fail .malformed) h s
      pure (some a, some name)
    | _ => pure (some a, none)
  | some (.tag h s) => do
    pass
    match ← peek with
    | some (.anchor a) => do
      pass
      let name ← fullName (.fail .malformed) h s
      pure (some a, some name)
    | _ => do
      let name ← fullName refuse h s
      pure (none, some name)
  | _ => pure (none, none)

/-- Number a node that begins, and give it its anchor, which must be new. -/
def begin (anchor : Option String) : Read Nat := do
  match anchor with
  | none => add .empty
  | some a =>
    let known ← .read fun r => (r.anchors.lookup a).isSome
    require !known
    let i ← add .empty
    .modify fun r => { r with anchors := (a, i) :: r.anchors }
    pure i

/-- The node that an alias stands for. -/
def ofAlias (name : String) : Read Nat := do
  match (← .read Reading.anchors).lookup name with
  | some i => pure i
  | none => .fail .malformed

/-- The tag of a scalar: the form decides if it is plain or marked with the bare tag. -/
def scalarTag (name : Option String) (plain : Bool) (text : String) : Tag :=
  match name with
  | none => if plain then .ofPlain text else .text
  | some "!" => .ofPlain text
  | some n => .ofName n

/-- The tag of a collection whose kind is the usual one unless a name is given. -/
def collectionTag (name : Option String) (usual : Tag) : Tag :=
  match name with
  | none => usual
  | some "!" => usual
  | some n => .ofName n

/-! ## Nodes -/

mutual

/-- A node. Blocks may begin only where `block` says so, and a list without indentation of its own
only where `indentless` does. -/
def node (block indentless : Bool) : Nat → Read Nat
  | 0 => refuse
  | fuel + 1 => do
    match ← peek with
    | some (.alias name) => do
      pass
      ofAlias name
    | _ => do
      let (anchor, name) ← properties
      let i ← begin anchor
      let n ← content block indentless anchor name fuel
      complete i n
      pure i

/-- A node without its properties. -/
def content (block indentless : Bool) (anchor name : Option String) : Nat → Read Node
  | 0 => refuse
  | fuel + 1 => do
    match ← peek, block, indentless with
    | some .entry, _, true => do
      let items ← indentlessItems fuel
      pure ⟨collectionTag name .sequence, .sequence items⟩
    | some (.scalar text plain), _, _ => do
      pass
      pure ⟨scalarTag name plain text, .scalar text⟩
    | some .flowSequence, _, _ => do
      pass
      let items ← flowItems true fuel
      pure ⟨collectionTag name .sequence, .sequence items⟩
    | some .flowMapping, _, _ => do
      pass
      let entries ← flowEntries true fuel
      pure ⟨collectionTag name .mapping, .mapping entries⟩
    | some .blockSequence, true, _ => do
      pass
      let items ← blockItems fuel
      pure ⟨collectionTag name .sequence, .sequence items⟩
    | some .blockMapping, true, _ => do
      pass
      let entries ← blockEntries fuel
      pure ⟨collectionTag name .mapping, .mapping entries⟩
    | _, _, _ =>
      if anchor.isSome || name.isSome then pure ⟨scalarTag name true "", .scalar ""⟩ else refuse

/-- The items of a block. -/
def blockItems : Nat → Read (List Nat)
  | 0 => refuse
  | fuel + 1 => do
    if ← accept .entry then
      let item ← orEmpty [.entry, .blockEnd] (node true false fuel)
      let rest ← blockItems fuel
      pure (item :: rest)
    else
      expect .blockEnd
      pure []

/-- The items of a list that is indented like the mapping around it. -/
def indentlessItems : Nat → Read (List Nat)
  | 0 => refuse
  | fuel + 1 => do
    if ← accept .entry then
      let item ← orEmpty [.entry, .key, .value, .blockEnd] (node true false fuel)
      let rest ← indentlessItems fuel
      pure (item :: rest)
    else pure []

/-- The entries of a block. -/
def blockEntries : Nat → Read (List Entry)
  | 0 => refuse
  | fuel + 1 => do
    if ← accept .key then
      let k ← orEmpty [.key, .value, .blockEnd] (node true true fuel)
      let v ← if ← accept .value then
          orEmpty [.key, .value, .blockEnd] (node true true fuel)
        else add .empty
      let rest ← blockEntries fuel
      pure ((k, v) :: rest)
    else
      expect .blockEnd
      pure []

/-- The value of an entry in brackets, which end with a certain token. -/
def flowValue (closing : Token) : Nat → Read Nat
  | 0 => refuse
  | fuel + 1 => do
    if ← accept .value then orEmpty [.comma, closing] (node false false fuel)
    else add .empty

/-- The items in brackets, with the closing one. An item may be a single entry of a mapping. -/
def flowItems (first : Bool) : Nat → Read (List Nat)
  | 0 => refuse
  | fuel + 1 => do
    if ← accept .flowSequenceEnd then pure []
    else
      if !first then expect .comma
      if ← accept .key then
        let k ← orEmpty [.value, .comma, .flowSequenceEnd] (node false false fuel)
        let v ← flowValue .flowSequenceEnd fuel
        let i ← add ⟨.mapping, .mapping [(k, v)]⟩
        let rest ← flowItems false fuel
        pure (i :: rest)
      else if ← accept .flowSequenceEnd then pure []
      else
        let item ← node false false fuel
        let rest ← flowItems false fuel
        pure (item :: rest)

/-- The entries in braces, with the closing one. An entry may be a lone key. -/
def flowEntries (first : Bool) : Nat → Read (List Entry)
  | 0 => refuse
  | fuel + 1 => do
    if ← accept .flowMappingEnd then pure []
    else
      if !first then expect .comma
      if ← accept .key then
        let k ← orEmpty [.value, .comma, .flowMappingEnd] (node false false fuel)
        let v ← flowValue .flowMappingEnd fuel
        let rest ← flowEntries false fuel
        pure ((k, v) :: rest)
      else if ← accept .flowMappingEnd then pure []
      else
        let k ← node false false fuel
        let v ← add .empty
        let rest ← flowEntries false fuel
        pure ((k, v) :: rest)

end

/-! ## Documents -/

/-- The beginnings of tags that every document knows. -/
def usualHandles : List (String × String) := [("!", "!"), ("!!", "tag:yaml.org,2002:")]

/-- The directives in front of a document: one version at most, and every handle once. -/
def directives : Nat → Bool → List (String × String) → Read (List (String × String))
  | 0, _, _ => refuse
  | fuel + 1, versioned, handles => do
    match ← peek with
    | some (.version major) => do
      require (!versioned && major == 1)
      pass
      directives fuel true handles
    | some (.tagStem handle stem) => do
      require (handles.lookup handle).isNone
      pass
      directives fuel versioned ((handle, stem) :: handles)
    | some .directive => do
      pass
      directives fuel versioned handles
    | _ => pure handles

/-- Whether a token belongs to the frame of a document. -/
def isFrame : Token → Bool
  | .version _ => true
  | .tagStem .. => true
  | .directive => true
  | .documentStart => true
  | .documentEnd => true
  | _ => false

/-- Pass over marks of a document's end. -/
def endMarks : Nat → Read Unit
  | 0 => pure ()
  | fuel + 1 => do
    if ← accept .documentEnd then endMarks fuel

/-- Refuse a second document. It has begun where its directives and its mark have been read. -/
def anotherDocument (fuel : Nat) : Read Unit := do
  let _ ← directives fuel false []
  expect .documentStart
  .fail .malformed

/-- The root of the single document of a text; none if the text is empty. -/
def document : Read (Option Nat) := do
  let fuel ← .read fun r => 4 * r.tokens.length + 8
  match ← peek with
  | none => pure none
  | some t => do
    .modify fun r => { r with handles := usualHandles }
    if isFrame t && t != .documentEnd then
      let handles ← directives fuel false []
      .modify fun r => { r with handles := handles ++ usualHandles }
      expect .documentStart
    let next ← peek
    let root ← if next.all isFrame && (isFrame t && t != .documentEnd) then add .empty
      else node true false fuel
    endMarks fuel
    if (← peek).isSome then anotherDocument fuel
    pure (some root)

end Read

/-- The graph that tokens describe and its root; none if there is no document. -/
def Graph.ofTokens (tokens : List Token) : Except Problem (Option (Graph × Nat)) :=
  match Read.document { tokens } with
  | (.ok root, r) => .ok (root.map fun i => (r.graph, i))
  | (.error p, _) => .error p

end TransferBucket.Yaml
