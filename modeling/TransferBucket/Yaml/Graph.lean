import TransferBucket.Yaml.Scalar

/-!
# Graphs of nodes

A YAML document as a graph. Its nodes have numbers; a list or mapping names its parts by their
numbers, so that an alias is the number of the node that it stands for, which may be a node around
it.

**Merging.** The value of a merge key is a mapping, or a list of mappings, the last one first. Its
entries are put in front of those around the key, and the key goes. What is merged has its own
merge keys worked off before. A mapping that is merged into itself gives what it has without that
key.

**Keys.** As the key of a mapping whose merge keys have been worked off, the lone `=` is a text. The
node itself changes, and so do its aliases.
-/

namespace TransferBucket.Yaml

/-- A key and a value, by their numbers. -/
abbrev Entry := Nat × Nat

/-- What a node holds. -/
inductive Content where
  | scalar (text : String)
  | sequence (items : List Nat)
  | mapping (entries : List Entry)
  deriving DecidableEq, Repr, Inhabited

/-- A node of a document. -/
structure Node where
  tag : Tag
  content : Content
  deriving DecidableEq, Repr

/-- A scalar without text. -/
def Node.empty : Node := ⟨.null, .scalar ""⟩

instance : Inhabited Node := ⟨.empty⟩

/-- The nodes of a document by their numbers. -/
abbrev Graph := Array Node

namespace Graph

/-- The node with a number. -/
def node (g : Graph) (i : Nat) : Node := g.getD i .empty

/-- The entries of a mapping. -/
def entries (g : Graph) (i : Nat) : List Entry :=
  match (g.node i).content with
  | .mapping es => es
  | _ => []

/-- Whether a node is a mapping. -/
def isMapping (g : Graph) (i : Nat) : Bool :=
  match (g.node i).content with
  | .mapping _ => true
  | _ => false

/-- Give a mapping other entries. -/
def setEntries (g : Graph) (i : Nat) (es : List Entry) : Graph :=
  g.modify i fun n => { n with content := .mapping es }

/-- Make a node a text if it is a lone `=`. -/
def asText (g : Graph) (i : Nat) : Graph :=
  g.modify i fun n => if n.tag = .value then { n with tag := .text } else n

@[simp]
theorem node_empty (i : Nat) : node #[] i = .empty := rfl

/-! ## Merging -/

/-- The value of the first merge key of a mapping, and the graph in which that key is gone. -/
def takeMerge (g : Graph) (i : Nat) : Option (Nat × Graph) :=
  let es := g.entries i
  let before := es.takeWhile fun e => (g.node e.1).tag != .merge
  match es.drop before.length with
  | [] => none
  | (_, v) :: rest => some (v, g.setEntries i (before ++ rest))

/-- A mapping with what its merge keys give in front, its keys made texts where they have to be. -/
def finish (g : Graph) (i : Nat) (merged : List Entry) : Graph :=
  let es := merged ++ g.entries i
  es.foldl (fun g e => g.asText e.1) (g.setEntries i es)

/-- Work off the merge keys of a mapping, and say what they give; none if something is merged that
cannot be. Every round takes a merge key out of the graph, and none comes into it; so the fuel is
the number of entries. -/
def gather : Nat → Graph → Nat → List Entry → Option (List Entry × Graph)
  | 0, g, _, merged => some (merged, g)
  | fuel + 1, g, i, merged =>
    match g.takeMerge i with
    | none => some (merged, g)
    | some (v, g) =>
      match (g.node v).content with
      | .mapping _ =>
        match gather fuel g v [] with
        | none => none
        | some (given, g) =>
          let g := g.finish v given
          gather fuel g i (merged ++ g.entries v)
      | .sequence items =>
        let step (state : List Entry × Graph) (j : Nat) : Option (List Entry × Graph) :=
          if state.2.isMapping j then
            (gather fuel state.2 j []).map fun (given, g) =>
              let g := g.finish j given
              (g.entries j ++ state.1, g)
          else none
        match items.foldlM step ([], g) with
        | none => none
        | some (given, g) => gather fuel g i (merged ++ given)
      | .scalar _ => none

/-- The number of all entries. -/
def entryCount (g : Graph) : Nat := g.foldl (fun n i => n + match i.content with
  | .mapping es => es.length
  | _ => 0) 0

/-- The graph in which the merge keys of a mapping are worked off, given the number of entries. -/
def merge (fuel : Nat) (g : Graph) (i : Nat) : Option Graph :=
  (gather (fuel + 1) g i []).map fun (merged, g) => g.finish i merged

/-! ## Scalars -/

/-- The text of a scalar. A mapping stands for the value under its first lone `=`. Whoever follows
more mappings than there are nodes goes round for ever. -/
def text (g : Graph) : Nat → Nat → Except Problem String
  | 0, _ => .error (.failure .endless)
  | fuel + 1, i =>
    match (g.node i).content with
    | .scalar t => .ok t
    | .sequence _ => .error .malformed
    | .mapping es =>
      match es.find? fun e => (g.node e.1).tag = .value with
      | some (_, v) => g.text fuel v
      | none => .error .malformed

/-- The text that a node has where a scalar is asked for. -/
def textOf (g : Graph) (i : Nat) : Except Problem String := g.text (Array.size g + 1) i

end Graph

end TransferBucket.Yaml
