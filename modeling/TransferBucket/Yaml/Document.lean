import TransferBucket.Yaml.Reading
import TransferBucket.Value.Set

/-!
# Reading YAML

The value of a YAML text. A text is refused if its tokens make no single document, or else for the
first problem that comes up while its nodes are made into values.

**Order.** A scalar is read when it is met. A list or mapping is only begun then, and waits until
those that began before it are filled. To fill it its parts are met, in order.

**Keys.** The keys of a mapping are scalars. Two are the same key if they are the same node or mean
the same; also any two that name what is not a number by its word. A later value of a key takes the
place of the earlier one.

**Unfolding.** What has been made may lead back to itself. As a value it is a finite tree, which
ends where a list or mapping comes again inside itself. The sections of a configuration are looked
at one by one, so the two outermost levels do not count as being inside.
-/

namespace TransferBucket.Yaml

/-! ## Making values -/

/-- An entry of a mapping that is made: the node of the key, what the key means, whether it names
what is not a number by its word, and the node of the value. -/
structure Member where
  node : Nat
  key : Value
  isNanWord : Bool
  value : Nat
  deriving DecidableEq

/-- What a node is made into. Lists and mappings name their parts by numbers. -/
inductive Made where
  | value (v : Value)
  | list (items : List Nat)
  | pairs (items : List Entry)
  | set (members : List Value)
  | mapping (members : List Member)
  deriving DecidableEq

/-- The state while the values of a graph are made. -/
structure Making where
  graph : Graph
  /-- The number of entries at the start. -/
  entryCount : Nat
  /-- What nodes have been made into. -/
  made : Array (Option Made)
  /-- The lists and mappings that have begun and are not filled, the latest first. -/
  waiting : List Nat := []

/-- A step that makes values. -/
abbrev Make (α : Type) := Action Making Problem α

namespace Make

/-- Say what a node is made into. -/
def record (i : Nat) (m : Made) : Make Made := do
  .modify fun s => { s with made := s.made.setIfInBounds i (some m) }
  pure m

/-- Begin a list or mapping. -/
def begin (i : Nat) (m : Made) : Make Made := do
  .modify fun s => { s with waiting := i :: s.waiting }
  record i m

/-- The value of a node as a scalar of its kind. -/
def scalar (g : Graph) (i : Nat) : Except Problem Value :=
  let n := g.node i
  if n.tag.isScalar then
    match g.textOf i, n.tag, n.content with
    | .error p, _, _ => .error p
    | .ok _, .timestamp, .mapping _ => .error (.failure (.mismatch (.notText (Value.list []).kindName)))
    | .ok text, tag, _ => tag.read text
  else .error .malformed

/-- Meet a node. -/
def meet (i : Nat) : Make Made := do
  let s ← .get
  match s.made.getD i none with
  | some m => pure m
  | none =>
    match (s.graph.node i).tag with
    | .sequence => begin i (.list [])
    | .pairs => begin i (.pairs [])
    | .set => begin i (.set [])
    | .mapping => begin i (.mapping [])
    | _ => do
      let v ← .ofExcept (scalar s.graph i)
      record i (.value v)

/-- Meet nodes. -/
def meetAll : List Nat → Make Unit
  | [] => pure ()
  | i :: rest => do
    let _ ← meet i
    meetAll rest

/-- The single entries of the mappings of a list, whose keys and values are met. -/
def meetPairs : List Nat → Make (List Entry)
  | [] => pure []
  | i :: rest => do
    match (← .read fun s => (s.graph.node i).content) with
    | .mapping [(k, v)] => do
      let _ ← meet k
      let _ ← meet v
      let more ← meetPairs rest
      pure ((k, v) :: more)
    | _ => .fail .malformed

/-- Whether two members have the same key. -/
def sameMember (a b : Member) : Bool :=
  a.node == b.node || Value.sameKey a.key b.key || (a.isNanWord && b.isNanWord)

/-- Put a member among others: a key that is there keeps its place and gets the value. -/
def insert (m : Member) : List Member → List Member
  | [] => [m]
  | n :: rest => if sameMember n m then { n with value := m.value } :: rest else n :: insert m rest

/-- The members that entries make, behind others. A list or mapping is no key. -/
def meetMembers : List Member → List Entry → Make (List Member)
  | members, [] => pure members
  | members, (k, v) :: rest => do
    match ← meet k with
    | .value key => do
      let _ ← meet v
      let isNanWord ← .read fun s =>
        decide (key = .float .nan) && ((s.graph.textOf k).toOption.any TransferBucket.Yaml.isNanWord)
      meetMembers (insert ⟨k, key, isNanWord, v⟩ members) rest
    | _ => .fail .malformed

/-- The members of a mapping, its merge keys worked off. -/
def membersOf (i : Nat) : Make (List Member) := do
  let s ← .get
  if !s.graph.isMapping i then .fail .malformed
  match s.graph.merge s.entryCount i with
  | none => .fail .malformed
  | some graph => do
    .modify fun s => { s with graph }
    meetMembers [] (graph.entries i)

/-- Fill a list or mapping that has begun. -/
def fill (i : Nat) : Make Unit := do
  let n ← .read fun s => s.graph.node i
  let filled : Made ← match n.tag, n.content with
    | .sequence, .sequence items => do
      meetAll items
      pure (.list items)
    | .pairs, .sequence items => .pairs <$> meetPairs items
    | .set, _ => do
      let members ← membersOf i
      pure (.set (members.map Member.key))
    | .mapping, _ => .mapping <$> membersOf i
    | _, _ => .fail .malformed
  let _ ← record i filled

/-- Fill lists and mappings. -/
def fillAll : List Nat → Make Unit
  | [] => pure ()
  | i :: rest => do
    fill i
    fillAll rest

/-- Fill all that waits. Every round but the last fills a node at least, and no node waits twice; so
the fuel is the number of nodes. -/
def finish : Nat → Make Unit
  | 0 => pure ()
  | fuel + 1 => do
    let waiting ← .read fun s => s.waiting.reverse
    if !waiting.isEmpty then
      .modify fun s => { s with waiting := [] }
      fillAll waiting
      finish fuel

end Make

/-! ## Unfolding -/

/-- The tree of a node that has been made, inside others. A path without end meets a node again, so
the fuel is the number of nodes and two more. -/
def unfold (made : Array (Option Made)) : Nat → Nat → List Nat → Nat → Value
  | 0, _, _, _ => .null
  | fuel + 1, depth, around, i =>
    let inside := unfold made fuel (depth + 1) (if depth < 2 then around else i :: around)
    match made.getD i none with
    | none => .null
    | some (.value v) => v
    | some (.set members) => .set (Value.setOrder members)
    | some (.list items) =>
      if around.contains i then .again .list else .list (items.map inside)
    | some (.pairs items) =>
      if around.contains i then .again .list
      else .list (items.map fun e => .pair (inside e.1) (inside e.2))
    | some (.mapping members) =>
      if around.contains i then .again .mapping
      else .mapping (members.map fun m => (m.key, inside m.value))

/-- The value of a graph from its root on. -/
def Graph.value (g : Graph) (root : Nat) : Except Problem Value :=
  let nodes := Array.size g
  let all : Make Unit := do
    let _ ← Make.meet root
    Make.finish (nodes + 1)
  match all { graph := g, entryCount := g.entryCount, made := Array.replicate nodes none } with
  | (.ok (), s) => .ok (unfold s.made (nodes + 3) 0 [] root)
  | (.error p, _) => .error p

/-- The value of a text; an empty text has the value null. -/
def decode (i : Input) : Except Problem Value := do
  match ← Graph.ofTokens (Token.ofInput i) with
  | none => pure .null
  | some (g, root) => g.value root

end TransferBucket.Yaml
