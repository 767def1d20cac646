import TransferBucket.Failure

/-!
# Parts of a value

What is asked of a value that may be of any kind: its entries, whether it holds something, what
lies under a name. A value of the wrong kind refuses, and the refusal says what was asked of what.
-/

namespace TransferBucket

/-! ## Texts of values -/

/-- The text of a value in a message, which must be able to show it. -/
def Value.wording (v : Value) : Except Failure String :=
  if v.isSpellable then .ok v.display else .error (.value .longNumber)

theorem Value.wording_text (s : String) : (Value.text s).wording = .ok s := rfl

/-- Whether one list of characters occurs in another. -/
def occursIn (part : List Char) : List Char → Bool
  | [] => part.isEmpty
  | c :: rest => part.isPrefixOf (c :: rest) || occursIn part rest

theorem occursIn_iff {part cs : List Char} : occursIn part cs = true ↔ part <:+: cs := by
  induction cs with
  | nil => rw [occursIn, List.isEmpty_iff, List.infix_nil]
  | cons c rest ih =>
    rw [occursIn, Bool.or_eq_true, List.isPrefixOf_iff_prefix, ih, List.infix_cons_iff]

/-! ## Mappings made from values -/

/-- The two parts of an item of a list of entries. -/
def entryOf (index : Nat) (item : Value) : Except Failure (Value × Value) :=
  let two (parts : List Value) : Except Failure (Value × Value) :=
    match parts with
    | [k, v] => .ok (k, v)
    | _ => .error (.value (.entryLength index parts.length))
  match item with
  | .list parts => two parts
  | .text s => two (s.toList.map fun c => .text (String.singleton c))
  | .mapping entries => two (entries.map (·.1))
  | _ => .error (.mismatch (.notEntry index))

/-- The entries of a list of items, each of which must have two parts and a key that can be one.
The first item at fault decides. -/
def entriesOf : Nat → List Value → Except Failure (List (Value × Value))
  | _, [] => .ok []
  | index, item :: rest =>
    match entryOf index item with
    | .error e => .error e
    | .ok (k, v) =>
      if k.isKey then (entriesOf (index + 1) rest).map ((k, v) :: ·)
      else .error (.mismatch (.unhashable k.kindName))

/-- The mapping that a value makes: itself, or the entries that it lists. -/
def Value.toMapping (v : Value) : Except Failure Mapping :=
  match v with
  | .mapping m => .ok m
  | .list items => (entriesOf 0 items).map ofEntries
  | .text s => (entriesOf 0 (s.toList.map fun c => .text (String.singleton c))).map ofEntries
  | v => .error (.mismatch (.notIterable v.fullKindName))

/-- The entries of a value that must have members to get. -/
def Value.members (v : Value) : Except Failure Mapping :=
  match v with
  | .mapping m => .ok m
  | v => .error (.mismatch (.noMember v.fullKindName "get"))

namespace Value

/-- Whether a value holds a key: among its names, its items or its characters. -/
def holds (v key : Value) : Except Failure Bool :=
  match v with
  | .mapping m =>
    if key.isKey then .ok (lookup? key m).isSome
    else .error (.mismatch (.unhashable key.kindName))
  | .list items => .ok (items.any fun i => equals i key)
  | .text s => match key with
    | .text t => .ok (occursIn t.toList s.toList)
    | k => .error (.mismatch (.textMembership k.fullKindName))
  | v => .error (.mismatch (.noMembership v.fullKindName))

/-- What lies under a name. -/
def item (v : Value) (name : String) : Except Failure Value :=
  match v with
  | .mapping m =>
    match field? name m with
    | some w => .ok w
    | none => .error (.missingKey (.text name))
  | .list _ => .error (.mismatch (.listIndex "str"))
  | .text _ => .error (.mismatch (.textIndex "str"))
  | v => .error (.mismatch (.noIndex v.fullKindName))

end Value

end TransferBucket
