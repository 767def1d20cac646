import TransferBucket.Number.Binary64
import TransferBucket.Calendar

/-!
# Document values

The values that documents hold: JSON texts, YAML files, and the records read from them. A field
of a record may hold a value of any kind, because a document may; what is asked of a value is
asked where it is used.

A mapping keeps its entries in the order in which their keys first came. Its keys are told apart
by `sameKey`, for which numbers of different kinds are equal when they mean the same number.

A YAML file may also hold bytes, sets, single pairs, and a list or mapping that stands inside
itself. A value is a finite tree; where a list or mapping comes again inside itself the tree ends.
-/

namespace TransferBucket

/-- What may stand inside itself. -/
inductive Enclosure where
  | list
  | mapping
  deriving DecidableEq, Repr, Inhabited

/-- A value of a document. -/
inductive Value where
  | null
  | bool (b : Bool)
  | int (n : Int)
  | float (x : Binary64)
  | text (s : String)
  | bytes (bs : List UInt8)
  | date (d : Date)
  | timestamp (t : Timestamp)
  | list (items : List Value)
  /-- An entry that stands by itself, as the items of an ordered mapping do. -/
  | pair (first second : Value)
  /-- A set; its members are in the order in which they are written. -/
  | set (members : List Value)
  | mapping (entries : List (Value × Value))
  /-- A list or mapping at a place inside itself. -/
  | again (e : Enclosure)
  deriving Inhabited

/-- The entries of a mapping, in the order of their keys' first coming. -/
abbrev Mapping := List (Value × Value)

namespace Value

/-! ## Structural equality -/

mutual

/-- Whether two values are built alike. -/
def same : Value → Value → Bool
  | .null, .null => true
  | .bool a, .bool b => a == b
  | .int a, .int b => a == b
  | .float a, .float b => decide (a = b)
  | .text a, .text b => a == b
  | .bytes a, .bytes b => a == b
  | .date a, .date b => decide (a = b)
  | .timestamp a, .timestamp b => decide (a = b)
  | .list a, .list b => sameItems a b
  | .pair a b, .pair c d => same a c && same b d
  | .set a, .set b => sameItems a b
  | .mapping a, .mapping b => sameEntries a b
  | .again a, .again b => a == b
  | _, _ => false

/-- `same` for lists of values. -/
def sameItems : List Value → List Value → Bool
  | [], [] => true
  | a :: as, b :: bs => same a b && sameItems as bs
  | _, _ => false

/-- `same` for entries. -/
def sameEntries : List (Value × Value) → List (Value × Value) → Bool
  | [], [] => true
  | (k, a) :: as, (l, b) :: bs => same k l && same a b && sameEntries as bs
  | _, _ => false

end

mutual

theorem same_iff : ∀ a b : Value, same a b = true ↔ a = b
  | .null, b => by cases b <;> simp [same]
  | .bool _, b => by cases b <;> simp [same]
  | .int _, b => by cases b <;> simp [same]
  | .float _, b => by cases b <;> simp [same]
  | .text _, b => by cases b <;> simp [same]
  | .bytes _, b => by cases b <;> simp [same]
  | .date _, b => by cases b <;> simp [same]
  | .timestamp _, b => by cases b <;> simp [same]
  | .again _, b => by cases b <;> simp [same]
  | .list as, b => by
    cases b with
    | list bs => simp [same, sameItems_iff as bs]
    | _ => simp [same]
  | .pair a a', b => by
    cases b with
    | pair c d => simp [same, same_iff a c, same_iff a' d]
    | _ => simp [same]
  | .set as, b => by
    cases b with
    | set bs => simp [same, sameItems_iff as bs]
    | _ => simp [same]
  | .mapping as, b => by
    cases b with
    | mapping bs => simp [same, sameEntries_iff as bs]
    | _ => simp [same]

theorem sameItems_iff : ∀ as bs : List Value, sameItems as bs = true ↔ as = bs
  | [], bs => by cases bs <;> simp [sameItems]
  | a :: as, bs => by
    cases bs with
    | nil => simp [sameItems]
    | cons b bs => simp [sameItems, same_iff a b, sameItems_iff as bs]

theorem sameEntries_iff : ∀ as bs : List (Value × Value), sameEntries as bs = true ↔ as = bs
  | [], bs => by cases bs <;> simp [sameEntries]
  | (k, a) :: as, bs => by
    cases bs with
    | nil => simp [sameEntries]
    | cons b bs =>
      obtain ⟨l, b⟩ := b
      simp [sameEntries, same_iff k l, same_iff a b, sameEntries_iff as bs]

end

instance : DecidableEq Value := fun a b => decidable_of_iff _ (same_iff a b)

/-! ## Kinds -/

/-- The word for the kind of a value. -/
def kindName : Value → String
  | .null => "NoneType"
  | .bool _ => "bool"
  | .int _ => "int"
  | .float _ => "float"
  | .text _ => "str"
  | .bytes _ => "bytes"
  | .date _ => "date"
  | .timestamp _ => "datetime"
  | .list _ => "list"
  | .pair .. => "tuple"
  | .set _ => "set"
  | .mapping _ => "dict"
  | .again .list => "list"
  | .again .mapping => "dict"

/-- The word for the kind of a value, with its family where there is one. -/
def fullKindName : Value → String
  | .date _ => "datetime.date"
  | .timestamp _ => "datetime.datetime"
  | v => v.kindName

/-- Whether a value counts as given: not null, not false, not zero and not empty. -/
def isTruthy : Value → Bool
  | .null => false
  | .bool b => b
  | .int n => n != 0
  | .float x => !x.isZero
  | .text s => s != ""
  | .bytes bs => !bs.isEmpty
  | .date _ => true
  | .timestamp _ => true
  | .list items => !items.isEmpty
  | .pair .. => true
  | .set members => !members.isEmpty
  | .mapping entries => !entries.isEmpty
  | .again _ => true

/-- The value itself where it counts as given, else another. -/
def orElse (v w : Value) : Value := if v.isTruthy then v else w

/-- The value where it counts as given. -/
def present? (v : Value) : Option Value := if v.isTruthy then some v else none

/-- The text that a value is. -/
def text? : Value → Option String
  | .text s => some s
  | _ => none

/-- Whether a value may be the key of a mapping: no value that holds others is one. -/
def isKey : Value → Bool
  | .list _ => false
  | .pair .. => false
  | .set _ => false
  | .mapping _ => false
  | .again _ => false
  | _ => true

/-! ## Equality of what is meant -/

/-- The whole number that a truth value or whole number stands for. -/
def wholeNumber? : Value → Option Int
  | .bool b => some (if b then 1 else 0)
  | .int n => some n
  | _ => none

/-- Whether two keys are the same key. -/
def sameKey (a b : Value) : Bool :=
  match a, b with
  | .null, .null => true
  | .text s, .text t => s == t
  | .bytes a, .bytes b => a == b
  | .date d, .date e => decide (d = e)
  | .timestamp t, .timestamp u => t.equals u
  | .float x, .float y => x.equals y
  | .float x, v => match v.wholeNumber? with
    | some n => x.equalsInt n
    | none => false
  | v, .float y => match v.wholeNumber? with
    | some n => y.equalsInt n
    | none => false
  | v, w => match v.wholeNumber?, w.wholeNumber? with
    | some m, some n => m == n
    | _, _ => false

@[simp]
theorem sameKey_text (s t : String) : sameKey (.text s) (.text t) = (s == t) := rfl

/-- Only a text is the same key as a text. -/
theorem eq_text_of_sameKey {k : Value} {name : String} (h : sameKey k (.text name)) :
    k = .text name := by
  cases k with
  | text s => exact congrArg _ (beq_iff_eq.1 h)
  | _ => simp [sameKey, wholeNumber?] at h

/-- The value under a key. -/
def lookup? (key : Value) : Mapping → Option Value
  | [] => none
  | (k, v) :: rest => if sameKey k key then some v else lookup? key rest

/-- Put a value under a key: in place where the key is there, at the end otherwise. -/
def insert (key value : Value) : Mapping → Mapping
  | [] => [(key, value)]
  | (k, v) :: rest => if sameKey k key then (k, value) :: rest else (k, v) :: insert key value rest

@[simp]
theorem lookup?_nil (key : Value) : lookup? key [] = none := rfl

theorem lookup?_cons (key k v : Value) (rest : Mapping) :
    lookup? key ((k, v) :: rest) = if sameKey k key then some v else lookup? key rest := rfl

/-- A value that is found is there, under the same key. -/
theorem mem_of_lookup? {key v : Value} {m : Mapping} (h : lookup? key m = some v) :
    ∃ k, (k, v) ∈ m ∧ sameKey k key := by
  induction m with
  | nil => cases h
  | cons e rest ih =>
    obtain ⟨k, w⟩ := e
    rw [lookup?_cons] at h
    split at h
    · rename_i hk
      cases h
      exact ⟨k, List.mem_cons_self, hk⟩
    · obtain ⟨k', hmem, hk'⟩ := ih h
      exact ⟨k', List.mem_cons_of_mem _ hmem, hk'⟩

theorem lookup?_eq_none_iff {key : Value} {m : Mapping} :
    lookup? key m = none ↔ ∀ e ∈ m, sameKey e.1 key = false := by
  induction m with
  | nil => exact iff_of_true rfl nofun
  | cons e rest ih =>
    obtain ⟨k, v⟩ := e
    rw [lookup?_cons, List.forall_mem_cons, ← ih]
    by_cases h : sameKey k key <;> simp [h]

/-- Take a key away. -/
def erase (key : Value) (m : Mapping) : Mapping := m.filter fun e => !sameKey e.1 key

/-- The mapping of a list of entries: a later value of a key replaces an earlier one. -/
def ofEntries (entries : List (Value × Value)) : Mapping :=
  entries.foldl (fun m e => insert e.1 e.2 m) []

mutual

/-- Whether two values mean the same: mappings and sets without regard to order, numbers without
regard to kind. -/
def equals : Value → Value → Bool
  | .list as, w => match w with
    | .list bs => equalItems as bs
    | _ => false
  | .pair a b, w => match w with
    | .pair c d => equals a c && equals b d
    | _ => false
  | .set as, w => match w with
    | .set bs => as.length == bs.length && as.all fun a => bs.any (sameKey a)
    | _ => false
  | .mapping as, w => match w with
    | .mapping bs => as.length == bs.length && equalEntries as bs
    | _ => false
  | v, w => sameKey v w

/-- `equals` for lists of values. -/
def equalItems : List Value → List Value → Bool
  | [], bs => bs.isEmpty
  | a :: as, bs => match bs with
    | b :: bs => equals a b && equalItems as bs
    | [] => false

/-- Whether every entry is found among others. -/
def equalEntries : List (Value × Value) → List (Value × Value) → Bool
  | [], _ => true
  | (k, a) :: as, bs =>
    (match lookup? k bs with
      | some b => equals a b
      | none => false) && equalEntries as bs

end

/-! ## Mappings with text keys -/

/-- The value under a text key. -/
def field? (name : String) (m : Mapping) : Option Value := lookup? (.text name) m

/-- What is put under a text key is found there. -/
theorem field?_insert_self (name : String) (value : Value) (m : Mapping) :
    field? name (insert (.text name) value m) = some value := by
  induction m with
  | nil => simp [field?, insert, lookup?_cons]
  | cons e rest ih =>
    obtain ⟨k, v⟩ := e
    simp only [field?] at ih ⊢
    by_cases h : sameKey k (.text name) <;> simp [insert, lookup?_cons, h, ih]

/-- The value under a text key, null where there is none. -/
def field (name : String) (m : Mapping) : Value := (field? name m).getD .null

/-- A mapping from named fields. -/
def record (fields : List (String × Value)) : Value :=
  .mapping (fields.map fun f => (.text f.1, f.2))

end Value

end TransferBucket
