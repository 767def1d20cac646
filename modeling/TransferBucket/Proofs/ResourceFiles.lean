import TransferBucket.Proofs.PreferenceMap
import TransferBucket.Proofs.Returning

/-!
# Files that give no record

**Theorem (`CommandLine.files_without_record_are_refused`).** A command gives up a resource by a
file. Where the file gives no record (`GivesRecord`), the command prints no output, changes nothing
and turns to no service. It ends with status 2 and says that the file is not that of a resource,
with the reason; unless the address in the file is something other than a mapping (`HasStray`). Then
it ends with status 1.

**What gives a record** is said of the bytes alone: they are those of a JSON text, whose value makes
a mapping (`Value.MakesMapping`) with the fields of a record (`HasFields`) and an address in it
(`Address.IsGivenBy`). Each of these is what one step of the reader asks for
(`exists_recordIn_iff`).

**Why a file gives none** is a value of the wrong form or kind in every step but one
(`BlamesValue`): an address that is no mapping is asked for a member that it does not have, and this
failure counts as none of the file (`Resource.ofValue_of_hasStray`).
-/

namespace TransferBucket

open TransferBucket.Action

/-! ## Steps that fail on account of a value -/

/-- If there is no result, a value has the wrong form or kind. -/
def BlamesValue {α : Type} (r : Except Failure α) : Prop := ∀ f, r = .error f → f.isBadValue = true

theorem BlamesValue.map {α β : Type} {r : Except Failure α} (h : BlamesValue r) (g : α → β) :
    BlamesValue (r.map g) := by
  intro f hf
  rcases r with e | a <;> cases hf
  exact h _ rfl

/-! ## Mappings made from values -/

namespace Value

/-- An item gives an entry: it has two parts, of which the first can be a key. Of a mapping only the
keys count. -/
inductive IsEntry : Value → Value × Value → Prop
  | list {k v : Value} (hkey : k.isKey) : IsEntry (.list [k, v]) (k, v)
  | text {s : String} {a b : Char} (hs : s.toList = [a, b]) :
    IsEntry (.text s) (.text (String.singleton a), .text (String.singleton b))
  | mapping {e e' : Value × Value} (hkey : e.1.isKey) : IsEntry (.mapping [e, e']) (e.1, e'.1)

/-- A value makes a mapping: it is one, or a list of entries, or a text without characters. -/
inductive MakesMapping : Value → Mapping → Prop
  | mapping (m : Mapping) : MakesMapping (.mapping m) m
  | list {items : List Value} {es : List (Value × Value)} (h : List.Forall₂ IsEntry items es) :
    MakesMapping (.list items) (ofEntries es)
  | empty : MakesMapping (.text "") []

variable {v : Value} {m : Mapping}

theorem entryOf_eq_ok_iff (index : Nat) {item : Value} {e : Value × Value} :
    (entryOf index item = .ok e ∧ e.1.isKey) ↔ IsEntry item e := by
  constructor
  · rintro ⟨h, hkey⟩
    unfold entryOf at h
    rcases item with _ | _ | _ | _ | s | _ | _ | _ | items | _ | _ | entries | _ <;> dsimp only at h
    case text =>
      rcases hs : s.toList with _ | ⟨a, _ | ⟨b, _ | _⟩⟩ <;> rw [hs] at h <;> cases h
      exact .text hs
    case list =>
      rcases items with _ | ⟨k, _ | ⟨v, _ | _⟩⟩ <;> cases h
      exact .list hkey
    case mapping =>
      rcases entries with _ | ⟨e, _ | ⟨e', _ | _⟩⟩ <;> cases h
      exact .mapping hkey
    all_goals cases h
  · intro h
    cases h with
    | list hkey => exact ⟨rfl, hkey⟩
    | text hs => exact ⟨by rw [entryOf, hs]; rfl, rfl⟩
    | mapping hkey => exact ⟨rfl, hkey⟩

theorem blamesValue_entryOf (index : Nat) (item : Value) : BlamesValue (entryOf index item) := by
  intro f hf
  unfold entryOf at hf
  dsimp only at hf
  split at hf <;> try split at hf
  all_goals cases hf
  all_goals rfl

/-- A list is read as entries, item by item. -/
theorem entriesOf_eq_ok_iff (index : Nat) {items : List Value} {es : List (Value × Value)} :
    entriesOf index items = .ok es ↔ List.Forall₂ IsEntry items es := by
  induction items generalizing index es with
  | nil =>
    rw [List.forall₂_nil_left_iff, entriesOf, Except.ok.injEq]
    exact eq_comm
  | cons item rest ih =>
    rw [List.forall₂_cons_left_iff, entriesOf]
    constructor
    · intro h
      rcases hentry : entryOf index item with f | e <;> rw [hentry] at h <;> dsimp only at h
      · cases h
      · split_ifs at h with hkey
        · rcases hrest : entriesOf (index + 1) rest with f | es' <;> rw [hrest] at h <;> cases h
          exact ⟨e, es', (entryOf_eq_ok_iff index).1 ⟨hentry, hkey⟩, (ih (index + 1)).1 hrest, rfl⟩
    · rintro ⟨e, es', he, hes, rfl⟩
      obtain ⟨hentry, hkey⟩ := (entryOf_eq_ok_iff index).2 he
      rw [hentry]
      dsimp only
      rw [if_pos hkey, (ih (index + 1)).2 hes]
      rfl

theorem blamesValue_entriesOf (index : Nat) (items : List Value) :
    BlamesValue (entriesOf index items) := by
  induction items generalizing index with
  | nil => exact nofun
  | cons item rest ih =>
    intro f hf
    rw [entriesOf] at hf
    rcases hentry : entryOf index item with f' | e <;> rw [hentry] at hf <;> dsimp only at hf
    · cases hf
      exact blamesValue_entryOf index item _ hentry
    · split_ifs at hf with hkey
      · exact (ih (index + 1)).map _ f hf
      · cases hf
        rfl

/-- A text with characters lists no entries, since a character has one part only. -/
theorem entriesOf_chars {cs : List Char} {es : List (Value × Value)} :
    entriesOf 0 (cs.map fun c => .text (String.singleton c)) = .ok es ↔ cs = [] ∧ es = [] := by
  rw [entriesOf_eq_ok_iff]
  rcases cs with _ | ⟨c, cs⟩
  · simp
  · refine iff_of_false (fun h => ?_) (fun h => nomatch h.1)
    rw [List.map_cons, List.forall₂_cons_left_iff] at h
    obtain ⟨e, -, he, -⟩ := h
    cases he with
    | text hs => simp at hs

theorem toMapping_eq_ok_iff : v.toMapping = .ok m ↔ v.MakesMapping m := by
  constructor
  · intro h
    rcases v with _ | _ | _ | _ | s | _ | _ | _ | items | _ | _ | entries | _
    case text =>
      rw [toMapping] at h
      rcases hread : entriesOf 0 (s.toList.map fun c => .text (String.singleton c)) with f | es <;>
        rw [hread] at h <;> cases h
      obtain ⟨hs, rfl⟩ := entriesOf_chars.1 hread
      rw [String.toList_eq_nil_iff.1 hs]
      exact .empty
    case list =>
      rw [toMapping] at h
      rcases hread : entriesOf 0 items with f | es <;> rw [hread] at h <;> cases h
      exact .list ((entriesOf_eq_ok_iff 0).1 hread)
    case mapping =>
      cases h
      exact .mapping _
    all_goals cases h
  · intro h
    cases h with
    | mapping m => rfl
    | list hes => rw [toMapping, (entriesOf_eq_ok_iff 0).2 hes]; rfl
    | empty => rfl

theorem exists_toMapping_orElse_iff : (∃ m, (v.orElse (.mapping [])).toMapping = .ok m) ↔
    (v.isTruthy = false ∨ ∃ m, v.MakesMapping m) := by
  unfold orElse
  split_ifs with h
  · simp [h, toMapping_eq_ok_iff]
  · exact iff_of_true ⟨[], rfl⟩ (Or.inl (Bool.eq_false_iff.2 h))

theorem blamesValue_toMapping (v : Value) : BlamesValue v.toMapping := by
  rcases v with _ | _ | _ | _ | s | _ | _ | _ | items | _ | _ | entries | _
  case text => exact (blamesValue_entriesOf _ _).map _
  case list => exact (blamesValue_entriesOf _ _).map _
  all_goals
    intro f hf
    cases hf
    try rfl

end Value

/-! ## Fields -/

section Fields

variable {record : String} {required optional : List String} {m : Mapping}

/-- A mapping has the fields of a record: all that are required, and no other but optional ones. -/
structure HasFields (required optional : List String) (m : Mapping) : Prop where
  known : ∀ e ∈ m, ∃ name, e.1 = .text name ∧ (name ∈ required ∨ name ∈ optional)
  complete : ∀ name ∈ required, ∃ v, (.text name, v) ∈ m

theorem textKeys?_eq_some_iff {names : List String} :
    textKeys? m = some names ↔ m.map (·.1) = names.map .text := by
  induction m generalizing names with
  | nil => rcases names with _ | ⟨n, names⟩ <;> simp [textKeys?]
  | cons e rest ih =>
    obtain ⟨k, v⟩ := e
    rcases names with _ | ⟨n, names⟩
    · cases k <;> simp [textKeys?]
    · cases k <;> simp [textKeys?, ih, and_comm]

theorem exists_textKeys? (h : ∀ e ∈ m, ∃ name, e.1 = .text name) :
    ∃ names, textKeys? m = some names := by
  induction m with
  | nil => exact ⟨[], rfl⟩
  | cons e rest ih =>
    obtain ⟨⟨name, hname⟩, hrest⟩ := List.forall_mem_cons.1 h
    obtain ⟨names, hnames⟩ := ih hrest
    refine ⟨name :: names, textKeys?_eq_some_iff.2 ?_⟩
    rw [List.map_cons, List.map_cons, hname, textKeys?_eq_some_iff.1 hnames]

/-- The fields of a record, told by the names. -/
theorem hasFields_iff {names : List String} (hkeys : textKeys? m = some names) :
    HasFields required optional m ↔
      (∀ name ∈ names, name ∈ required ∨ name ∈ optional) ∧ ∀ name ∈ required, name ∈ names := by
  have hmem : ∀ name, name ∈ names ↔ ∃ v, (Value.text name, v) ∈ m := by
    intro name
    have hiff : Value.text name ∈ m.map (·.1) ↔ Value.text name ∈ names.map Value.text := by
      rw [textKeys?_eq_some_iff.1 hkeys]
    simpa using hiff.symm
  constructor
  · rintro ⟨hknown, hcomplete⟩
    refine ⟨fun name hname => ?_, fun name hname => (hmem name).2 (hcomplete name hname)⟩
    obtain ⟨v, hv⟩ := (hmem name).1 hname
    obtain ⟨name', heq, h⟩ := hknown _ hv
    cases heq
    exact h
  · rintro ⟨hknown, hcomplete⟩
    refine ⟨fun e he => ?_, fun name hname => (hmem name).1 (hcomplete name hname)⟩
    have hkey : e.1 ∈ names.map Value.text := by
      rw [← textKeys?_eq_some_iff.1 hkeys]
      exact List.mem_map_of_mem he
    obtain ⟨name, hname, heq⟩ := List.mem_map.1 hkey
    exact ⟨name, heq.symm, hknown name hname⟩

theorem checkFields_eq_ok_iff :
    checkFields record required optional m = .ok () ↔ HasFields required optional m := by
  rcases hkeys : textKeys? m with _ | names
  · refine iff_of_false (by simp [checkFields, hkeys]) fun h => ?_
    obtain ⟨names, hnames⟩ := exists_textKeys? fun e he => (h.known e he).imp fun _ h => h.1
    rw [hkeys] at hnames
    cases hnames
  · have hknown : (names.find? fun n => !(required.contains n || optional.contains n)) = none ↔
        ∀ name ∈ names, name ∈ required ∨ name ∈ optional := by
      simp [List.find?_eq_none, or_iff_not_imp_left]
    have hcomplete : (required.filter fun n => !names.contains n) = [] ↔
        ∀ name ∈ required, name ∈ names := by
      simp [List.filter_eq_nil_iff]
    rw [hasFields_iff hkeys, ← hknown, ← hcomplete, checkFields, hkeys]
    dsimp only
    rcases names.find? fun n => !(required.contains n || optional.contains n) with _ | n
    · rcases required.filter fun n => !names.contains n with _ | ⟨n, missing⟩ <;> simp
    · simp

theorem blamesValue_checkFields (record : String) (required optional : List String) (m : Mapping) :
    BlamesValue (checkFields record required optional m) := by
  intro f hf
  unfold checkFields at hf
  split at hf <;> try split at hf
  · cases hf
    rfl
  · cases hf
    rfl
  · split at hf <;> cases hf
    rfl

end Fields

/-! ## Addresses -/

/-- A value that counts as given, but has no members. -/
def Value.IsStray (v : Value) : Prop := v.isTruthy = true ∧ ∀ m, v ≠ .mapping m

namespace Address

variable {v : Value} {m : Mapping}

/-- A mapping gives an address: its properties do not count as given, or make a mapping. -/
def HasProperties (m : Mapping) : Prop :=
  (Value.field "properties" m).isTruthy = false ∨ ∃ ps, (Value.field "properties" m).MakesMapping ps

/-- A value gives an address: it does not count as given, or is a mapping that gives one. -/
def IsGivenBy (v : Value) : Prop := v.isTruthy = false ∨ ∃ m, v = .mapping m ∧ HasProperties m

theorem exists_ofValue_mapping_iff : (∃ a, ofValue (.mapping m) = .ok a) ↔ HasProperties m := by
  rw [HasProperties, ← Value.exists_toMapping_orElse_iff, ofValue]
  dsimp only [Value.members]
  rcases ((Value.field "properties" m).orElse (.mapping [])).toMapping with f | ps <;> simp

theorem blamesValue_ofValue_mapping (m : Mapping) : BlamesValue (ofValue (.mapping m)) := by
  intro f hf
  rw [ofValue] at hf
  dsimp only [Value.members] at hf
  rcases hps : ((Value.field "properties" m).orElse (.mapping [])).toMapping with f' | ps <;>
    rw [hps] at hf <;> cases hf
  exact Value.blamesValue_toMapping _ _ hps

/-- What has no members is asked for one. -/
theorem ofValue_of_isStray (h : v.IsStray) : ofValue (v.orElse (.mapping [])) =
    .error (.mismatch (.noMember v.fullKindName "get")) := by
  obtain ⟨htruthy, hmapping⟩ := h
  rw [Value.orElse, if_pos htruthy, ofValue]
  cases v with
  | mapping m => exact absurd rfl (hmapping m)
  | _ => rfl

/-- What is not stray is a mapping, or counts as an empty one. -/
theorem exists_mapping_of_not_isStray (h : ¬ v.IsStray) :
    ∃ m, v.orElse (.mapping []) = .mapping m ∧ (IsGivenBy v ↔ HasProperties m) := by
  by_cases htruthy : v.isTruthy = true
  · obtain ⟨m, rfl⟩ : ∃ m, v = .mapping m := by
      by_contra hno
      exact h ⟨htruthy, not_exists.1 hno⟩
    refine ⟨m, if_pos htruthy, ?_⟩
    simp [IsGivenBy, htruthy]
  · refine ⟨[], if_neg htruthy, iff_of_true (Or.inl (Bool.eq_false_iff.2 htruthy)) (Or.inl rfl)⟩

theorem not_isGivenBy_of_isStray (h : v.IsStray) : ¬ IsGivenBy v := by
  obtain ⟨htruthy, hmapping⟩ := h
  rintro (hfalse | ⟨m, rfl, -⟩)
  · rw [htruthy] at hfalse
    cases hfalse
  · exact hmapping m rfl

end Address

/-! ## Records -/

namespace Resource

variable {v : Value} {m : Mapping}

/-- A mapping is a record: it has the fields of one, and gives an address. -/
structure IsRecord (m : Mapping) : Prop where
  fields : HasFields required optional m
  address : Address.IsGivenBy (Value.field "data_address" m)

/-- A value makes a mapping with a stray address. -/
def HasStray (v a : Value) : Prop :=
  ∃ m, v.MakesMapping m ∧ a = Value.field "data_address" m ∧ a.IsStray

theorem ofValue_of_hasStray {a : Value} (h : HasStray v a) :
    ofValue v = .error (.mismatch (.noMember a.fullKindName "get")) := by
  obtain ⟨m, hm, rfl, hstray⟩ := h
  rw [ofValue, Value.toMapping_eq_ok_iff.2 hm]
  dsimp only
  rw [Address.ofValue_of_isStray hstray]

theorem exists_ofValue_of_makesMapping (hm : v.MakesMapping m) :
    (∃ r, ofValue v = .ok r) ↔ IsRecord m := by
  by_cases hstray : (Value.field "data_address" m).IsStray
  · have herror := ofValue_of_hasStray ⟨m, hm, rfl, hstray⟩
    rw [herror]
    exact iff_of_false (by simp) fun h => Address.not_isGivenBy_of_isStray hstray h.address
  obtain ⟨m', hm', hgiven⟩ := Address.exists_mapping_of_not_isStray hstray
  have haddress : (∃ a, Address.ofValue (.mapping m') = .ok a) ↔
      Address.IsGivenBy (Value.field "data_address" m) :=
    Address.exists_ofValue_mapping_iff.trans hgiven.symm
  rw [ofValue, Value.toMapping_eq_ok_iff.2 hm]
  dsimp only
  rw [hm']
  rcases hread : Address.ofValue (.mapping m') with f | a <;> rw [hread] at haddress <;> dsimp only
  · exact iff_of_false (by simp) fun h => by simpa using haddress.2 h.address
  · have hgives : Address.IsGivenBy (Value.field "data_address" m) := haddress.1 ⟨a, rfl⟩
    rcases hcheck : checkFields "ProvisionedResource" required optional m with f | u <;> dsimp only
    · refine iff_of_false (by simp) fun h => ?_
      rw [checkFields_eq_ok_iff.2 h.fields] at hcheck
      cases hcheck
    · exact iff_of_true ⟨_, rfl⟩ ⟨checkFields_eq_ok_iff.1 hcheck, hgives⟩

/-- A record is read from a value exactly if this makes a mapping that is one. -/
theorem exists_ofValue_iff : (∃ r, ofValue v = .ok r) ↔ ∃ m, v.MakesMapping m ∧ IsRecord m := by
  rcases hread : v.toMapping with f | m
  · refine iff_of_false (by simp [ofValue, hread]) ?_
    rintro ⟨m, hm, -⟩
    rw [Value.toMapping_eq_ok_iff.2 hm] at hread
    cases hread
  · have hm : v.MakesMapping m := Value.toMapping_eq_ok_iff.1 hread
    rw [exists_ofValue_of_makesMapping hm]
    refine ⟨fun h => ⟨m, hm, h⟩, ?_⟩
    rintro ⟨m', hm', h⟩
    rw [Value.toMapping_eq_ok_iff.2 hm'] at hread
    cases hread
    exact h

theorem blamesValue_ofValue (h : ∀ a, ¬ HasStray v a) : BlamesValue (ofValue v) := by
  intro f hf
  rw [ofValue] at hf
  rcases hread : v.toMapping with f' | m <;> rw [hread] at hf <;> dsimp only at hf
  · cases hf
    exact Value.blamesValue_toMapping _ _ hread
  have hstray : ¬ (Value.field "data_address" m).IsStray := fun hstray =>
    h _ ⟨m, Value.toMapping_eq_ok_iff.1 hread, rfl, hstray⟩
  obtain ⟨m', hm', -⟩ := Address.exists_mapping_of_not_isStray hstray
  rw [hm'] at hf
  rcases haddress : Address.ofValue (.mapping m') with f' | a <;> rw [haddress] at hf <;>
    dsimp only at hf
  · cases hf
    exact Address.blamesValue_ofValue_mapping _ _ haddress
  · rcases hcheck : checkFields "ProvisionedResource" required optional m with f' | u <;>
      rw [hcheck] at hf <;> cases hf
    exact blamesValue_checkFields _ _ _ _ _ hcheck

end Resource

/-! ## Files -/

/-- The bytes of a file are those of the JSON text of a value. -/
def Json.Bears (bytes : List UInt8) (v : Value) : Prop :=
  ∃ cs, Utf8.decode bytes = .ok cs ∧ WritesText (unifyLineEnds cs) v

theorem Json.Bears.unique {bytes : List UInt8} {v w : Value} (hv : Bears bytes v)
    (hw : Bears bytes w) : v = w := by
  obtain ⟨cs, hcs, hv⟩ := hv
  obtain ⟨ds, hds, hw⟩ := hw
  rw [hcs] at hds
  cases hds
  rw [← decode_eq_ok_iff] at hv hw
  exact Except.ok.inj (hv.symm.trans hw)

namespace CommandLine

open Shell

variable {t : Terminal} {bytes : List UInt8}

/-- The record that the bytes of a file give. -/
def recordIn (bytes : List UInt8) : Except Failure Resource :=
  match Utf8.decode bytes with
  | .error e => .error (.value (.undecodable e))
  | .ok cs => resourceOf (String.ofList (unifyLineEnds cs))

/-- The bytes of a file give a record. -/
def GivesRecord (bytes : List UInt8) : Prop :=
  ∃ v m, Json.Bears bytes v ∧ v.MakesMapping m ∧ Resource.IsRecord m

/-- The bytes of a file are those of a JSON text with a stray address. -/
def BearsStray (bytes : List UInt8) (a : Value) : Prop :=
  ∃ v, Json.Bears bytes v ∧ Resource.HasStray v a

theorem recordIn_of_bears {v : Value} (h : Json.Bears bytes v) :
    recordIn bytes = Resource.ofValue v := by
  obtain ⟨cs, hcs, hwrites⟩ := h
  rw [recordIn, hcs]
  dsimp only
  rw [resourceOf, String.toList_ofList, Json.decode_eq_ok_iff.2 hwrites]

/-- What is no JSON text is refused for its form. -/
theorem recordIn_of_not_bears (h : ∀ v, ¬ Json.Bears bytes v) :
    ∃ f, recordIn bytes = .error f ∧ f.isBadValue := by
  rw [recordIn]
  rcases hcs : Utf8.decode bytes with e | cs
  · exact ⟨_, rfl, rfl⟩
  · dsimp only
    rw [resourceOf, String.toList_ofList]
    rcases hjson : Json.decode (unifyLineEnds cs) with e | v
    · exact ⟨_, rfl, rfl⟩
    · exact absurd ⟨cs, hcs, Json.decode_eq_ok_iff.1 hjson⟩ (h v)

/-- **What gives a record.** -/
theorem exists_recordIn_iff : (∃ r, recordIn bytes = .ok r) ↔ GivesRecord bytes := by
  by_cases h : ∃ v, Json.Bears bytes v
  · obtain ⟨v, hv⟩ := h
    rw [recordIn_of_bears hv, Resource.exists_ofValue_iff]
    refine ⟨fun ⟨m, hm, hr⟩ => ⟨v, m, hv, hm, hr⟩, fun ⟨w, m, hw, hm, hr⟩ => ?_⟩
    obtain rfl := hv.unique hw
    exact ⟨m, hm, hr⟩
  · obtain ⟨f, hf, -⟩ := recordIn_of_not_bears (not_exists.1 h)
    rw [hf]
    refine iff_of_false (by simp) ?_
    rintro ⟨v, m, hv, -⟩
    exact h ⟨v, hv⟩

theorem recordIn_of_bearsStray {a : Value} (h : BearsStray bytes a) :
    recordIn bytes = .error (.mismatch (.noMember a.fullKindName "get")) := by
  obtain ⟨v, hv, hstray⟩ := h
  rw [recordIn_of_bears hv, Resource.ofValue_of_hasStray hstray]

/-- **Why a file gives no record.** A value has the wrong form or kind, unless an address is
stray. -/
theorem blamesValue_recordIn (h : ∀ a, ¬ BearsStray bytes a) : BlamesValue (recordIn bytes) := by
  intro f hf
  by_cases hbears : ∃ v, Json.Bears bytes v
  · obtain ⟨v, hv⟩ := hbears
    rw [recordIn_of_bears hv] at hf
    exact Resource.blamesValue_ofValue (fun a ha => h a ⟨v, hv, ha⟩) f hf
  · obtain ⟨f', hf', hbad⟩ := recordIn_of_not_bears (not_exists.1 hbears)
    rw [hf] at hf'
    cases hf'
    exact hbad

/-! ## The command -/

variable {path : String}

theorem readResource_of_look (hlook : t.host.files.look path = .ok (some (.file bytes))) :
    readResource path t = match recordIn bytes with
      | .ok r => (.ok r, t)
      | .error f =>
        if f.isBadValue then
          (.error (.exit 2), { t with errors := t.errors ++
            s!"Error: Resource file is not a provisioned resource: {f.message}" ++ "\n" })
        else (.error (.failure f), t) := by
  have hread := Host.readText_of_look (h := silent t.host) hlook
  have hresource : onHost (do
      let text ← Host.readText path
      .ofExcept (resourceOf text) : Action Host Failure Resource) t =
        ((recordIn bytes).mapError .failure, t) := by
    refine onHost_of_silent ?_
    rw [recordIn, bind_apply, hread]
    rcases Utf8.decode bytes with e | cs <;> rfl
  rw [readResource, resume_apply, hresource]
  rcases recordIn bytes with f | r
  · dsimp only [Except.mapError]
    by_cases hbad : f.isBadValue = true
    · rw [if_pos hbad, if_pos hbad]
      rfl
    · rw [if_neg hbad, if_neg hbad]
      rfl
  · rfl

section Run

variable {args : List String} {verbosity : Nat} {file : String} {h : Host}

/-- The report of a command with a file that is not that of a resource. -/
def notAResource (f : Failure) : Report where
  status := 2
  errors := "Error: Resource file is not a provisioned resource: " ++ f.message ++ "\n"

/-- The report of a command with a file whose address is stray. -/
def strayAddress (a : Value) : Report where
  status := 1
  errors := "Error: " ++ (Mismatch.noMember a.fullKindName "get").message ++ "\n"

/-- What a command comes to that ends at its file. -/
theorem run_of_unread (id : String)
    (hargs : Invocation.ofArguments args = .ok ⟨verbosity, .deprovision (some file)⟩)
    (hlook : h.files.look (Path.normalise file) = .ok (some (.file bytes))) {e : Ending}
    {errors : String} (hread : readResource (Path.normalise file) (started h) =
      (.error e, { started h with errors })) :
    run id args h = (conclude (.error e) { started h with errors }, h) := by
  have hperform : perform id ⟨verbosity, .deprovision (some file)⟩ (started h) =
      (.error e, { started h with errors }) :=
    (deprovisionCommand_of_look (t := started h) hlook verbosity).trans (bind_of_error hread)
  rw [run_eq hargs, hperform]
  rfl

/-- **Files without a record are refused.** Where the file gives no record, the command ends with
status 2 and the reason, unless the address in it is stray; then the file gives no record either,
but the command ends with status 1. In both cases it prints nothing and the host is as it was. -/
theorem files_without_record_are_refused (id : String)
    (hargs : Invocation.ofArguments args = .ok ⟨verbosity, .deprovision (some file)⟩)
    (hlook : h.files.look (Path.normalise file) = .ok (some (.file bytes))) :
    (¬ GivesRecord bytes → (∀ a, ¬ BearsStray bytes a) →
      ∃ f, recordIn bytes = .error f ∧ run id args h = (notAResource f, h)) ∧
    ∀ a, BearsStray bytes a → ¬ GivesRecord bytes ∧ run id args h = (strayAddress a, h) := by
  have hread := readResource_of_look (t := started h) hlook
  constructor
  · intro hno hstray
    rcases hrecord : recordIn bytes with f | r
    · have hbad : f.isBadValue = true := blamesValue_recordIn hstray f hrecord
      rw [hrecord] at hread
      dsimp only at hread
      rw [if_pos hbad] at hread
      refine ⟨f, rfl, ?_⟩
      rw [run_of_unread id hargs hlook hread, conclude, notAResource]
      simp only [started, String.empty_append]
      rfl
    · exact absurd (exists_recordIn_iff.1 ⟨r, hrecord⟩) hno
  · intro a hstray
    have hrecord := recordIn_of_bearsStray hstray
    rw [hrecord] at hread
    refine ⟨fun hgives => ?_, ?_⟩
    · obtain ⟨r, hr⟩ := exists_recordIn_iff.2 hgives
      rw [hrecord] at hr
      cases hr
    · rw [run_of_unread id hargs hlook hread, conclude, strayAddress]
      simp only [started, String.empty_append]
      rfl

/-- A host with a file `r.json` in the working directory. -/
def hostWithResource (bytes : List UInt8) : Host where
  session := { vault := { kind := .environment } }
  home := "/root"
  files := {
    nodes := [(["root"], .directory), (["root", "r.json"], .file bytes)]
    directory := ["root"] }

/-- One file lacks fields of a record, and one has a list as its address. -/
theorem files_without_record_are_refused_twice :
    let args := ["deprovision", "--resource-file", "r.json"]
    let bytes := Utf8.encode "\x7b\"id\": \"r1\"\x7d".toList
    let stray := Utf8.encode "\x7b\"data_address\": [1]\x7d".toList
    (¬ GivesRecord bytes ∧ (∀ a, ¬ BearsStray bytes a) ∧ ∃ f, recordIn bytes = .error f ∧
      run "d" args (hostWithResource bytes) = (notAResource f, hostWithResource bytes)) ∧
    BearsStray stray (.list [.int 1]) ∧ run "d" args (hostWithResource stray) =
      (strayAddress (.list [.int 1]), hostWithResource stray) := by
  intro args bytes stray
  have hargs : Invocation.ofArguments args = .ok ⟨0, .deprovision (some "r.json")⟩ := by
    decide +kernel
  have hlook : (hostWithResource bytes).files.look (Path.normalise "r.json") =
      .ok (some (.file bytes)) := by decide +kernel
  have hlook' : (hostWithResource stray).files.look (Path.normalise "r.json") =
      .ok (some (.file stray)) := by decide +kernel
  have hrecord : recordIn bytes = .error (.mismatch (.missingFields "ProvisionedResource"
      Resource.required.tail)) := by decide +kernel
  have hno : ¬ GivesRecord bytes := by
    rw [← exists_recordIn_iff, hrecord]
    exact nofun
  have hplain : ∀ a, ¬ BearsStray bytes a := by
    intro a ha
    rw [recordIn_of_bearsStray ha] at hrecord
    cases hrecord
  have hjson : Json.decode (unifyLineEnds "\x7b\"data_address\": [1]\x7d".toList) =
      .ok (.record [("data_address", .list [.int 1])]) := by decide +kernel
  have hstray : BearsStray stray (.list [.int 1]) :=
    ⟨_, ⟨_, Utf8.decode_encode _, Json.decode_eq_ok_iff.1 hjson⟩, _, .mapping _, rfl, rfl, nofun⟩
  exact ⟨⟨hno, hplain, (files_without_record_are_refused "d" hargs hlook).1 hno hplain⟩,
    hstray, ((files_without_record_are_refused "d" hargs hlook').2 _ hstray).2⟩

/-- A list as the address ends the command with status 1, and nothing says that the file is not that
of a resource. -/
theorem list_address_is_no_misuse :
    let bytes := Utf8.encode "\x7b\"data_address\": [1]\x7d".toList
    ¬ GivesRecord bytes ∧
      (run "d" ["deprovision", "--resource-file", "r.json"] (hostWithResource bytes)).1 =
        { status := 1, errors := "Error: 'list' object has no attribute 'get'\n" } := by
  intro bytes
  refine ⟨?_, by decide +kernel⟩
  have hrecord : recordIn bytes = .error (.mismatch (.noMember "list" "get")) := by decide +kernel
  rw [← exists_recordIn_iff, hrecord]
  exact nofun

end Run

end CommandLine

end TransferBucket
