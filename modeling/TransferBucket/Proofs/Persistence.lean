import TransferBucket.Proofs.JsonRoundTrip
import TransferBucket.Record

/-!
# Records that are stored and read again

**Theorem (`reread_without_secrets`).** A record is stored as a JSON text and read from it again
without its key material (`Resource.stored`) and otherwise as it was. So it comes back unchanged
exactly where it holds no key material, and what came back once comes back again. Records that
differ in key material alone are stored alike.

**Storable records** (`Resource.IsStorable`). Every field of the record is a value that JSON can
tell, such as a text, and no two properties of its address have the same name.

**Key material.** What is left out are the properties with the names of inline secrets; every other
property is found as before (`field?_withoutInlineSecrets`).
-/

namespace TransferBucket

/-! ## Fields and properties -/

namespace Value

/-- Fields with names, no two the same, are found under their names. -/
theorem field?_of_mem {fields : List (String × Value)} (h : (fields.map (·.1)).Nodup)
    {f : String × Value} (hf : f ∈ fields) :
    field? f.1 (fields.map fun f => (.text f.1, f.2)) = some f.2 := by
  induction fields with
  | nil => cases hf
  | cons g fields ih =>
    rw [List.map_cons, List.nodup_cons] at h
    rw [List.map_cons, field?, lookup?_cons, sameKey_text]
    rcases List.mem_cons.1 hf with rfl | hf
    · rw [if_pos (beq_self_eq_true _)]
    · have hne : g.1 ≠ f.1 := fun heq => h.1 (heq ▸ List.mem_map_of_mem hf)
      rw [beq_false_of_ne hne, if_neg Bool.false_ne_true]
      exact ih h.2 hf

/-- A field that is found is there. -/
theorem mem_of_field? {fields : List (String × Value)} {name : String} {v : Value}
    (h : field? name (fields.map fun f => (.text f.1, f.2)) = some v) : (name, v) ∈ fields := by
  obtain ⟨k, hmem, hk⟩ := mem_of_lookup? h
  obtain ⟨f, hf, hkv⟩ := List.mem_map.1 hmem
  cases hkv
  exact beq_iff_eq.1 hk ▸ hf

theorem equalEntries_iff {as bs : Mapping} :
    equalEntries as bs ↔ ∀ e ∈ as, ∃ b, lookup? e.1 bs = some b ∧ equals e.2 b := by
  induction as with
  | nil => exact iff_of_true rfl nofun
  | cons e rest ih =>
    obtain ⟨k, a⟩ := e
    rw [equalEntries, Bool.and_eq_true, List.forall_mem_cons, ih]
    rcases lookup? k bs with _ | b <;> simp

/-- Mappings mean the same if they have as many fields and those of the first are found in the
second. -/
theorem equals_record_iff {fields others : List (String × Value)} :
    equals (.record fields) (.record others) ↔ fields.length = others.length ∧
      ∀ f ∈ fields, ∃ b, field? f.1 (others.map fun f => (.text f.1, f.2)) = some b ∧
        equals f.2 b := by
  rw [record, record, equals, Bool.and_eq_true, equalEntries_iff, List.forall_mem_map]
  simp [field?]

theorem equalItems_append {as bs : List Value} (h : as.length = bs.length) (cs ds : List Value) :
    equalItems (as ++ cs) (bs ++ ds) = (equalItems as bs && equalItems cs ds) := by
  induction as generalizing bs with
  | nil =>
    rw [List.eq_nil_of_length_eq_zero h.symm]
    rfl
  | cons a as ih =>
    cases bs with
    | nil => cases h
    | cons b bs =>
      rw [List.cons_append, List.cons_append, equalItems, equalItems, ih (Nat.succ.inj h),
        Bool.and_assoc]

/-- A value that JSON can tell means the same as itself. -/
theorem equals_refl {v : Value} (h : v.IsJson) : equals v v := by
  induction h with
  | null => rfl
  | bool b => cases b <;> rfl
  | @int n h => simp [equals, sameKey, wholeNumber?]
  | text s => simp [equals]
  | @list vs h ih =>
    rw [equals]
    clear h
    induction vs with
    | nil => rfl
    | cons v vs ihvs =>
      rw [List.forall_mem_cons] at ih
      rw [equalItems, Bool.and_eq_true]
      exact ⟨ih.1, ihvs ih.2⟩
  | record hnames h ih =>
    exact equals_record_iff.2 ⟨rfl, fun f hf => ⟨f.2, field?_of_mem hnames hf, ih f hf⟩⟩

theorem IsJson.exists_fields {m : Mapping} (h : (mapping m).IsJson) :
    ∃ fields : List (String × Value), m = fields.map (fun f => (.text f.1, f.2)) ∧
      (fields.map (·.1)).Nodup ∧ ∀ f ∈ fields, f.2.IsJson := by
  generalize hm : mapping m = v at h
  cases h with
  | record hnames h =>
    cases hm
    exact ⟨_, rfl, hnames, h⟩
  | _ => cases hm

/-- Parts of what JSON can tell can be told too. -/
theorem IsJson.filter {m : Mapping} (h : (mapping m).IsJson) (p : Value × Value → Bool) :
    (mapping (m.filter p)).IsJson := by
  obtain ⟨fields, rfl, hnames, hvalues⟩ := h.exists_fields
  rw [List.filter_map]
  exact .record (hnames.sublist (List.filter_sublist.map _)) fun f hf =>
    hvalues f (List.mem_of_mem_filter hf)

/-- Mappings in which the same is found under every name mean the same. -/
theorem equals_of_field? {m n : Mapping} (hm : (mapping m).IsJson) (hn : (mapping n).IsJson)
    (h : ∀ name, field? name m = field? name n) : equals (mapping m) (mapping n) := by
  obtain ⟨fields, rfl, hnames, hvalues⟩ := hm.exists_fields
  obtain ⟨others, rfl, hnames', -⟩ := hn.exists_fields
  have hmem : ∀ fields : List (String × Value), (fields.map (·.1)).Nodup → ∀ name,
      name ∈ fields.map (·.1) ↔
        (field? name (fields.map fun f => (.text f.1, f.2))).isSome := by
    intro fields hnames name
    rw [List.mem_map]
    constructor
    · rintro ⟨f, hf, rfl⟩
      rw [field?_of_mem hnames hf]
      rfl
    · intro hsome
      obtain ⟨v, hv⟩ := Option.isSome_iff_exists.1 hsome
      exact ⟨_, mem_of_field? hv, rfl⟩
  have hperm : (fields.map (·.1)).Perm (others.map (·.1)) :=
    (List.perm_ext_iff_of_nodup hnames hnames').2 fun name => by
      rw [hmem fields hnames, hmem others hnames', h]
  exact equals_record_iff.2 ⟨by simpa using hperm.length_eq, fun f hf =>
    ⟨f.2, by rw [← h, field?_of_mem hnames hf], equals_refl (hvalues f hf)⟩⟩

end Value

/-! ## Key material -/

namespace Property

theorem isInlineSecret_text (name : String) :
    isInlineSecret (.text name) = decide (name ∈ inlineSecrets) := by
  rw [Bool.eq_iff_iff, isInlineSecret, List.any_eq_true, decide_eq_true_eq]
  simp

end Property

namespace Address

/-- Every property that holds no key material is found as before. -/
theorem field?_filter_isInlineSecret {name : String} (h : name ∉ Property.inlineSecrets)
    (m : Mapping) :
    Value.field? name (m.filter fun e => !Property.isInlineSecret e.1) = Value.field? name m := by
  have hname : Property.isInlineSecret (.text name) = false := by
    rw [Property.isInlineSecret_text, decide_eq_false h]
  induction m with
  | nil => rfl
  | cons e rest ih =>
    obtain ⟨k, v⟩ := e
    rw [Value.field?] at ih
    rw [List.filter_cons, Value.field?, Value.field?, Value.lookup?_cons]
    by_cases hk : Value.sameKey k (.text name)
    · rw [Value.eq_text_of_sameKey hk, hname, if_pos (by rfl), Value.lookup?_cons]
      simp
    · rw [if_neg hk]
      split
      · rw [Value.lookup?_cons, if_neg hk, ih]
        rfl
      · rw [ih]
        rfl

theorem withoutInlineSecrets_eq_self_iff {a : Address} : a.withoutInlineSecrets = a ↔
    ∀ name ∈ Property.inlineSecrets, Value.field? name a.properties = none := by
  have hprops : a.withoutInlineSecrets = a ↔
      (a.properties.filter fun e => !Property.isInlineSecret e.1) = a.properties :=
    ⟨congrArg Address.properties, fun h => by rw [withoutInlineSecrets, h]⟩
  rw [hprops, List.filter_eq_self]
  simp only [Value.field?, Value.lookup?_eq_none_iff, Property.isInlineSecret, Bool.not_eq_true',
    List.any_eq_false, Bool.not_eq_true]
  exact ⟨fun h name hname e he => h e he name hname, fun h e he name hname => h name hname e he⟩

theorem withoutInlineSecrets_idem (a : Address) :
    a.withoutInlineSecrets.withoutInlineSecrets = a.withoutInlineSecrets := by
  simp [withoutInlineSecrets, List.filter_filter]

/-- An address is read as it was stored. -/
theorem ofValue_toValue (a : Address) : ofValue a.toValue = .ok a := by
  obtain ⟨type, keyName, properties⟩ := a
  cases properties <;> rfl

end Address

/-! ## Records -/

namespace Resource

/-- What comes back of a record that is stored: the record without key material. -/
def stored (r : Resource) : Resource := { r with address := r.address.withoutInlineSecrets }

/-- The record that is read from the text of a record, laid out in lines. -/
def reread (r : Resource) : Option Resource := do
  let text ← (Json.encode (.indented 2) r.toValue).toOption
  let value ← (Json.decode text).toOption
  (ofValue value).toOption

/-- The fields of a record beside its address, with their names. -/
def plainFields (r : Resource) : List (String × Value) := [
  ("id", r.id),
  ("resource_definition_id", r.definitionId),
  ("transfer_process_id", r.transferProcess),
  ("location", r.location),
  ("project_id", r.project),
  ("bucket_name", r.bucketName),
  ("service_account_email", r.accountEmail),
  ("service_account_name", r.accountName),
  ("resource_name", r.resourceName),
  ("storage_class", r.storageClass),
  ("has_token", r.hasToken)]

theorem toValue_eq (r : Resource) : r.toValue = .record (r.plainFields ++
    [("data_address", r.address.withoutInlineSecrets.toValue)]) := rfl

theorem equals_eq (q r : Resource) : q.equals r = Value.equals
    (.list (q.plainFields.map (·.2) ++ [q.address.toValue]))
    (.list (r.plainFields.map (·.2) ++ [r.address.toValue])) := rfl

theorem nodup_names (r : Resource) (v : Value) :
    ((r.plainFields ++ [("data_address", v)]).map (·.1)).Nodup := by
  simp [plainFields]

/-- A record whose fields JSON can tell. -/
structure IsStorable (r : Resource) : Prop where
  fields : ∀ f ∈ r.plainFields, f.2.IsJson
  type : r.address.type.IsJson
  keyName : r.address.keyName.IsJson
  properties : (Value.mapping r.address.properties).IsJson

variable {r q : Resource}

theorem stored_toValue (r : Resource) : r.stored.toValue = r.toValue := by
  rw [toValue, toValue, stored, Address.withoutInlineSecrets_idem]

/-- A record is read from its document value without key material. -/
theorem ofValue_toValue (r : Resource) : ofValue r.toValue = .ok r.stored := by
  rw [stored]
  generalize hrest : r.address.withoutInlineSecrets = a
  have haddress : Address.ofValue (a.toValue.orElse (.mapping [])) = .ok a :=
    Address.ofValue_toValue a
  rw [toValue, hrest, ofValue, Value.record, Value.toMapping]
  dsimp only
  rw [show Value.field "data_address" _ = a.toValue from rfl, haddress]
  rfl

theorem IsStorable.stored (h : r.IsStorable) : r.stored.IsStorable :=
  { h with properties := h.properties.filter _ }

theorem IsStorable.address (h : r.IsStorable) : r.address.toValue.IsJson := by
  refine .record (by simp) ?_
  simp only [List.forall_mem_cons, List.not_mem_nil, false_implies, implies_true, and_true]
  exact ⟨h.type, h.keyName, h.properties⟩

theorem IsStorable.toValue (h : r.IsStorable) : r.toValue.IsJson := by
  rw [toValue_eq]
  refine .record (nodup_names r _) fun f hf => ?_
  rcases List.mem_append.1 hf with hf | hf
  · exact h.fields f hf
  · rw [List.mem_singleton.1 hf]
    exact h.stored.address

/-- **A record is read again without its key material.** -/
theorem reread_eq (h : r.IsStorable) : r.reread = some r.stored := by
  rw [reread, Json.encode_of_isJson h.toValue]
  dsimp only [Except.toOption, Option.bind_eq_bind, Option.bind_some]
  rw [Json.decode_render h.toValue]
  dsimp only [Option.bind_some]
  rw [ofValue_toValue]

theorem equals_refl (h : r.IsStorable) : r.equals r := by
  rw [equals_eq]
  refine Value.equals_refl (.list fun v hv => ?_)
  rcases List.mem_append.1 hv with hv | hv
  · obtain ⟨f, hf, rfl⟩ := List.mem_map.1 hv
    exact h.fields f hf
  · rw [List.mem_singleton.1 hv]
    exact h.address

/-- Records that mean the same have as many properties. -/
theorem length_properties_of_equals (h : q.equals r) :
    q.address.properties.length = r.address.properties.length := by
  have hlength : (q.plainFields.map (·.2)).length = (r.plainFields.map (·.2)).length := rfl
  rw [equals_eq, Value.equals, Value.equalItems_append hlength, Bool.and_eq_true] at h
  have haddress : Value.equals q.address.toValue r.address.toValue := by
    simpa [Value.equalItems] using h.2
  rw [Address.toValue, Address.toValue, Value.equals_record_iff] at haddress
  obtain ⟨b, hb, hequal⟩ := haddress.2 ("properties", .mapping q.address.properties) (by simp)
  cases (show some (Value.mapping r.address.properties) = some b from hb)
  rw [Value.equals, Bool.and_eq_true] at hequal
  exact beq_iff_eq.1 hequal.1

/-- Two records are alike beside the key material of their addresses. -/
structure AlikeBesideSecrets (q r : Resource) : Prop where
  fields : q = { r with address := { r.address with properties := q.address.properties } }
  properties : ∀ name ∉ Property.inlineSecrets,
    Value.field? name q.address.properties = Value.field? name r.address.properties

theorem AlikeBesideSecrets.equals (h : q.AlikeBesideSecrets r) (hq : q.IsStorable)
    (hr : r.IsStorable) : Value.equals q.toValue r.toValue := by
  have hproperties : Value.equals (.mapping q.stored.address.properties)
      (.mapping r.stored.address.properties) := by
    refine Value.equals_of_field? hq.stored.properties hr.stored.properties fun name => ?_
    by_cases hname : name ∈ Property.inlineSecrets
    · have hnone : ∀ a : Address, Value.field? name a.withoutInlineSecrets.properties = none :=
        fun a => Address.withoutInlineSecrets_eq_self_iff.1 a.withoutInlineSecrets_idem name hname
      exact (hnone _).trans (hnone _).symm
    · exact (Address.field?_filter_isInlineSecret hname _).trans ((h.properties name hname).trans
        (Address.field?_filter_isInlineSecret hname _).symm)
  obtain ⟨ps, rfl⟩ : ∃ ps, q = { r with address := { r.address with properties := ps } } :=
    ⟨_, h.fields⟩
  have haddress : Value.equals
      { r.address with properties := ps }.withoutInlineSecrets.toValue
      r.address.withoutInlineSecrets.toValue := by
    refine Value.equals_record_iff.2 ⟨rfl, ?_⟩
    simp only [List.forall_mem_cons, List.not_mem_nil, false_implies, implies_true, and_true]
    exact ⟨⟨_, rfl, Value.equals_refl hr.type⟩, ⟨_, rfl, Value.equals_refl hr.keyName⟩,
      ⟨_, rfl, hproperties⟩⟩
  rw [toValue_eq, toValue_eq, Value.equals_record_iff]
  refine ⟨rfl, fun f hf => ?_⟩
  rcases List.mem_append.1 hf with hf | hf
  · exact ⟨f.2, Value.field?_of_mem (nodup_names r _) (List.mem_append_left _ hf),
      Value.equals_refl (hr.fields f hf)⟩
  · rw [List.mem_singleton.1 hf]
    exact ⟨_, rfl, haddress⟩

/-- What storing a record and reading it again does. -/
structure Persists (r : Resource) : Prop where
  /-- The record comes back without its key material. -/
  reread : r.reread = some r.stored
  /-- That is the record itself exactly where it holds none. -/
  unchanged : r.stored = r ↔
    ∀ name ∈ Property.inlineSecrets, Value.field? name r.address.properties = none
  /-- It means the same as the record exactly where it holds none. -/
  equal : r.stored.equals r ↔
    ∀ name ∈ Property.inlineSecrets, Value.field? name r.address.properties = none
  /-- What came back once comes back again. -/
  again : r.stored.reread = some r.stored
  /-- Every other property and the key are kept. -/
  kept : r.stored.address.keyName = r.address.keyName ∧ ∀ name ∉ Property.inlineSecrets,
    Value.field? name r.stored.address.properties = Value.field? name r.address.properties
  /-- Records that differ in key material alone have document values that mean the same, and the
  same text if their other properties stand in the same order. -/
  alike : ∀ q : Resource, q.IsStorable → q.AlikeBesideSecrets r →
    Value.equals q.toValue r.toValue ∧
      (q.stored.address.properties = r.stored.address.properties →
        Json.encode (.indented 2) q.toValue = Json.encode (.indented 2) r.toValue)

/-- **Storing a record and reading it again takes its key material away and nothing else.** -/
theorem reread_without_secrets (r : Resource) (h : r.IsStorable) : r.Persists := by
  have hstored : r.stored = r ↔ r.address.withoutInlineSecrets = r.address :=
    ⟨congrArg Resource.address, fun h => by rw [stored, h]⟩
  refine ⟨reread_eq h, hstored.trans Address.withoutInlineSecrets_eq_self_iff, ?_, ?_, ⟨rfl, ?_⟩,
    fun q hq hqr => ⟨hqr.equals hq h, fun hsame => ?_⟩⟩
  · rw [← Address.withoutInlineSecrets_eq_self_iff]
    constructor
    · intro hequal
      have hlength := length_properties_of_equals hequal
      exact congrArg (fun ps => { r.address with properties := ps })
        (List.filter_sublist.eq_of_length hlength)
    · intro hself
      rw [hstored.2 hself]
      exact equals_refl h
  · rw [reread_eq h.stored]
    exact congrArg (fun a => some { r with address := a }) (Address.withoutInlineSecrets_idem _)
  · exact fun name hname => Address.field?_filter_isInlineSecret hname _
  · have hstoredEq : q.stored = r.stored := by
      obtain ⟨ps, rfl⟩ : ∃ ps, q = { r with address := { r.address with properties := ps } } :=
        ⟨_, hqr.fields⟩
      exact congrArg (fun ps => ({ r with address := { r.address with properties := ps } } :
        Resource)) hsame
    rw [← stored_toValue q, ← stored_toValue r, hstoredEq]

/-- A record with an inlined token, and with quotes, a control character and a character of two
halves in a property: it comes back without the token. -/
theorem reread_without_secrets_escapes :
    let r : Resource := {
      id := .text "r1", definitionId := .text "d1", transferProcess := .text "t1"
      location := .text "EU", project := .text "p1", bucketName := .text "b1"
      accountEmail := .text "a@p1", accountName := .text "n", resourceName := .text "b1-t1"
      address := { keyName := .text "k", properties := [
        (.text "no\"te", .text "a\\b\x01é🔑"), (.text Property.tokenValue, .text "e30=")] } }
    r.Persists ∧ r.reread = some { r with
      address := { r.address with properties := [(.text "no\"te", .text "a\\b\x01é🔑")] } } := by
  intro r
  have hstorable : r.IsStorable := by
    refine ⟨?_, .text _, .text _, ?_⟩
    · simp only [plainFields, r, List.forall_mem_cons, List.not_mem_nil, false_implies,
        implies_true, and_true]
      exact ⟨.text _, .text _, .text _, .text _, .text _, .text _, .text _, .text _, .text _, .null,
        .bool _⟩
    · refine @Value.IsJson.record
        [("no\"te", .text "a\\b\x01é🔑"), (Property.tokenValue, .text "e30=")] (by decide) ?_
      simp only [List.forall_mem_cons, List.not_mem_nil, false_implies, implies_true, and_true]
      exact ⟨.text _, .text _⟩
  exact ⟨reread_without_secrets r hstorable, by decide +kernel +zetaReduce⟩

end Resource

end TransferBucket
