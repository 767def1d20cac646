import TransferBucket.Proofs.Inline
import TransferBucket.Proofs.Persistence

/-!
# Credentials for a record that was stored

**Theorem (`stored_record_resolves_from_vault`).** Read a record from its text, in any layout, and
search for credentials in the default order. In every session the search runs as one for the
address as it was before, but among the sources in the vault alone: with the same calls and the
same messages, and to the same end. So the first source in the vault decides, even if key
material stood before it, and an address that had key material alone gets the default credentials.

**Slots.** Storing an address empties the slots of key material and leaves all others
(`Slot.value_withoutInlineSecrets`). A source that is not in the vault has slots of key material
only, so it is given nothing afterwards, and a source in the vault is given what it was
(`given?_withoutInlineSecrets`). The search passes over sources that are given nothing; for every
order, searching it afterwards is searching its sources in the vault before
(`credentials_withoutInlineSecrets`).
-/

namespace TransferBucket

open Session

/-! ## Sources in the vault -/

namespace Source

/-- Whether an address gives a key of the vault for a source, and not key material. -/
def isKept : Source → Bool
  | .vaultToken | .vaultKeyFile => true
  | .inlineToken | .inlineKeyFile => false

/-- The order in which the sources in the vault are tried. -/
def vaultOrder : List Source := [.vaultToken, .vaultKeyFile]

theorem filter_isKept_defaultOrder : defaultOrder.filter isKept = vaultOrder := rfl

theorem mem_vaultOrder {source : Source} : source ∈ vaultOrder ↔ source.isKept = true := by
  cases source <;> decide

end Source

namespace Address

variable {a : Address}

theorem property_withoutInlineSecrets {name : String} (h : name ∉ Property.inlineSecrets)
    (a : Address) : a.withoutInlineSecrets.property name = a.property name := by
  have hsame : Value.field? name a.withoutInlineSecrets.properties =
      Value.field? name a.properties := field?_filter_isInlineSecret h _
  rw [property, property, Value.field, Value.field, hsame]

theorem property_withoutInlineSecrets_of_mem {name : String} (h : name ∈ Property.inlineSecrets)
    (a : Address) : a.withoutInlineSecrets.property name = .null := by
  have hnone := withoutInlineSecrets_eq_self_iff.1 a.withoutInlineSecrets_idem name h
  simp [property, Value.field, hnone]

end Address

theorem Slot.value_withoutInlineSecrets (p : Slot) (a : Address) :
    p.value a.withoutInlineSecrets = if p.source.isKept then p.value a else .null := by
  cases p with
  | key => rfl
  | tokenKey => exact Address.property_withoutInlineSecrets (by decide) a
  | tokenValue => exact Address.property_withoutInlineSecrets_of_mem (by decide) a
  | keyFileKey => exact Address.property_withoutInlineSecrets (by decide) a
  | keyFileValue => exact Address.property_withoutInlineSecrets_of_mem (by decide) a

theorem Source.given?_withoutInlineSecrets (source : Source) (a : Address) :
    source.given? a.withoutInlineSecrets = if source.isKept then source.given? a else none := by
  by_cases hkept : source.isKept
  · rw [if_pos hkept]
    apply given?_congr
    intro p hp
    rw [Slot.value_withoutInlineSecrets, hp, if_pos hkept]
  -- what a source is given stands in one of its slots
  · rw [if_neg hkept, ← Option.not_isSome_iff_eq_none, isSome_given?_iff]
    rintro ⟨p, rfl, hp⟩
    rw [Slot.value_withoutInlineSecrets, if_neg hkept] at hp
    simp [Value.isTruthy] at hp

/-- **Searching without key material** is searching the sources in the vault. -/
theorem Address.credentials_withoutInlineSecrets (order : List Source) (a : Address) :
    a.withoutInlineSecrets.credentials order = a.credentials (order.filter Source.isKept) := by
  induction order with
  | nil => rfl
  | cons source rest ih =>
    rw [credentials, Source.given?_withoutInlineSecrets, ih]
    by_cases hkept : source.isKept
    · rw [if_pos hkept, List.filter_cons_of_pos hkept, credentials]
    · rw [if_neg hkept, List.filter_cons_of_neg hkept]

/-! ## Records that were stored -/

namespace Resource

variable {r q : Resource}

/-- How the search for credentials runs in a session for a record `q` that was read from the text
of the record `r`. -/
structure ResolvesFromVault (r q : Resource) (s : Session) : Prop where
  /-- It runs as the search for `r` among the sources in the vault, to the same end and with the
  same calls and messages. -/
  run : q.address.credentials Source.defaultOrder s = r.address.credentials Source.vaultOrder s
  /-- If the sources present in `r` were all inlined, default credentials are taken. -/
  inlined : (∀ source : Source, source.IsPresent r.address → source.isKept = false) →
    q.address.credentials Source.defaultOrder s = Credentials.ofSurroundings s ∧
      (s.fault? .findDefault = none →
        (q.address.credentials Source.defaultOrder s).1 = .ok (.surrounding platformScopes))
  /-- The first source in the vault that is present in `r` decides, whatever is inlined. -/
  first : ∀ before source after, Source.vaultOrder = before ++ source :: after →
    (∀ earlier ∈ before, ¬earlier.IsPresent r.address) → source.IsPresent r.address →
      ∃ given, source.given? r.address = some given ∧
        q.address.credentials Source.defaultOrder s = source.credentials given s

theorem resolvesFromVault_stored (h : r.address.IsTextual) (s : Session) :
    r.ResolvesFromVault r.stored s := by
  have hrun : r.stored.address.credentials Source.defaultOrder =
      r.address.credentials Source.vaultOrder := by
    rw [← Source.filter_isKept_defaultOrder]
    exact Address.credentials_withoutInlineSecrets Source.defaultOrder r.address
  refine ⟨congrFun hrun s, ?_, ?_⟩
  · intro hinline
    have hnone : ∀ source ∈ Source.vaultOrder, source.given? r.address = none := by
      intro source hsource
      apply Source.given?_of_not_isPresent h
      intro hpresent
      rw [Source.mem_vaultOrder, hinline source hpresent] at hsource
      cases hsource
    rw [hrun, Address.credentials_of_none hnone]
    refine ⟨rfl, ?_⟩
    intro hfree
    rw [Credentials.ofSurroundings_fst, hfree]
  · intro before source after horder hbefore hsource
    obtain ⟨given, hgiven⟩ := Source.given?_of_isPresent h hsource
    have hearlier : ∀ earlier ∈ before, earlier.given? r.address = none := by
      intro earlier hm
      exact Source.given?_of_not_isPresent h (hbefore earlier hm)
    refine ⟨given, hgiven, ?_⟩
    rw [hrun, horder, Address.credentials_of_first hearlier hgiven]

/-- **A record that was stored resolves from the vault.** -/
theorem stored_record_resolves_from_vault (r : Resource) (hr : r.IsStorable)
    (ha : r.address.IsTextual) (layout : Json.Layout) :
    ∃ text value q, Json.encode layout r.toValue = .ok text ∧ Json.decode text = .ok value ∧
      ofValue value = .ok q ∧ ∀ s, r.ResolvesFromVault q s :=
  ⟨_, _, r.stored, Json.encode_of_isJson hr.toValue layout, Json.decode_render hr.toValue layout,
    ofValue_toValue r, resolvesFromVault_stored ha⟩

/-- A token that is inlined before a key file in the vault: the token is used before the record is
stored, and the key file afterwards. -/
theorem stored_record_resolves_from_vault_switched :
    let s : Session := {
      cloud := { secrets := [("projects/p1/secrets/f/versions/latest", Utf8.encode "{}".toList)] }
      vault := { kind := .secrets (.text "p1") true } }
    let token : String := "\x7b\"token\": \"t\", \"expiration\": 0\x7d"
    let r : Resource := {
      id := .text "r1", definitionId := .text "d1", transferProcess := .text "t1"
      location := .text "EU", project := .text "p1", bucketName := .text "b1"
      accountEmail := .text "a@p1", accountName := .text "n", resourceName := .text "b1-t1"
      address := { properties := [
        (.text Property.tokenValue, .text (inlined token)),
        (.text Property.keyFileKey, .text "f")] } }
    r.IsStorable ∧ r.address.IsTextual ∧
      (∃ text value q, Json.encode .line r.toValue = .ok text ∧ Json.decode text = .ok value ∧
        ofValue value = .ok q ∧ ∀ s, r.ResolvesFromVault q s) ∧
      (r.address.credentials Source.defaultOrder s).1 = .ok (.token "t" ⟨0⟩) ∧
      (r.stored.address.credentials Source.defaultOrder s).1 =
        .ok (.keyFile (.mapping []) platformScopes) := by
  intro s token r
  have hstorable : r.IsStorable := by
    refine ⟨?_, .text _, .null, ?_⟩
    · simp only [plainFields, r, List.forall_mem_cons, List.not_mem_nil, false_implies,
        implies_true, and_true]
      exact ⟨.text _, .text _, .text _, .text _, .text _, .text _, .text _, .text _, .text _, .null,
        .bool _⟩
    · refine @Value.IsJson.record
        [(Property.tokenValue, .text (inlined token)), (Property.keyFileKey, .text "f")]
        (by decide) ?_
      simp only [List.forall_mem_cons, List.not_mem_nil, false_implies, implies_true, and_true]
      exact ⟨.text _, .text _⟩
  have htextual : r.address.IsTextual := by
    refine ⟨Or.inl rfl, ?_⟩
    simp only [r, List.forall_mem_cons, List.not_mem_nil, false_implies, implies_true, and_true]
    exact ⟨⟨_, rfl⟩, ⟨_, rfl⟩⟩
  exact ⟨hstorable, htextual, stored_record_resolves_from_vault r hstorable htextual .line,
    by decide +kernel +zetaReduce, by decide +kernel +zetaReduce⟩

end Resource

end TransferBucket
