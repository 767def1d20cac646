import TransferBucket.Proofs.Chain
import TransferBucket.Proofs.Encoding
import TransferBucket.Proofs.Lockstep
import TransferBucket.Proofs.Persistence

/-!
# Secrets do not leak

**Theorem (`secrets_do_not_leak`).** Two runs of the same operations, in sessions in which
different texts are stored behind one key of the vault, cannot be told apart: they have the same
results and the same messages, leave the same cloud but for the secret itself, and make the same
calls but for what these hand over of credentials. Nor can two runs whose addresses have different
values in letters, if records are seen as they are stored. In both cases the texts must be such
that the same comes of them (`Source.TextsAlike`): tokens that end at the same instant or texts
that are no tokens, key files that are JSON or texts that are not.

**Two kinds of interchange.** Behind one key texts may be exchanged, if every address names the key
for one source only (`Interchange.behind`); the names of secrets tell their keys, so no other key
is touched (`Vault.secretName_injective`). Values in letters are part of the addresses; there
nothing behind the keys may be exchanged (`Interchange.nothing`), and the clouds stay the same.

**Results** (`Operation.ResultsAlike`). The address that is part of a record is the only place
where a result has something of what was exchanged. With the same operations in both runs it is the
same, and a record that is stored has no values in letters.
-/

namespace TransferBucket

open Session TransferBucket.Action Vault

/-! ## Texts behind a key of the vault -/

/-- The texts behind one key of the vault may be exchanged, if none is empty and no one can tell
them apart as texts of one source. -/
def Interchange.behind (project : Value) (k : String) (use : Source) : Interchange where
  project := project
  hidden name := decide (name = secretName project (.text k))
  asked key := ∃ j, key = .text j
  alike key c c' := c = c' ∨ (key = .text k ∧ c ≠ "" ∧ c' ≠ "" ∧ use.TextsAlike c c')
  refl _ _ := Or.inl rfl
  empty := by
    rintro key c c' (rfl | ⟨-, hc, hc', -⟩)
    · rfl
    · exact iff_of_false hc hc'
  congr := by
    rintro _ _ c c' ⟨j, rfl⟩ ⟨j', rfl⟩ hsame h
    rw [Value.sameKey_text, beq_iff_eq] at hsame
    exact hsame ▸ h

/-- An address as its types say that names a key of the vault for one source only. -/
structure Address.KeepsTo (a : Address) (k : String) (use : Source) : Prop where
  textual : a.IsTextual
  only : ∀ source, source = .vaultToken ∨ source = .vaultKeyFile →
    source.given? a = some (.text k) → source = use

theorem Source.TextsAlike.refl (source : Source) (c : String) : source.TextsAlike c c := by
  cases source with
  | vaultToken | inlineToken =>
    exact EndAlike.refl (Q := fun t t' : AccessToken => t.expiration = t'.expiration)
      (fun _ => rfl) _
  | vaultKeyFile => rfl
  | inlineKeyFile => exact ⟨rfl, rfl⟩

theorem Source.exists_slot {source : Source} {a : Address} {given : Value}
    (h : source.given? a = some given) :
    ∃ p : Slot, p.source = source ∧ p.value a = given ∧ given.isTruthy := by
  have hpresent : ∀ {v w : Value}, v.present? = some w → v = w ∧ w.isTruthy := by
    intro v w hv
    rw [Value.present?] at hv
    split at hv
    · rename_i htruthy
      cases hv
      exact ⟨rfl, htruthy⟩
    · cases hv
  cases source with
  | vaultToken =>
    rw [Source.given?] at h
    split at h
    · rename_i key hkey
      cases h
      exact ⟨.key, rfl, hpresent hkey⟩
    · exact ⟨.tokenKey, rfl, hpresent h⟩
  | inlineToken => exact ⟨.tokenValue, rfl, hpresent h⟩
  | vaultKeyFile => exact ⟨.keyFileKey, rfl, hpresent h⟩
  | inlineKeyFile => exact ⟨.keyFileValue, rfl, hpresent h⟩

theorem Address.IsTextual.exists_text {a : Address} (h : a.IsTextual) {source : Source}
    {given : Value} (hgiven : source.given? a = some given) : ∃ j, given = .text j := by
  obtain ⟨p, -, rfl, htruthy⟩ := Source.exists_slot hgiven
  rcases h.value p with hnull | htext
  · rw [hnull] at htruthy
    cases htruthy
  · exact htext

theorem Address.KeepsTo.mayExchange {a : Address} {k : String} {use : Source}
    (h : a.KeepsTo k use) (project : Value) :
    a.MayExchange (.behind project k use) a := by
  intro source
  rcases hgiven : source.given? a with _ | given
  · exact .none
  · obtain ⟨j, rfl⟩ := h.textual.exists_text hgiven
    have htexts : ∀ source : Source, source = .vaultToken ∨ source = .vaultKeyFile →
        source.given? a = some (.text j) → ∀ c c',
          (Interchange.behind project k use).alike (.text j) c c' → source.TextsAlike c c' := by
      rintro source hvault hgiven c c' (rfl | ⟨hkey, -, -, halike⟩)
      · exact Source.TextsAlike.refl source c
      · rw [h.only source hvault (hkey ▸ hgiven)]
        exact halike
    cases source with
    | vaultToken => exact .some ⟨rfl, ⟨j, rfl⟩, htexts _ (Or.inl rfl) hgiven⟩
    | inlineToken => exact .some (EndAlike.refl (Source.TextsAlike.refl _) _)
    | vaultKeyFile => exact .some ⟨rfl, ⟨j, rfl⟩, htexts _ (Or.inr rfl) hgiven⟩
    | inlineKeyFile => exact .some (EndAlike.refl (Source.TextsAlike.refl _) _)

theorem Vault.secretName_injective (project : Value) :
    Function.Injective fun j => secretName project (.text j) := by
  have hname : ∀ j : String, (secretName project (.text j)).toList =
      (s!"projects/{project.display}/secrets/").toList ++
        (j.toList ++ "/versions/latest".toList) := by
    intro j
    simp [secretName, Value.display_text, String.toList_append]
    rfl
  intro j j' h
  have hchars := congrArg String.toList h
  dsimp only at hchars
  rw [hname, hname, List.append_cancel_left_eq, List.append_cancel_right_eq] at hchars
  exact String.toList_injective hchars

/-- A session with a text stored behind a key of its vault. -/
def Session.storing (s : Session) (project : Value) (k c : String) : Session :=
  { s with cloud := s.cloud.setSecret (secretName project (.text k)) (Utf8.encode c.toList) }

section Storing

variable {X : Interchange} {s : Session}

theorem Session.Alike.refl (h : ∀ p ef, s.vault.kind = .secrets p ef → p = X.project) :
    s.Alike X s := by
  refine ⟨rfl, rfl, rfl, rfl, rfl, rfl, rfl, h, rfl, rfl, fun key _ => ?_, fun key _ => ?_⟩
  · rcases remembered? s.vault key with _ | text
    · exact .none
    · exact .some (X.refl key text)
  · rcases s.cloud.secret? (secretName X.project key) with _ | bytes
    · exact .none
    · exact .some (.refl key bytes)

theorem Session.storing_alike {project : Value} {k c c' : String} {use : Source}
    (hproject : ∀ p ef, s.vault.kind = .secrets p ef → p = project) (hc : c ≠ "") (hc' : c' ≠ "")
    (h : use.TextsAlike c c') :
    (s.storing project k c).Alike (.behind project k use) (s.storing project k c') := by
  have hsame : s.Alike (.behind project k use) s := .refl hproject
  refine { hsame with cloud := rfl, secrets := ?_, stored := ?_ }
  · simp [Session.storing, Cloud.setSecret, Interchange.behind]
  · rintro _ ⟨j, rfl⟩
    change Option.Rel _ (Cloud.secret? (s.cloud.setSecret _ _) (secretName project (.text j)))
      (Cloud.secret? (s.cloud.setSecret _ _) (secretName project (.text j)))
    by_cases hj : j = k
    · rw [hj, Cloud.secret?_setSecret_self, Cloud.secret?_setSecret_self]
      refine .some ?_
      rw [Interchange.BytesAlike, Utf8.decode_encode, Utf8.decode_encode]
      refine .ok (Or.inr ⟨rfl, ?_⟩)
      rw [String.ofList_toList, String.ofList_toList]
      exact ⟨hc, hc', h⟩
    · have hne : secretName project (.text j) ≠ secretName project (.text k) :=
        fun heq => hj (secretName_injective project heq)
      rw [Cloud.secret?_setSecret_of_ne _ hne, Cloud.secret?_setSecret_of_ne _ hne]
      exact hsame.stored _ ⟨j, rfl⟩

end Storing

/-! ## Values in letters -/

/-- Nothing behind the keys of a vault may be exchanged. -/
def Interchange.nothing (project : Value) : Interchange where
  project := project
  hidden _ := false
  asked _ := True
  alike _ := Eq
  refl _ _ := rfl
  empty h := h ▸ Iff.rfl
  congr _ _ _ h := h

/-- Two addresses that differ only in values in letters, and in these so that no one can tell them
apart. -/
structure Address.DiffersInline (a a' : Address) : Prop where
  others : a'.withoutInlineSecrets = a.withoutInlineSecrets
  token : Option.Rel
    (fun v v' => EndAlike Source.inlineToken.TextsAlike (decodeInline .tokenEncoding v)
      (decodeInline .tokenEncoding v'))
    (Source.inlineToken.given? a) (Source.inlineToken.given? a')
  keyFile : Option.Rel
    (fun v v' => EndAlike Source.inlineKeyFile.TextsAlike (decodeInline .keyFileEncoding v)
      (decodeInline .keyFileEncoding v'))
    (Source.inlineKeyFile.given? a) (Source.inlineKeyFile.given? a')

theorem Address.DiffersInline.mayExchange {a a' : Address} (h : a.DiffersInline a')
    (project : Value) : a.MayExchange (.nothing project) a' := by
  have hkey : a'.keyName = a.keyName := by
    have h := congrArg Address.keyName h.others
    exact h
  have hproperty : ∀ name ∉ Property.inlineSecrets, a'.property name = a.property name := by
    intro name hname
    have hfields := congrArg (fun b => Value.field? name b.properties) h.others
    dsimp only [withoutInlineSecrets] at hfields
    rw [field?_filter_isInlineSecret hname, field?_filter_isInlineSecret hname] at hfields
    rw [property, Value.field, hfields, property, Value.field]
  have hslots : ∀ source : Source, source = .vaultToken ∨ source = .vaultKeyFile →
      ∀ p : Slot, p.source = source → p.value a' = p.value a := by
    rintro source hvault p rfl
    cases p with
    | key => exact hkey
    | tokenKey => exact hproperty _ (by decide)
    | keyFileKey => exact hproperty _ (by decide)
    | tokenValue => simp [Slot.source] at hvault
    | keyFileValue => simp [Slot.source] at hvault
  have hself : ∀ (source : Source) (given? : Option Value),
      (∀ given, source.MayExchange (.nothing project) given given) →
        Option.Rel (source.MayExchange (.nothing project)) given? given? := by
    rintro source (_ | given) hgiven
    · exact .none
    · exact .some (hgiven given)
  intro source
  cases source with
  | vaultToken =>
    rw [Source.given?_congr (hslots _ (Or.inl rfl))]
    exact hself _ _ fun _ => ⟨rfl, trivial, fun c c' hc => hc ▸ Source.TextsAlike.refl _ c⟩
  | inlineToken => exact h.token
  | vaultKeyFile =>
    rw [Source.given?_congr (hslots _ (Or.inr rfl))]
    exact hself _ _ fun _ => ⟨rfl, trivial, fun c c' hc => hc ▸ Source.TextsAlike.refl _ c⟩
  | inlineKeyFile => exact h.keyFile

/-- Two operations whose addresses differ only in values in letters. -/
inductive Operation.DiffersInline : Operation → Operation → Prop
  | provision {d : Definition} {a : Address} (h : d.address.DiffersInline a) :
    DiffersInline (.provision d) (.provision { d with address := a })
  | deprovision {r : Resource} {a : Address} (h : r.address.DiffersInline a) :
    DiffersInline (.deprovision r) (.deprovision { r with address := a })
  | event (e : Event) : DiffersInline (.event e) (.event e)

/-- What is seen of a result where a record is seen as it is stored. -/
inductive Observation where
  | provisioned (r : Except Failure (Outcome (Value × AccessToken)))
  | deprovisioned (r : Except Failure (Outcome Deprovisioned))
  | happened

/-- What is seen of a result. -/
def OperationResult.observed : OperationResult → Observation
  | .provisioned r => .provisioned (r.map fun o => {
      status := o.status
      content := o.content.map fun p => (p.resource.toValue, p.token)
      messages := o.messages })
  | .deprovisioned r => .deprovisioned r
  | .happened => .happened

/-- Two records that differ only in values in letters are stored alike. -/
theorem Address.DiffersInline.toValue_record {d : Definition} {a : Address}
    (h : d.address.DiffersInline a) (account : Account) :
    (Provision.record { d with address := a } account).toValue =
      (Provision.record d account).toValue := by
  rw [← Resource.stored_toValue, ← Resource.stored_toValue (Provision.record d account)]
  exact congrArg (fun b => ({ Provision.record d account with address := b } : Resource).toValue)
    h.others

theorem Operation.DiffersInline.mayExchange {o o' : Operation} (h : o.DiffersInline o')
    (project : Value) : o.MayExchange (.nothing project) o' := by
  cases h with
  | provision h => exact .provision (h.mayExchange project)
  | deprovision h => exact .deprovision (h.mayExchange project)
  | event e => exact .event e

/-- What is seen of alike results is the same. -/
theorem Operation.DiffersInline.observed_eq {o o' : Operation} (h : o.DiffersInline o')
    {r r' : OperationResult} (hr : ResultsAlike o o' r r') : r.observed = r'.observed := by
  cases hr with
  | provisioned hr =>
    cases h with
    | provision h =>
      cases hr with
      | ok hr =>
        cases hr with
        | success account token =>
          simp only [OperationResult.observed, Except.map, Outcome.success, Option.map_some,
            h.toValue_record]
        | failure status messages => rfl
      | error e => rfl
  | deprovisioned o => rfl
  | happened e => rfl

/-- The address that an operation works with, if it does with one. -/
def Operation.address? : Operation → Option Address
  | .provision d => some d.address
  | .deprovision r => some r.address
  | .event _ => none

theorem Operation.mayExchange_self {X : Interchange} {o : Operation}
    (h : ∀ a ∈ o.address?, a.MayExchange X a) : o.MayExchange X o := by
  cases o with
  | provision d => exact .provision (a := d.address) (h _ rfl)
  | deprovision r => exact .deprovision (a := r.address) (h _ rfl)
  | event e => exact .event e

theorem Operation.ResultsAlike.eq {o : Operation} {r r' : OperationResult}
    (h : ResultsAlike o o r r') : r = r' := by
  cases h with
  | provisioned h =>
    cases h with
    | ok h => cases h <;> rfl
    | error e => rfl
  | deprovisioned o => rfl
  | happened e => rfl

/-! ## The theorem -/

/-- Two sessions look the same from outside: the same messages, and the same calls but for what they
hand over of credentials. -/
structure Session.LooksLike (s t : Session) : Prop where
  log : t.log = s.log
  calls : t.calls.map Call.redacted = s.calls.map Call.redacted

section Clouds

variable {s t : Session} {project : Value} {k : String} {use : Source}

theorem Session.Alike.withSecrets_eq {X : Interchange} (h : s.Alike X t)
    (secrets : List (String × List UInt8)) :
    { t.cloud with secrets } = { s.cloud with secrets } := by
  rw [h.cloud]

/-- Once the secret is overwritten, the clouds are the same. -/
theorem Session.Alike.setSecret_eq (h : s.Alike (.behind project k use) t) (bytes : List UInt8) :
    t.cloud.setSecret (secretName project (.text k)) bytes =
      s.cloud.setSecret (secretName project (.text k)) bytes := by
  have hothers : (t.cloud.secrets.filter fun e => e.1 ≠ secretName project (.text k)) =
      s.cloud.secrets.filter fun e => e.1 ≠ secretName project (.text k) := by
    simpa [Interchange.behind] using h.secrets
  rw [Cloud.setSecret, Cloud.setSecret, hothers, h.withSecrets_eq]

/-- Where nothing may be exchanged, the clouds are the same. -/
theorem Session.Alike.cloud_eq (h : s.Alike (.nothing project) t) : t.cloud = s.cloud := by
  have hsecrets := h.secrets
  simp only [Interchange.nothing, Bool.not_false, List.filter_true] at hsecrets
  rw [h.cloud, hsecrets]

end Clouds

/-- **Secrets do not leak.** In a session whose vault keeps the secrets of a project, different
texts of which the same comes, stored behind a key that the addresses name for one source only,
give the same results and runs that look the same, and but for the secret itself the same cloud. In
any session, addresses that differ only in values in letters of which the same comes give results
that are the same when records are seen as they are stored, runs that look the same, and the same
cloud. -/
theorem secrets_do_not_leak (lifetime : Value) (s : Session) (os : List Operation) :
    (∀ project environmentFirst, s.vault.kind = .secrets project environmentFirst →
      ∀ (k c c' : String) (use : Source), c ≠ "" → c' ≠ "" → use.TextsAlike c c' →
        (∀ o ∈ os, ∀ a ∈ o.address?, a.KeepsTo k use) →
          let run c := Operation.performAll lifetime (s.storing project k c) os
          (run c').1 = (run c).1 ∧ (run c).2.LooksLike (run c').2 ∧
            ∀ bytes, (run c').2.cloud.setSecret (secretName project (.text k)) bytes =
              (run c).2.cloud.setSecret (secretName project (.text k)) bytes) ∧
    (∀ os', List.Forall₂ Operation.DiffersInline os os' →
      let run os := Operation.performAll lifetime s os
      (run os').1.map OperationResult.observed = (run os).1.map OperationResult.observed ∧
        (run os).2.LooksLike (run os').2 ∧ (run os').2.cloud = (run os).2.cloud) := by
  constructor
  · intro project ef hkind k c c' use hc hc' htexts hkeeps
    have hproject : ∀ p ef, s.vault.kind = .secrets p ef → p = project := by
      intro p ef' hp
      rw [hkind] at hp
      cases hp
      rfl
    have hoperations : List.Forall₂ (fun o o' => o.MayExchange (.behind project k use) o' ∧
        ∀ r r', Operation.ResultsAlike o o' r r' → id r = id r') os os :=
      List.forall₂_same.2 fun o ho => ⟨Operation.mayExchange_self fun a ha =>
        (hkeeps o ho a ha).mayExchange project, fun _ _ hr => hr.eq⟩
    obtain ⟨hresults, halike⟩ := Operation.performAll_alike lifetime id hoperations
      (storing_alike hproject hc hc' htexts)
    rw [List.map_id, List.map_id] at hresults
    exact ⟨hresults.symm, ⟨halike.log, halike.calls⟩, halike.setSecret_eq⟩
  · intro os' hos
    obtain ⟨project, hproject⟩ : ∃ project, ∀ p ef, s.vault.kind = .secrets p ef → p = project := by
      rcases s.vault.kind with _ | ⟨p, ef⟩
      · exact ⟨.null, nofun⟩
      · exact ⟨p, fun _ _ h => by cases h; rfl⟩
    have hoperations : List.Forall₂ (fun o o' => o.MayExchange (.nothing project) o' ∧
        ∀ r r', Operation.ResultsAlike o o' r r' → r.observed = r'.observed) os os' :=
      hos.imp fun o o' ho => ⟨ho.mayExchange project, fun _ _ hr => ho.observed_eq hr⟩
    obtain ⟨hresults, halike⟩ := Operation.performAll_alike lifetime OperationResult.observed
      hoperations (.refl hproject)
    exact ⟨hresults.symm, ⟨halike.log, halike.calls⟩, halike.cloud_eq⟩

/-- Two tokens that end at the same instant, one after the other behind a key, and two texts that
are no tokens, one after the other inlined: the runs look the same, although the clients of the
first two are made with different tokens. -/
theorem secrets_do_not_leak_tokens :
    let c := "\x7b\"token\": \"one\", \"expiration\": 2000000000000\x7d"
    let c' := "\x7b\"token\": \"two\", \"expiration\": 2000000000000\x7d"
    let s : Session := { vault := { kind := .secrets (.text "p1") false } }
    let d : Definition := {
      id := .text "b1", transferProcess := .text "tp-1", location := .text "EU"
      project := .text "p1", address := { keyName := .text "t" } }
    let inlining (v : String) : Operation := .provision { d with
      address := { properties := [(.text Property.tokenValue, .text v)] } }
    let run c := Operation.performAll (.int 3600) (s.storing (.text "p1") "t" c) [.provision d]
    let runInlining v := Operation.performAll (.int 3600) s [inlining v]
    ((run c').1 = (run c).1 ∧ (run c).2.LooksLike (run c').2 ∧ (run c').2.calls ≠ (run c).2.calls) ∧
      (runInlining "e30=").1.map OperationResult.observed =
        (runInlining "W10=").1.map OperationResult.observed := by
  intro c c' s d inlining run runInlining
  have htexts : Source.vaultToken.TextsAlike c c' := by
    have hc : AccessToken.ofText c = .ok ⟨"one", 2000000000000⟩ := by decide +kernel +zetaReduce
    have hc' : AccessToken.ofText c' = .ok ⟨"two", 2000000000000⟩ := by decide +kernel +zetaReduce
    rw [Source.TextsAlike, hc, hc']
    exact .ok rfl
  have hkeeps : ∀ o ∈ [Operation.provision d], ∀ a ∈ o.address?, a.KeepsTo "t" .vaultToken := by
    intro o ho a ha
    rw [List.mem_singleton.1 ho] at ha
    cases ha
    refine ⟨⟨Or.inr ⟨_, rfl⟩, fun _ he => by cases he⟩, ?_⟩
    rintro source (rfl | rfl) h
    · rfl
    · cases h
  have hvalues : EndAlike Source.inlineToken.TextsAlike (decodeInline .tokenEncoding (.text "W10="))
      (decodeInline .tokenEncoding (.text "e30=")) := by
    have hlist : decodeInline .tokenEncoding (.text "W10=") = .ok "[]" := by decide +kernel
    have hmapping : decodeInline .tokenEncoding (.text "e30=") = .ok "\x7b\x7d" := by
      decide +kernel
    have hbad : AccessToken.ofText "[]" = .error .format ∧
        AccessToken.ofText "\x7b\x7d" = .error .format := by decide +kernel
    rw [hlist, hmapping]
    refine .ok ?_
    rw [Source.TextsAlike, hbad.1, hbad.2]
    exact .error _
  have hdiffers : List.Forall₂ Operation.DiffersInline [inlining "W10="] [inlining "e30="] :=
    .cons (.provision ⟨rfl, .some hvalues, .none⟩) .nil
  obtain ⟨hresults, hlooks, -⟩ := (secrets_do_not_leak (.int 3600) s [.provision d]).1 (.text "p1")
    false rfl "t" c c' .vaultToken (by decide) (by decide) htexts hkeeps
  refine ⟨⟨hresults, hlooks, by decide +kernel +zetaReduce⟩, ?_⟩
  exact ((secrets_do_not_leak (.int 3600) s [inlining "W10="]).2 _ hdiffers).1

end TransferBucket
