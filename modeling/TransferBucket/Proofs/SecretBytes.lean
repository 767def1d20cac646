import TransferBucket.Proofs.Chain
import TransferBucket.Proofs.Encoding
import TransferBucket.Proofs.Envelope
import TransferBucket.Proofs.Remembering
import TransferBucket.Proofs.TokenTexts

/-!
# Bytes of secrets

**Theorem (`secret_bytes_decide`).** Let bytes lie under a key in the vault, and let addresses name
the key, for a token or for a key file. If the bytes are those of a text, the vault answers the text
and remembers it, and provisioning and giving up end in one of the uniform ways; only a token with
an end beyond all numbers, and a key file that is not loaded for a reason of its own, are left out.
If the bytes are those of no text, the vault fails with the failure of the value, and remembers
nothing; and this failure comes out of provisioning and of giving up, with nothing made or deleted.

**The vault** (`Vault.Stores`). Where nothing stands before the bytes, what the vault answers is
decided by them (`Vault.resolve_of_unknown`); and they are read as the text whose bytes they are
(`Utf8.decode_eq_ok_iff`).

**The search.** A source of the vault is a question to the vault and then the reader of its kind
(`Source.credentials_vault`). The reader finds credentials or refuses them
(`Source.Passes.resolves`), so the search does; where the vault fails, so does the search, before
anything else is done.
-/

namespace TransferBucket

open Session

/-! ## The vault -/

/-- Bytes lie under a key in a vault of secrets. No text of the environment stands before them, no
text is remembered for the key, and nothing is planned against reading them. -/
structure Vault.Stores (s : Session) (key : String) (bytes : List UInt8) : Prop where
  secret : ∃ project environmentFirst, s.vault.kind = .secrets project environmentFirst ∧
    (environmentFirst → ∀ text, s.environment.get? key = some text → text = "") ∧
    s.cloud.secret? (secretName project (.text key)) = some bytes
  unknown : remembered? s.vault (.text key) = none
  client : s.fault? .openSecrets = none
  reading : s.fault? .readSecret = none

theorem Vault.answerTo_encode (key text : String) :
    answerTo key (.ok (Utf8.encode text.toList)) = .ok (some text) := by
  rw [answerTo, Utf8.decode_encode]
  exact congrArg (fun t => Except.ok (some t)) String.ofList_toList

theorem Vault.answerTo_of_malformed (key : String) {bytes : List UInt8} {m : Utf8.Malformed}
    (h : Utf8.decode bytes = .error m) :
    answerTo key (.ok bytes) = .error (.value (.undecodable m)) := by
  rw [answerTo, h]

namespace Vault.Stores

variable {s : Session} {key : String} {bytes : List UInt8}

theorem resolve (h : Stores s key bytes) : ∃ t,
    Vault.resolve (.text key) s = (answerTo key (.ok bytes), t) ∧
      t.vault.fetched = s.vault.fetched ++ kept key (answerTo key (.ok bytes)) := by
  obtain ⟨project, environmentFirst, hkind, henvironment, hsecret⟩ := h.secret
  have hshadow : (question s key).shadow? environmentFirst = none := by
    rw [Question.shadow?]
    split
    · rename_i hfirst
      rw [Option.filter_eq_none_iff]
      exact fun text htext => by simp [henvironment hfirst text htext]
    · rfl
  have hreading : (question s key).reading project = .ok bytes := by
    change (Remote.readSecret (secretName project (.text key)) s).1 = .ok bytes
    rw [Remote.readSecret_apply, h.reading, hsecret]
  obtain ⟨t, cs, hrun, -, -, hfetched⟩ := resolve_of_unknown hkind h.client hshadow h.unknown
  rw [hreading] at hrun hfetched
  exact ⟨t, hrun, hfetched⟩

theorem congr {t : Session} (h : Stores s key bytes) (hvault : t.vault = s.vault)
    (henvironment : t.environment = s.environment) (hcloud : t.cloud = s.cloud)
    (hschedule : t.schedule = s.schedule) : Stores t key bytes := by
  have hfault : ∀ m, t.fault? m = s.fault? m := fun m => by
    rw [fault?, plan?, hschedule, ← plan?, ← fault?]
  obtain ⟨hsecret, hunknown, hclient, hreading⟩ := h
  exact ⟨by rwa [hvault, henvironment, hcloud], by rwa [hvault], (hfault _).trans hclient,
    (hfault _).trans hreading⟩

end Vault.Stores

/-! ## The search -/

namespace Source

/-- The sources that ask the vault. -/
def asksVault : Source → Bool
  | .vaultToken | .vaultKeyFile => true
  | .inlineToken | .inlineKeyFile => false

/-- The reader of the texts of a source. -/
def parse (source : Source) (content : String) : Action Session Failure Credentials :=
  match source with
  | .vaultToken | .inlineToken => Credentials.ofTokenText content
  | .vaultKeyFile | .inlineKeyFile => Credentials.ofKeyFileText content

/-- The reader of a source finds credentials in a text or refuses it: a token has no end beyond all
numbers, and a key file is loaded or refused as one. -/
def Passes (source : Source) (s : Session) (content : String) : Prop :=
  match source with
  | .vaultToken | .inlineToken => ¬AccessToken.IsEndless content
  | .vaultKeyFile | .inlineKeyFile => ∀ f, s.fault? .loadKeyFile = some f → f.isKeyFileRefusal

variable {source : Source} {s t : Session} {content : String} {key : Value}

theorem credentials_vault (h : source.asksVault) (given : Value) :
    source.credentials given = (Vault.require given >>= source.parse) := by
  cases source with
  | vaultToken => rfl
  | vaultKeyFile => rfl
  | _ => cases h

theorem Passes.resolves (h : source.Passes s content) :
    (∃ cr, (source.parse content s).1 = .ok cr) ∨
      ∃ p, (source.parse content s).1 = .error (.credential p) := by
  have htoken : ¬AccessToken.IsEndless content →
      (∃ cr, (Credentials.ofTokenText content s).1 = .ok cr) ∨
        ∃ p, (Credentials.ofTokenText content s).1 = .error (.credential p) := by
    intro hfinite
    rw [Credentials.ofTokenText_fst]
    rw [← AccessToken.ofText_eq_infinite_iff] at hfinite
    rcases hread : AccessToken.ofText content with (_ | _) | token
    · exact .inr ⟨_, rfl⟩
    · exact absurd hread hfinite
    · dsimp only
      rcases token.expiry? with _ | ends
      · exact .inr ⟨_, rfl⟩
      · exact .inl ⟨_, rfl⟩
  have hfile : (∀ f, s.fault? .loadKeyFile = some f → f.isKeyFileRefusal) →
      (∃ cr, (Credentials.ofKeyFileText content s).1 = .ok cr) ∨
        ∃ p, (Credentials.ofKeyFileText content s).1 = .error (.credential p) := by
    intro hload
    rw [Credentials.ofKeyFileText_fst]
    rcases Json.decode content.toList with e | info
    · exact .inr ⟨_, rfl⟩
    · rcases hf : s.fault? .loadKeyFile with _ | f
      · exact .inl ⟨_, rfl⟩
      · dsimp only
        rw [if_pos (hload f hf)]
        exact .inr ⟨_, rfl⟩
  cases source with
  | vaultToken | inlineToken => exact htoken h
  | vaultKeyFile | inlineKeyFile => exact hfile h

theorem Passes.congr (h : source.Passes s content)
    (hload : t.fault? .loadKeyFile = s.fault? .loadKeyFile) : source.Passes t content := by
  cases source with
  | vaultToken | inlineToken => exact h
  | vaultKeyFile | inlineKeyFile => exact fun f hf => h f (hload ▸ hf)

end Source

/-- An address names a key for a source of the vault, and nothing for the sources before it. -/
structure Address.Names (a : Address) (source : Source) (key : String) : Prop where
  asksVault : source.asksVault
  given : source.given? a = some (.text key)
  first : ∀ earlier ∈ Source.defaultOrder.takeWhile (· ≠ source), earlier.given? a = none

section Searching

variable {a : Address} {source : Source} {s : Session} {key : String} {bytes : List UInt8}

theorem Address.Names.credentials (h : a.Names source key) :
    a.credentials Source.defaultOrder = (Vault.require (.text key) >>= source.parse) := by
  have hsplit : ∃ after, Source.defaultOrder =
      Source.defaultOrder.takeWhile (· ≠ source) ++ source :: after := by
    cases source <;> exact ⟨_, rfl⟩
  obtain ⟨after, horder⟩ := hsplit
  rw [horder, Address.credentials_of_first h.first h.given, Source.credentials_vault h.asksVault]

/-- Bytes that are a text: credentials are found in it, or refused. -/
theorem Address.Names.resolves (h : a.Names source key) (hs : Vault.Stores s key bytes)
    {text : String} (hbytes : bytes = Utf8.encode text.toList) (hpasses : source.Passes s text) :
    a.Resolves s := by
  obtain ⟨t, hrun, -⟩ := hs.resolve
  rw [hbytes, Vault.answerTo_encode] at hrun
  rw [Address.Resolves, h.credentials]
  by_cases hempty : text = ""
  · have hrequire : Vault.require (.text key) s =
        (.error (.credential (.unresolved (.text key))), t) := by
      rw [Vault.require, Action.bind_of_ok hrun]
      exact congrFun (if_pos hempty) t
    rw [Action.bind_of_error hrequire]
    exact .inr ⟨_, rfl⟩
  · have hrequire : Vault.require (.text key) s = (.ok text, t) := by
      rw [Vault.require, Action.bind_of_ok hrun]
      exact congrFun (if_neg hempty) t
    have hload : t.fault? .loadKeyFile = s.fault? .loadKeyFile := by
      have hcalls := Vault.require_calls (.text key) s
      rw [hrequire] at hcalls
      exact hcalls.fault?_eq (by decide)
    rw [Action.bind_of_ok hrequire]
    exact (hpasses.congr hload).resolves

/-- Bytes that are no text: the search fails with the failure of the value, and remembers
nothing. -/
theorem Address.Names.undecodable (h : a.Names source key) (hs : Vault.Stores s key bytes)
    {m : Utf8.Malformed} (hbytes : Utf8.decode bytes = .error m) : ∃ t,
    a.credentials Source.defaultOrder s = (.error (.value (.undecodable m)), t) ∧
      t.vault.fetched = s.vault.fetched ∧ t.cloud = s.cloud := by
  obtain ⟨t, hrun, hfetched⟩ := hs.resolve
  rw [Vault.answerTo_of_malformed key hbytes] at hrun hfetched
  have hsearch : a.credentials Source.defaultOrder s =
      (.error (.value (.undecodable m)), t) := by
    rw [h.credentials, Action.bind_of_error (x := Vault.require _)]
    exact Action.bind_of_error hrun
  have hcloud := Address.credentials_cloud Source.defaultOrder a s
  rw [hsearch] at hcloud
  exact ⟨t, hsearch, hfetched.trans (List.append_nil _), hcloud⟩

end Searching

/-! ## Provisioning and giving up -/

section Runs

variable {source : Source} {s : Session} {key : String} {bytes : List UInt8} {m : Utf8.Malformed}

/-- A run that bytes of no text break off: their failure comes out, and nothing is remembered, made
or deleted. -/
def BrokenOff {α : Type} (m : Utf8.Malformed) (s : Session)
    (run : Except Failure (Outcome α) × Session) : Prop :=
  run.1 = .error (.value (.undecodable m)) ∧ run.2.vault.fetched = s.vault.fetched ∧
    run.2.cloud = s.cloud

theorem provision_brokenOff (lifetime : Value) {d : Definition} (hd : d.address.Names source key)
    (hs : Vault.Stores s key bytes) (hbytes : Utf8.decode bytes = .error m) :
    BrokenOff m s (provision lifetime d s) := by
  have hopened : Vault.Stores (Provision.opened d s) key bytes := hs.congr rfl rfl rfl rfl
  obtain ⟨t, hsearch, hfetched, hcloud⟩ := hd.undecodable hopened hbytes
  have hstages : Provision.stages lifetime d (Provision.opened d s) =
      (.error (.requested, .value (.undecodable m)), t) :=
    Action.bind_of_error (Action.mapError_of_error (Action.bind_of_error hsearch))
  rw [Provision.provision_eq, hstages]
  exact ⟨rfl, hfetched, hcloud⟩

theorem deprovision_brokenOff {r : Resource} (hr : r.address.Names source key)
    (hs : Vault.Stores s key bytes) (hbytes : Utf8.decode bytes = .error m) :
    BrokenOff m s (deprovision r s) := by
  have hopened : Vault.Stores (Deprovision.opened r s) key bytes := hs.congr rfl rfl rfl rfl
  obtain ⟨t, hsearch, hfetched, hcloud⟩ := hr.undecodable hopened hbytes
  have hremoval : Deprovision.removal r (Deprovision.opened r s) =
      (.error (.value (.undecodable m)), t) := Action.bind_of_error hsearch
  rw [Deprovision.deprovision_eq, hremoval]
  exact ⟨rfl, hfetched, hcloud⟩

theorem Utf8.exists_malformed (h : ∀ text : String, bytes ≠ Utf8.encode text.toList) :
    ∃ m, Utf8.decode bytes = .error m := by
  rcases hread : Utf8.decode bytes with m | cs
  · exact ⟨m, rfl⟩
  · refine absurd ?_ (h (String.ofList cs))
    rw [String.toList_ofList]
    exact Utf8.decode_eq_ok_iff.1 hread

end Runs

/-- **The bytes of a secret decide.** -/
theorem secret_bytes_decide {lifetime : Value} {n : Int}
    (hlifetime : Identity.lifetimeOf lifetime = .ok n) {s : Session}
    (hpolicies : ∀ b ∈ s.cloud.buckets, ∀ x ∈ b.bindings, x.IsWellFormed) {key : String}
    {bytes : List UInt8} (hs : Vault.Stores s key bytes) :
    (∀ text : String, bytes = Utf8.encode text.toList →
      (Vault.resolve (.text key) s).1 = .ok (some text) ∧
      (Vault.resolve (.text key) s).2.vault.fetched = s.vault.fetched ++ [(.text key, text)] ∧
      ∀ source : Source, source.Passes s text →
        (∀ d : Definition, d.IsSpelled → d.address.Names source key →
          ∃ es, Dialogue s es (provision lifetime d s).2 ∧
            Uniform (accountDescription d.transferProcess d.targetBucket) es s
              (provision lifetime d s)) ∧
        ∀ r : Resource, r.address.Names source key →
          ∃ es, Dialogue s es (deprovision r s).2 ∧
            Uniform (accountDescription r.transferProcess r.bucketName) es s (deprovision r s)) ∧
    ((∀ text : String, bytes ≠ Utf8.encode text.toList) → ∃ m,
      (Vault.resolve (.text key) s).1 = .error (.value (.undecodable m)) ∧
      (Vault.resolve (.text key) s).2.vault.fetched = s.vault.fetched ∧
      ∀ source : Source,
        (∀ d : Definition, d.address.Names source key → BrokenOff m s (provision lifetime d s)) ∧
        ∀ r : Resource, r.address.Names source key → BrokenOff m s (deprovision r s)) := by
  obtain ⟨t, hrun, hfetched⟩ := hs.resolve
  refine ⟨fun text hbytes => ?_, fun hnone => ?_⟩
  · rw [hbytes, Vault.answerTo_encode] at hrun hfetched
    refine ⟨congrArg Prod.fst hrun, by rw [hrun]; exact hfetched, fun source hpasses => ?_⟩
    refine ⟨fun d hd hnames => ?_, fun r hnames => ?_⟩
    · refine provision_uniform hlifetime hpolicies hd ?_
      exact hnames.resolves (hs.congr rfl rfl rfl rfl) hbytes (hpasses.congr rfl)
    · refine deprovision_uniform ?_
      exact hnames.resolves (hs.congr rfl rfl rfl rfl) hbytes (hpasses.congr rfl)
  · obtain ⟨m, hm⟩ := Utf8.exists_malformed hnone
    rw [Vault.answerTo_of_malformed key hm] at hrun hfetched
    refine ⟨m, congrArg Prod.fst hrun, ?_, fun source => ⟨fun d hd => ?_, fun r hr => ?_⟩⟩
    · rw [hrun]
      exact hfetched.trans (List.append_nil _)
    · exact provision_brokenOff lifetime hd hs hm
    · exact deprovision_brokenOff hr hs hm

/-- A byte that starts no character, under a key for a token and for a key file; and two bytes of
one character, which are no key file. -/
theorem secret_bytes_decide_stray_byte :
    let s (bytes : List UInt8) : Session := {
      cloud := { secrets := [("projects/p1/secrets/k/versions/latest", bytes)] }
      vault := { kind := .secrets (.text "p1") true } }
    let d : Definition := {
      id := .text "b1", transferProcess := .text "tp-1", location := .text "EU"
      project := .text "p1", address := { keyName := .text "k" } }
    let r : Resource := {
      Provision.record d (Remote.newAccount (.text "p1") "edc-tp1" (Provision.description d)) with
      address := { properties := [(.text Property.keyFileKey, .text "k")] } }
    Identity.lifetimeOf (.int 3600) = .ok 3600 ∧ (∀ bytes, Vault.Stores (s bytes) "k" bytes) ∧
      (∀ text : String, [0xff] ≠ Utf8.encode text.toList) ∧
      d.address.Names .vaultToken "k" ∧ r.address.Names .vaultKeyFile "k" ∧
      (∃ m, BrokenOff m (s [0xff]) (provision (.int 3600) d (s [0xff])) ∧
        BrokenOff m (s [0xff]) (deprovision r (s [0xff]))) ∧
      (Vault.resolve (.text "k") (s [0xc3, 0xa9])).1 = .ok (some "é") ∧
      ∃ es, Dialogue (s [0xc3, 0xa9]) es (deprovision r (s [0xc3, 0xa9])).2 ∧
        Uniform (accountDescription r.transferProcess r.bucketName) es (s [0xc3, 0xa9])
          (deprovision r (s [0xc3, 0xa9])) := by
  intro s d r
  have hpolicies : ∀ bytes, ∀ b ∈ (s bytes).cloud.buckets, ∀ x ∈ b.bindings, x.IsWellFormed :=
    fun _ b hb => absurd hb List.not_mem_nil
  have hs : ∀ bytes, Vault.Stores (s bytes) "k" bytes := fun bytes =>
    ⟨⟨.text "p1", true, rfl, nofun, rfl⟩, rfl, rfl, rfl⟩
  have hnone : ∀ text : String, [0xff] ≠ Utf8.encode text.toList := by
    intro text h
    have hread := Utf8.decode_encode text.toList
    rw [← h] at hread
    cases hread
  have hd : d.address.Names .vaultToken "k" := ⟨rfl, rfl, nofun⟩
  have hr : r.address.Names .vaultKeyFile "k" := by
    refine ⟨rfl, rfl, fun earlier hm => ?_⟩
    have hearlier : earlier ∈ [Source.vaultToken, .inlineToken] := hm
    rcases List.mem_pair.1 hearlier with rfl | rfl <;> rfl
  have hlifetime : Identity.lifetimeOf (.int 3600) = .ok 3600 := rfl
  obtain ⟨m, -, -, hruns⟩ := (secret_bytes_decide hlifetime (hpolicies _) (hs [0xff])).2 hnone
  obtain ⟨hresolve, -, hread⟩ :=
    (secret_bytes_decide hlifetime (hpolicies _) (hs [0xc3, 0xa9])).1 "é" (by decide)
  exact ⟨hlifetime, hs, hnone, hd, hr,
    ⟨m, (hruns .vaultToken).1 d hd, (hruns .vaultKeyFile).2 r hr⟩, hresolve,
    (hread .vaultKeyFile nofun).2 r hr⟩

/-- Not every secret that is no text is a problem with credentials, and not every provisioning with
one has a result. -/
theorem undecodable_secret_passes_through :
    let s (bytes : List UInt8) : Session := {
      cloud := { secrets := [("projects/p1/secrets/k/versions/latest", bytes)] }
      vault := { kind := .secrets (.text "p1") true } }
    let d : Definition := {
      id := .text "b1", transferProcess := .text "tp-1", location := .text "EU"
      project := .text "p1", address := { keyName := .text "k" } }
    (¬ ∀ bytes, (∃ text, (Vault.resolve (.text "k") (s bytes)).1 = .ok (some text)) ∨
      ∃ p, (Vault.resolve (.text "k") (s bytes)).1 = .error (.credential p)) ∧
    ¬ ∀ bytes, ∃ o, (provision (.int 3600) d (s bytes)).1 = .ok o := by
  intro s d
  have hresolve : (Vault.resolve (.text "k") (s [0xff])).1 =
      .error (.value (.undecodable ⟨.start, 0, 1, 0xff⟩)) := by decide +kernel +zetaReduce
  have hprovision : (provision (.int 3600) d (s [0xff])).1 =
      .error (.value (.undecodable ⟨.start, 0, 1, 0xff⟩)) := by decide +kernel +zetaReduce
  refine ⟨fun h => ?_, fun h => ?_⟩
  · rcases h [0xff] with ⟨text, h⟩ | ⟨p, h⟩ <;> rw [hresolve] at h <;> cases h
  · obtain ⟨o, h⟩ := h [0xff]
    rw [hprovision] at h
    cases h

end TransferBucket
