import TransferBucket.Proofs.Filing
import TransferBucket.Proofs.Persistence
import TransferBucket.Proofs.Reporting
import TransferBucket.Proofs.Separation
import TransferBucket.Proofs.Undo

/-!
# There and back through a file

**Theorem (`CommandLine.deprovision_by_kept_record`).** Where a provisioning command with a file for
the record ends with status 0, the file holds the record that is printed. A command that gives up by
that file then takes away the account that the record names and nothing else, unless it goes by a
level of messages that the configuration misnames. Then it fails, and nothing has changed.

The two commands share no vault and no source of credentials. What passes from one to the other is
the file and the host that is left, so the proof has two halves that meet at `Keeping`.

* *Keeping* (`exists_keeping`): a provisioning command that ends with status 0 made an account of
  its project, and wrote the record of it. The record can be stored because its fields come from
  settings and from the configuration (`ProvisionSettings.record_isStorable`), and has no key
  material to lose.
* *Giving up* (`Keeping.returns`): the record is read from the file as it was
  (`readResource_of_wrote`), the configuration is found as it was, because the file lies apart from
  what a command visits for it (`configure_again`), and the address of the record resolves to the
  credentials that it resolved to, because provisioning stores no secret
  (`Provision.deprovision_of_success`).

The level of messages is what a second command may stumble over (`Keeping.stops`). A command that is
told how many messages to show does not look at the level in the configuration, and so a first
command can succeed with one that no command can go by (`MisnamesLevel`).
-/

namespace TransferBucket

open TransferBucket.CommandLine TransferBucket.Action

/-! ## A plain configuration -/

/-- JSON can tell what a configuration says of the project and of buckets, as it can tell texts. -/
structure Configuration.IsPlain (config : Mapping) : Prop where
  project : (setting config "gcp" "project_id").IsJson
  location : (setting config "provisioning" "location").IsJson
  storageClass : (setting config "provisioning" "storage_class").IsJson

theorem Configuration.IsPlain.of_texts {config : Mapping} {project location storageClass : String}
    (hproject : setting config "gcp" "project_id" = .text project)
    (hlocation : setting config "provisioning" "location" = .text location)
    (hclass : setting config "provisioning" "storage_class" = .text storageClass) :
    IsPlain config :=
  ⟨hproject ▸ .text _, hlocation ▸ .text _, hclass ▸ .text _⟩

theorem Configuration.projectId_apply (config : Mapping) (h : Host) : ∃ l,
    (projectId (some (.mapping config)) h).2 = { h with session := h.session.logged l } ∧
    ∀ v, (projectId (some (.mapping config)) h).1 = .ok v →
      (∃ s, v = .text s) ∨ v = setting config "gcp" "project_id" := by
  rw [projectId, bind_of_ok (read_apply _ h)]
  have hself : h = { h with session := h.session.logged [] } := by rw [Session.logged_nil]
  rcases (h.session.environment.get? projectVariable).filter (· ≠ "") with _ | project
  · have hconfig : ((some (Value.mapping config)).bind Value.present?).getD (.mapping []) =
        .mapping config := by
      cases config <;> rfl
    dsimp only
    rw [hconfig]
    rcases hgcp : Value.field? "gcp" config with _ | gcp
    · have hholds : (Value.mapping config).holds (.text "gcp") = .ok false :=
        congrArg (fun found => Except.ok (Option.isSome found)) hgcp
      rw [hholds]
      refine ⟨[_], rfl, fun v hv => Or.inr ?_⟩
      cases hv
      simp [setting, Value.field, hgcp]
    · have hholds : (Value.mapping config).holds (.text "gcp") = .ok true :=
        congrArg (fun found => Except.ok (Option.isSome found)) hgcp
      have hitem : (Value.mapping config).item "gcp" = .ok gcp := by simp [Value.item, hgcp]
      rw [hholds, bind_of_ok (ofExcept_apply _ h), if_pos rfl, hitem,
        bind_of_ok (ofExcept_apply _ h)]
      refine ⟨[], ?_, fun v hv => Or.inr ?_⟩
      · rw [← hself]
        cases gcp <;> rfl
      · cases gcp <;> cases hv
        simp [setting, Value.field, hgcp]
  · exact ⟨[_], rfl, fun v hv => Or.inl ⟨project, (Except.ok.inj hv).symm⟩⟩

/-! ## Giving up anew -/

namespace Provision

open Session

variable {lifetime : Value} {d : Definition} {s t : Session} {p : Provisioned}

theorem provision_secrets (lifetime : Value) (d : Definition) :
    (provision lifetime d).Along fun s t => t.cloud.secrets = s.cloud.secrets := by
  refine provision_along ?_ (fun s => ?_) (fun _ _ => rfl) (fun _ _ => rfl) (fun _ _ hc => hc)
    lifetime
  · exact ⟨fun _ => rfl, fun h₁ h₂ => h₂.trans h₁, fun _ _ _ => rfl, fun _ _ _ => rfl⟩
  · rw [Address.credentials_cloud _ _ s]

theorem nodup_names_provision (lifetime : Value) (d : Definition)
    (h : (s.cloud.accounts.map (·.name)).Nodup) :
    ((provision lifetime d s).2.cloud.accounts.map (·.name)).Nodup := by
  obtain ⟨r, hcourse, -⟩ := provision_course lifetime d s
  refine hcourse.keeps (P := fun c => (c.accounts.map (·.name)).Nodup) ?_ ?_ ?_ ?_ h
  · rintro c _ ⟨-, rfl⟩ hc
    exact hc
  · rintro c _ ⟨id, -, hnone, rfl⟩ hc
    exact Cloud.nodup_names_addAccount hc hnone
  · rintro c _ b a - - - ⟨gs, -, rfl⟩ hc
    exact hc
  · exact fun hc => hc

theorem target_of_mem {c : Cloud} {a : Account} (ha : a ∈ Remote.accountsOf d.project c) :
    Deprovision.target (record d a) = .text a.name := by
  have hname : a.name ≠ "" := by
    intro hempty
    have hprefix := (Remote.mem_accountsOf.1 ha).2
    rw [hempty, String.isPrefixOf] at hprefix
    simp at hprefix
  have htruthy : (Value.text a.name).isTruthy := by simpa [Value.isTruthy] using hname
  exact if_pos htruthy

/-- What was provisioned, whatever was planned, can be given up where nothing is planned, with a
vault like the one that the provisioning began with. -/
theorem deprovision_of_success (h : provision lifetime d s = (.ok (.success p), t)) {u : Session}
    (hcloud : u.cloud = t.cloud) (henvironment : u.environment = s.environment)
    (hvault : u.vault = s.vault) (hplan : u.schedule = .none) :
    ∃ w, deprovision p.resource u = (.ok (.success ⟨p.resource.id⟩), w) ∧
      w.cloud = t.cloud.without (Deprovision.target p.resource) := by
  obtain ⟨a, -, -, hrecord⟩ := account_of_success h
  obtain ⟨_, token, _, hstages, -, -⟩ := stages_of_success h
  obtain ⟨cr, hcred⟩ := found_of_stages hstages
  have haddress : p.resource.address = d.address := by rw [hrecord]; rfl
  have hsecrets : t.cloud.secrets = s.cloud.secrets := by
    have hkept := provision_secrets lifetime d s
    rw [h] at hkept
    exact hkept
  rw [← haddress] at hcred
  -- the vault is asked anew, and finds the secrets as they were
  have hsame : p.resource.address.SameAnswer Source.defaultOrder (opened d s) u :=
    .of_eq henvironment hvault ((congrArg Cloud.secrets hcloud).trans hsecrets)
  obtain ⟨w, hrun, hw⟩ := Deprovision.deprovision_of_found hcred hsame
  have hu : { u with schedule := .none } = u := by rw [← hplan]
  rw [hu] at hrun
  exact ⟨w, hrun, hcloud ▸ hw⟩

end Provision

/-- Of two clouds the second is without the one account that a record names, and otherwise has the
accounts and buckets of the first. -/
def Resource.GivenUp (r : Resource) (c c' : Cloud) : Prop :=
  ∃ before a behind, r.accountName = .text a.name ∧ c.accounts = before ++ a :: behind ∧
    (∀ b ∈ before ++ behind, b.name ≠ a.name) ∧ c'.accounts = before ++ behind ∧
    c'.buckets = c.buckets

theorem Cloud.givenUp_without {c : Cloud} (hnames : (c.accounts.map (·.name)).Nodup) {a : Account}
    (ha : a ∈ c.accounts) {r : Resource} (hr : r.accountName = .text a.name) :
    r.GivenUp c (c.without (.text a.name)) := by
  obtain ⟨before, behind, hsplit⟩ := List.append_of_mem ha
  have hothers : ∀ b ∈ before ++ behind, b.name ≠ a.name := by
    rw [hsplit, List.map_append, List.map_cons, List.nodup_middle, List.nodup_cons,
      ← List.map_append] at hnames
    rintro b hb heq
    exact hnames.1 (heq ▸ List.mem_map_of_mem hb)
  refine ⟨before, a, behind, hr, hsplit, hothers, ?_, rfl⟩
  have hkept : ∀ b ∈ before ++ behind, decide (Value.text b.name ≠ .text a.name) = true :=
    fun b hb => decide_eq_true fun heq => hothers b hb (Value.text.inj heq)
  have hgone : decide (Value.text a.name ≠ .text a.name) = false := by simp
  rw [without, hsplit, List.filter_append, List.filter_cons, hgone, if_neg Bool.false_ne_true,
    ← List.filter_append, List.filter_eq_self.2 hkept]

namespace CommandLine

open Shell Hosted

variable {p : ProvisionSettings} {config : Mapping} {t t' : Terminal}

/-! ## What settings ask for -/

theorem ProvisionSettings.projectFor_cases {project : Value}
    (h : p.projectFor config t = (.ok project, t')) :
    ((∃ s, project = .text s) ∨ project = setting config "gcp" "project_id") ∧
      t'.host.session.environment = t.host.session.environment := by
  unfold projectFor at h
  rcases hp : p.project with _ | s <;> rw [hp] at h
  · obtain ⟨l, hstate, hresult⟩ := Configuration.projectId_apply config (silent t.host)
    change onHost _ t = _ at h
    rw [onHost_apply, hstate] at h
    obtain ⟨hproject, rfl⟩ := Prod.mk.inj h
    rcases hrun : (Configuration.projectId (some (.mapping config)) (silent t.host)).1
      with e | v <;> rw [hrun] at hproject hresult <;> cases hproject
    exact ⟨hresult _ rfl, rfl⟩
  · cases h
    exact ⟨Or.inl ⟨s, rfl⟩, rfl⟩

/-- The properties of an address that settings make, with their names. -/
def ProvisionSettings.namedProperties (p : ProvisionSettings) : List (String × Value) :=
  let named (name : String) (text : Option String) : List (String × Value) :=
    text.toList.map fun s => (name, .text s)
  named Property.bucketName p.bucketName ++ named Property.keyFileKey p.keyFileKey ++
    named Property.tokenKey p.tokenKey

theorem ProvisionSettings.properties_eq (p : ProvisionSettings) :
    Value.mapping p.properties = .record p.namedProperties := by
  simp only [properties, namedProperties, Value.record, List.map_append, List.map_map]
  rfl

theorem ProvisionSettings.mem_namedProperties {f : String × Value} (h : f ∈ p.namedProperties) :
    f.1 ∈ [Property.bucketName, Property.keyFileKey, Property.tokenKey] ∧
      ∃ s, f.2 = .text s := by
  simp only [namedProperties, List.mem_append, List.mem_map] at h
  rcases h with (⟨s, -, rfl⟩ | ⟨s, -, rfl⟩) | ⟨s, -, rfl⟩ <;> simp

theorem ProvisionSettings.properties_isJson (p : ProvisionSettings) :
    (Value.mapping p.properties).IsJson := by
  rw [properties_eq]
  refine .record ?_ fun f hf => ?_
  · rcases hb : p.bucketName with _ | b <;> rcases hk : p.keyFileKey with _ | k <;>
      rcases ht : p.tokenKey with _ | t <;>
      simp [namedProperties, hb, hk, ht, Property.bucketName, Property.keyFileKey,
        Property.tokenKey]
  · obtain ⟨-, s, hs⟩ := mem_namedProperties hf
    rw [hs]
    exact .text s

theorem ProvisionSettings.withoutInlineSecrets_properties (p : ProvisionSettings) :
    ({ properties := p.properties } : Address).withoutInlineSecrets =
      { properties := p.properties } := by
  have hfields : p.properties = p.namedProperties.map fun f => (.text f.1, f.2) :=
    Value.mapping.inj p.properties_eq
  have hkept : ∀ e ∈ p.properties, (!Property.isInlineSecret e.1) = true := by
    rw [hfields]
    intro e he
    obtain ⟨f, hf, rfl⟩ := List.mem_map.1 he
    have hname := (mem_namedProperties hf).1
    rw [Property.isInlineSecret_text]
    revert hname
    generalize f.1 = name
    simp only [List.mem_cons, List.not_mem_nil, or_false]
    rintro (rfl | rfl | rfl) <;> decide
  rw [Address.withoutInlineSecrets, List.filter_eq_self.2 hkept]

theorem ProvisionSettings.definition_eq (p : ProvisionSettings) (id : String) (config : Mapping)
    (project : Value) : p.definition id config project = .ok {
      id := .text id
      transferProcess := flagValue p.transferProcess
      location := (p.location.map Value.text).getD (setting config "provisioning" "location")
      project
      storageClass :=
        (p.storageClass.map Value.text).getD (setting config "provisioning" "storage_class")
      bucketName := (({ properties := p.properties } : Address).property
        Property.bucketName).orElse .null
      address := { properties := p.properties } } := by
  have hserves : Definition.canServe { properties := p.properties } = true := by
    simp [Definition.canServe, Value.equals]
  rw [definition, Definition.forTransfer, if_pos hserves]

theorem ProvisionSettings.project_of_definition {id : String} {project : Value} {d : Definition}
    (h : p.definition id config project = .ok d) : d.project = project := by
  rw [definition_eq] at h
  cases h
  rfl

theorem isJson_getD_text {v : Value} (hv : v.IsJson) (text : Option String) :
    ((text.map Value.text).getD v).IsJson := by
  cases text with
  | none => exact hv
  | some s => exact .text s

theorem isJson_orElse {v w : Value} (hv : v.IsJson) (hw : w.IsJson) : (v.orElse w).IsJson := by
  unfold Value.orElse
  split_ifs
  · exact hv
  · exact hw

theorem isJson_field {fields : List (String × Value)} (h : ∀ f ∈ fields, f.2.IsJson)
    (name : String) : (Value.field name (fields.map fun f => (.text f.1, f.2))).IsJson := by
  rw [Value.field]
  rcases hfield : Value.field? name (fields.map fun f => (.text f.1, f.2)) with _ | v
  · rw [hfield]
    exact .null
  · rw [hfield]
    exact h _ (Value.mem_of_field? hfield)

/-- What is provisioned by settings has a record that can be stored, and no key material to lose. -/
theorem ProvisionSettings.record_isStorable {id : String} {project : Value} {d : Definition}
    (hconfig : Configuration.IsPlain config) (hproject : project.IsJson)
    (h : p.definition id config project = .ok d) (a : Account) :
    (Provision.record d a).IsStorable ∧ (Provision.record d a).stored = Provision.record d a := by
  rw [definition_eq] at h
  have hbucket : (({ properties := p.properties } : Address).property
      Property.bucketName).IsJson := by
    rw [Address.property, Value.mapping.inj p.properties_eq]
    refine isJson_field (fun f hf => ?_) _
    obtain ⟨-, s, hs⟩ := mem_namedProperties hf
    rw [hs]
    exact .text s
  have hprocess : (flagValue p.transferProcess).IsJson :=
    isJson_getD_text (.list (List.forall_mem_nil _)) _
  cases h
  refine ⟨⟨?_, .text _, .null, p.properties_isJson⟩, ?_⟩
  · simp only [Resource.plainFields, Provision.record, Definition.targetBucket,
      List.forall_mem_cons, List.not_mem_nil, false_implies, implies_true, and_true]
    exact ⟨.text id, .text id, hprocess, isJson_getD_text hconfig.location _, hproject,
      isJson_orElse (isJson_orElse hbucket .null) (.text id), .text _, .text _, .text _,
      isJson_getD_text hconfig.storageClass _, .bool true⟩
  · simp only [Resource.stored, Provision.record, withoutInlineSecrets_properties]

/-! ## Giving up by a file -/

theorem onHost_isFile {path : String} {bytes : List UInt8}
    (h : t.host.files.look path = .ok (some (.file bytes))) :
    onHost (Host.isFile path) t = (.ok true, t) := by
  have hlook : Host.look path (silent t.host) = (.ok (some (.file bytes)), silent t.host) := by
    rw [Host.look_apply]
    change ((t.host.files.look path).mapError Failure.file, _) = _
    rw [h]
    rfl
  have hrun : Host.isFile path (silent t.host) = (.ok true, silent t.host) := by
    rw [Host.isFile, bind_of_ok hlook]
    rfl
  rw [onHost_of_silent hrun]
  rfl

theorem resourceOf_of_encode {r : Resource} (hr : r.IsStorable) {l : Json.Layout}
    {text : List Char} (htext : Json.encode l r.toValue = .ok text) :
    resourceOf (String.ofList text) = .ok r.stored := by
  rw [resourceOf, String.toList_ofList, (Json.of_encode hr.toValue htext).2]
  exact Resource.ofValue_toValue r

theorem readResource_of_wrote {r : Resource} (hr : r.IsStorable) {l : Json.Layout}
    {text : List Char} (htext : Json.encode l r.toValue = .ok text) {fs : FileSystem}
    {path : String} (hwrote : fs.Wrote path (Utf8.encode text) t.host.files) :
    readResource path t = (.ok r.stored, t) := by
  have hread := Host.readText_of_wrote hr.toValue htext (h := silent t.host) hwrote
  rw [readResource, resume_apply, onHost_of_silent (r := .ok r.stored)]
  · rfl
  · rw [bind_of_ok hread, resourceOf_of_encode hr htext]
    rfl

/-- Give up a resource that was read. -/
def giveUp (verbosity : Nat) (resource : Resource) : Shell Unit := do
  let config ← configure verbosity
  openVault config resource.project
  let outcome ← inSession (TransferBucket.deprovision resource)
  let gone ← contentOf outcome
  say s!"Deprovisioned resource: {gone.resourceId.display}"

/-- A command with a file that is there reads it and gives up what it has read. -/
theorem deprovisionCommand_of_look {file : String} {bytes : List UInt8}
    (hlook : t.host.files.look (Path.normalise file) = .ok (some (.file bytes)))
    (verbosity : Nat) : deprovisionCommand verbosity (some file) t =
      (readResource (Path.normalise file) >>= giveUp verbosity) t := by
  unfold deprovisionCommand
  dsimp only
  rw [pure_bind, bind_of_ok (onHost_isFile hlook), Bool.not_true, if_neg Bool.false_ne_true]
  rfl

theorem deprovisionCommand_of_wrote {r : Resource} (hr : r.IsStorable) {l : Json.Layout}
    {text : List Char} (htext : Json.encode l r.toValue = .ok text) {fs : FileSystem}
    {file : String} (hwrote : fs.Wrote (Path.normalise file) (Utf8.encode text) t.host.files)
    (verbosity : Nat) :
    deprovisionCommand verbosity (some file) t = giveUp verbosity r.stored t := by
  rw [deprovisionCommand_of_look hwrote.look_eq, bind_of_ok (readResource_of_wrote hr htext hwrote)]

theorem giveUp_of_steps {verbosity : Nat} {r : Resource} {t₁ : Terminal} {u : Session}
    (hconfig : configure verbosity t = (.ok config, t₁))
    (hgone : TransferBucket.deprovision r { t₁.host.session with
      vault := { kind := vaultKind config r.project }, log := [] } = (.ok (.success ⟨r.id⟩), u)) :
    ∃ t₂, giveUp verbosity r t = (.ok (), t₂) ∧
      t₂.output = t.output ++ s!"Deprovisioned resource: {r.id.display}" ++ "\n" ∧
      t₂.host.session.cloud = u.cloud := by
  have houtput := (configure_modest verbosity t).1
  rw [hconfig] at houtput
  have hserved := openVault_bind_apply config r.project (TransferBucket.deprovision r) t₁
  rw [hgone] at hserved
  dsimp only at hserved
  rw [giveUp, bind_of_ok hconfig, ← bind_assoc, bind_of_ok hserved]
  refine ⟨_, rfl, ?_, rfl⟩
  exact congrArg (· ++ s!"Deprovisioned resource: {r.id.display}" ++ "\n") houtput

/-! ## The level of messages -/

/-- The level of messages that a configuration names. -/
def levelOf (config : Mapping) : Value :=
  (setting config "logging" "level").orElse (.text "WARNING")

/-- What a configuration names as the level of messages is none, with the failure of a command that
goes by it: it is a number too long to be written, or the name of the layout or of the table of
layouts, which are looked up where the levels are. -/
inductive MisnamesLevel (config : Mapping) : Failure → Prop
  | long (hlong : (levelOf config).wording = .error (.value .longNumber)) :
    MisnamesLevel config (.value .longNumber)
  | layout {name : String} (hname : (levelOf config).wording = .ok name)
    (hcapitals : capitals name = "BASIC_FORMAT") :
    MisnamesLevel config (.value (.logLevel "%(levelname)s:%(name)s:%(message)s"))
  | table {name : String} (hname : (levelOf config).wording = .ok name)
    (hcapitals : capitals name = "_STYLES") : MisnamesLevel config (.mismatch .levelTable)

theorem MisnamesLevel.not_isInterrupt {e : Failure} (h : MisnamesLevel config e) :
    e.isInterrupt = false := by
  cases h <;> rfl

theorem eq_longNumber_of_wording {v : Value} {e : Failure} (h : v.wording = .error e) :
    e = .value .longNumber := by
  rw [Value.wording] at h
  split at h <;> cases h
  rfl

/-- Only a command that is not told how many messages to show goes by the level that the
configuration names. -/
theorem thresholdOf_eq_error_iff {verbosity : Nat} {e : Failure} :
    thresholdOf verbosity (setting config "logging" "level") = .error e ↔
      verbosity = 0 ∧ MisnamesLevel config e := by
  refine ⟨fun h => ?_, ?_⟩
  · rcases verbosity with _ | _ | n
    · refine ⟨rfl, ?_⟩
      rw [thresholdOf, ← levelOf] at h
      rcases hname : (levelOf config).wording with f | name <;> rw [hname] at h <;> dsimp only at h
      · cases h
        cases eq_longNumber_of_wording hname
        exact .long hname
      · split at h
        · cases h
        · split_ifs at h with hlayout htable <;> cases h
          · exact .layout hname hlayout
          · exact .table hname htable
    · cases h
    · cases h
  · rintro ⟨rfl, h⟩
    cases h with
    | long hlong => rw [thresholdOf, ← levelOf, hlong]
    | layout hname hcapitals | table hname hcapitals =>
      rw [thresholdOf, ← levelOf, hname]
      dsimp only
      rw [hcapitals]
      rfl

example : thresholdOf 0 (.text "_\ufb06yles") = .error (.mismatch .levelTable) := by decide +kernel

theorem not_misnamesLevel {threshold : Nat}
    (h : thresholdOf 0 (setting config "logging" "level") = .ok threshold) (e : Failure) :
    ¬ MisnamesLevel config e := fun he => by
  rw [thresholdOf_eq_error_iff.2 ⟨rfl, he⟩] at h
  cases h

/-! ## Finding the configuration again -/

/-- How finding a configuration ends for a command, once the level of messages is looked at. -/
def levelled (verbosity : Nat) (config : Mapping) : Except Ending Mapping :=
  ((thresholdOf verbosity (setting config "logging" "level")).map fun _ => config).mapError .failure

theorem levelled_of_misnamesLevel {e : Failure} (h : MisnamesLevel config e) :
    levelled 0 config = .error (.failure e) := by
  rw [levelled, thresholdOf_eq_error_iff.2 ⟨rfl, h⟩]
  rfl

theorem levelled_eq_ok_iff {verbosity : Nat} :
    levelled verbosity config = .ok config ↔ (verbosity = 0 → ∀ e, ¬ MisnamesLevel config e) := by
  rw [levelled]
  rcases hlevel : thresholdOf verbosity (setting config "logging" "level") with e | threshold
  · obtain ⟨rfl, he⟩ := thresholdOf_eq_error_iff.1 hlevel
    exact iff_of_false nofun fun hnone => hnone rfl e he
  · refine iff_of_true rfl fun hsilent => ?_
    rw [hsilent] at hlevel
    exact not_misnamesLevel hlevel

/-- Commands find the same configuration, however many messages they are told to show. -/
theorem configure_of_verbosity {verbosity : Nat} {t₁ : Terminal}
    (h : configure verbosity t = (.ok config, t₁)) (verbosity' : Nat) :
    ∃ t₂, configure verbosity' t = (levelled verbosity' config, t₂) ∧ t₂.host = t₁.host := by
  rw [configure, bind_eq_ok_iff] at h
  obtain ⟨_, t₂, hhome, h⟩ := h
  rw [bind_eq_ok_iff] at h
  obtain ⟨config', t₃, hconfig, h⟩ := h
  rw [bind_eq_ok_iff] at h
  obtain ⟨threshold, t₄, hthreshold, h⟩ := h
  obtain ⟨-, rfl⟩ := Prod.mk.inj hthreshold
  obtain ⟨hsame, rfl⟩ := Prod.mk.inj h
  cases hsame
  rw [configure, bind_of_ok hhome, bind_of_ok hconfig, bind_apply, Shell.ofExcept, levelled]
  rcases thresholdOf verbosity' (setting config "logging" "level") with e | threshold'
  · exact ⟨_, rfl, rfl⟩
  · exact ⟨_, rfl, rfl⟩

/-- The configuration that was found is found again amid files that look the same at the paths that
finding it visits. -/
theorem configure_again {verbosity : Nat} {t₁ : Terminal}
    (h : configure verbosity t = (.ok config, t₁))
    {P : String → Prop} (hP : ∀ file, Configuration.Visits t.host file → P file)
    {fs : FileSystem} (hfs : t.host.files.AgreesOn P fs) (s : Session) (verbosity' : Nat) :
    ∃ t₂ l, configure verbosity' (amid t fs s) = (levelled verbosity' config, t₂) ∧
      t₂.host = t₁.host.amid fs (s.logged l) := by
  obtain ⟨t₂, hrun, hhost⟩ := configure_of_verbosity h verbosity'
  obtain ⟨-, l, hending⟩ := configure_surveys hP verbosity' (t := t)
  have hagain := hending fs s hfs
  rw [hrun] at hagain
  refine ⟨_, l, hagain, ?_⟩
  rw [← hhost]
  rfl

/-! ## What passes from one command to the other -/

/-- What a report prints is JSON with a record in it. -/
def Report.Prints (report : Report) (r : Resource) : Prop :=
  ∃ text fields v, report.output = String.ofList text ++ "\n" ∧
    Json.decode text = .ok (.mapping fields) ∧ Value.field? "resource" fields = some v ∧
    Resource.ofValue v = .ok r

/-- A file of a host holds JSON from which a record can be read. -/
def Holds (h : Host) (file : String) (r : Resource) : Prop :=
  ∃ text, (Host.readText (Path.normalise file) h).1 = .ok text ∧ resourceOf text = .ok r

/-- A host on which nothing is planned any more. -/
def unplanned (h : Host) : Host := { h with session := { h.session with schedule := .none } }

/-- A path leads to none of the places at which a command looks for its configuration. -/
def IsApart (h : Host) (file : String) : Prop :=
  ∀ path, Configuration.Visits (started h).host path →
    Path.resolve h.files.directory path ≠ Path.resolve h.files.directory (Path.normalise file)

theorem isApart_of_unpreferred {h : Host} {file home path : String} {m : Mapping}
    (hhome : h.currentHome = .ok home)
    (hpreferred : (Configuration.preferredPath (started h).host).1 = .ok none)
    (hpath : (Configuration.path (started h).host).1 = .ok path)
    (hread : (Configuration.read path (started h).host).1 = .ok (.mapping m))
    (hkey : Configuration.keyFile? (Value.field? "authentication" m) = none)
    (hplaces : ∀ place ∈ [Preferences.path (started h).host,
      Configuration.fileIn (Host.settingsDirectory home)],
      Path.resolve h.files.directory place ≠ Path.resolve h.files.directory (Path.normalise file)) :
    IsApart h file := by
  intro place hvisits
  cases hvisits with
  | preferences => exact hplaces _ List.mem_cons_self
  | default hhome' =>
    obtain rfl := Except.ok.inj (hhome.symm.trans hhome')
    exact hplaces _ (List.mem_cons_of_mem _ List.mem_cons_self)
  | preferred hfile =>
    rw [hpreferred] at hfile
    cases hfile
  | keyFile hpath' hread' htop' hfile =>
    obtain rfl := Except.ok.inj (hpath.symm.trans hpath')
    obtain rfl := Except.ok.inj (hread.symm.trans hread')
    rw [Configuration.topLevel] at htop'
    split at htop' <;> cases htop'
    rw [hkey] at hfile
    cases hfile

theorem conclude_of_failure {e : Failure} (he : e.isInterrupt = false) (t : Terminal) :
    conclude (.error (.failure e)) t = ⟨1, t.output, t.errors ++ s!"Error: {e.message}\n"⟩ := by
  rw [conclude, he]
  rfl

theorem isJson_announcement {made : Provisioned} (hr : made.resource.IsStorable)
    (hnumber : isWritable made.token.expiration) : (announcement made).IsJson := by
  refine .record (by simp) ?_
  simp only [List.forall_mem_cons, List.not_mem_nil, false_implies, implies_true, and_true]
  exact ⟨hr.toValue, .int hnumber⟩

theorem prints_announcement {made : Provisioned} (hr : made.resource.IsStorable)
    (hnumber : isWritable made.token.expiration) {text : List Char}
    (htext : Json.encode (.indented 2) (announcement made) = .ok text) {report : Report}
    (houtput : report.output = String.ofList text ++ "\n") :
    report.Prints made.resource.stored := by
  have hdecode := (Json.of_encode (isJson_announcement hr hnumber) htext).2
  exact ⟨text, _, made.resource.toValue, houtput, hdecode, rfl, Resource.ofValue_toValue _⟩

theorem run_of_perform {args : List String} {i : Invocation} {id : String} {h : Host}
    (hargs : Invocation.ofArguments args = .ok i) {r : Except Ending Unit}
    (hperform : perform id i (started h) = (r, t)) :
    run id args h = (conclude r t, ended h t) := by
  rw [run_eq hargs, hperform]

theorem started_unplanned_ended {h : Host} {t : Terminal}
    (haccount : t.host.accountHome = h.accountHome) :
    started (unplanned (ended h t)) = amid (started h) t.host.files
      { t.host.session with schedule := .none, vault := h.session.vault, links := {} } := by
  -- the variables of the first command ended with it
  have hcurrent : (unplanned (ended h t)).currentHome = h.currentHome :=
    Host.currentHome_congr rfl haccount
  rw [started, hcurrent]
  change Terminal.mk (Host.mk _ _ _ t.host.accountHome) _ _ _ = _
  rw [haccount]
  rfl

/-- A command prints a record and keeps it in a file. -/
structure Keeps (file : String) (first : Report × Host) (r : Resource) : Prop where
  printed : first.1.Prints r
  kept : Holds first.2 file r

/-- A command gives up what a record names. -/
structure Returns (before : Host) (second : Report × Host) (r : Resource) : Prop where
  status : second.1.status = 0
  output : second.1.output = s!"Deprovisioned resource: {r.id.display}" ++ "\n"
  givenUp : r.GivenUp before.session.cloud second.2.session.cloud

/-- A command fails, and leaves nothing behind but messages. -/
structure Stops (before : Host) (second : Report × Host) (e : Failure) : Prop where
  status : second.1.status = 1
  output : second.1.output = ""
  errors : ∃ shown, second.1.errors = shown ++ s!"Error: {e.message}\n"
  unchanged : ∃ l, second.2 = { before with session := before.session.logged l }

/-- What a provisioning command went through that kept its record in a file. -/
structure Keeping (verbosity : Nat) (h : Host) (file : String) where
  config : Mapping
  /-- The terminal once the configuration was found. -/
  configured : Terminal
  lifetime : Value
  definition : Definition
  /-- The sessions around the provisioning. -/
  before : Session
  after : Session
  made : Provisioned
  /-- The text of the record. -/
  text : List Char
  last : Terminal
  configure_eq : configure verbosity (started h) = (.ok config, configured)
  provision_eq : provision lifetime definition before = (.ok (.success made), after)
  environment : before.environment = configured.host.session.environment
  vault : before.vault = { kind := vaultKind config made.resource.project }
  cloud : before.cloud = h.session.cloud
  storable : made.resource.IsStorable
  stored : made.resource.stored = made.resource
  encode_eq : Json.encode (.indented 2) made.resource.toValue = .ok text
  wrote : h.files.Wrote (Path.normalise file) (Utf8.encode text) last.host.files
  last_cloud : last.host.session.cloud = after.cloud
  last_accountHome : last.host.accountHome = h.accountHome

theorem prepare_finds {id : String} {verbosity : Nat} {p : ProvisionSettings} {ready : Prepared}
    {t t₁ : Terminal} (h : prepare id verbosity p t = (.ok ready, t₁))
    (hplain : ∀ config, (configure verbosity t).1 = .ok config → Configuration.IsPlain config) :
    ∃ t₀, configure verbosity t = (.ok ready.config, t₀) ∧
      p.definition id ready.config ready.project = .ok ready.definition ∧
      Configuration.IsPlain ready.config ∧ ready.project.IsJson ∧
      t₁.host.session.environment = t₀.host.session.environment ∧
      t₁.host.session.cloud = t.host.session.cloud ∧ t₁.host.accountHome = t.host.accountHome := by
  obtain ⟨t₀, hconfigure, hproject, -, hdefinition⟩ := prepare_eq_ok h
  have hconfig := hplain ready.config (congrArg Prod.fst hconfigure)
  obtain ⟨hkind, henvironment⟩ := ProvisionSettings.projectFor_cases hproject
  have hjson : ready.project.IsJson := by
    rcases hkind with ⟨s, hs⟩ | hs
    · rw [hs]
      exact .text s
    · rw [hs]
      exact hconfig.project
  have hsurveys := prepare_surveys (P := fun _ => True) (t := t) (fun _ _ => trivial) id
    verbosity p
  have hhomes := hsurveys.homes
  obtain ⟨l, hsession, -⟩ := hsurveys.host_eq
  rw [h] at hhomes hsession
  have hcloud := congrArg (fun host => host.session.cloud) hsession
  exact ⟨t₀, hconfigure, hdefinition, hconfig, hjson, henvironment, hcloud, hhomes.account⟩

theorem Prepared.provision_of_success {r : Prepared} {made : Provisioned}
    (h : (r.provision t).1 = .ok (.success made)) : ∃ after,
    TransferBucket.provision r.lifetime r.definition (r.session t.host.session) =
      (.ok (.success made), after) ∧
    isWritable made.token.expiration ∧
    (r.provision t).2.host.session.cloud = after.cloud ∧
    (r.provision t).2.host.accountHome = t.host.accountHome := by
  have hserved := r.provision_apply t
  rcases hprovision : TransferBucket.provision r.lifetime r.definition
    (r.session t.host.session) with ⟨_ | o, after⟩ <;> rw [hprovision] at hserved <;>
    rw [hserved] at h <;> cases h
  rw [hserved]
  exact ⟨after, rfl, (success_of_provision hserved rfl).2, rfl, rfl⟩

/-- A provisioning command with a file for the record, if it ends with status 0, keeps the record
there and prints it. -/
theorem exists_keeping {args : List String} {verbosity : Nat} {p : ProvisionSettings}
    {file : String} {h : Host}
    (hargs : Invocation.ofArguments args = .ok ⟨verbosity, .provision p⟩)
    (hfile : p.output = some file)
    (hplain : ∀ config, (configure verbosity (started h)).1 = .ok config →
      Configuration.IsPlain config)
    {id : String} (hstatus : (run id args h).1.status = 0) :
    ∃ k : Keeping verbosity h file, run id args h = (conclude (.ok ()) k.last, ended h k.last) ∧
      (run id args h).1.Prints k.made.resource := by
  obtain ⟨ready, t₁, -, -, hprepare, -⟩ := (run_reports hargs id h).record hstatus
  obtain ⟨t₀, hconfigure, hdefinition, hconfig, hjson, henvironment, hcloud, haccount⟩ :=
    prepare_finds hprepare hplain
  rcases provisionCommand_of_prepare hprepare with
    ⟨made, text, t₂, hmade, htext, hcommand, houtput, hkept, hhost⟩ | ⟨e, t₂, he, hcommand, -, -⟩
  · have hrun : run id args h = (conclude (.ok ()) t₂, ended h t₂) :=
      run_of_perform hargs hcommand
    obtain ⟨after, hprovision, hnumber, hafter, hhome⟩ := Prepared.provision_of_success hmade
    obtain ⟨a, -, -, hrecord⟩ := Provision.account_of_success hprovision
    obtain ⟨hstorable, hstored⟩ := ProvisionSettings.record_isStorable hconfig hjson hdefinition a
    rw [← hrecord] at hstorable hstored
    rw [ProvisionSettings.Kept, hfile] at hkept
    obtain ⟨kept, hencode, hwrite⟩ := hkept
    have hsame : made.resource.project = ready.project := by
      rw [hrecord]
      exact ProvisionSettings.project_of_definition hdefinition
    let k : Keeping verbosity h file := {
      config := ready.config
      configured := t₀
      lifetime := ready.lifetime
      definition := ready.definition
      before := ready.session t₁.host.session
      after, made
      text := kept
      last := t₂
      configure_eq := hconfigure
      provision_eq := hprovision
      environment := henvironment
      vault := by rw [hsame]; rfl
      cloud := hcloud
      storable := hstorable
      stored := hstored
      encode_eq := hencode
      wrote := FileSystem.wrote_of_writeBytes hwrite
      last_cloud := by rw [hhost, ← hafter]
      last_accountHome := by rw [hhost]; exact hhome.trans haccount }
    refine ⟨k, hrun, ?_⟩
    rw [hrun]
    have hprinted : (conclude (.ok ()) t₂).output = String.ofList text ++ "\n" :=
      (output_conclude _ _).trans houtput
    have hprints := prints_announcement hstorable hnumber htext hprinted
    rwa [hstored] at hprints
  · rw [run_of_perform hargs hcommand, status_conclude he] at hstatus
    cases hstatus

namespace Keeping

variable {verbosity verbosity' : Nat} {h : Host} {file : String} (k : Keeping verbosity h file)

theorem levelled_eq : levelled verbosity k.config = .ok k.config := by
  obtain ⟨t, hagain, -⟩ := configure_of_verbosity k.configure_eq verbosity
  exact congrArg Prod.fst (hagain.symm.trans k.configure_eq)

theorem holds : Holds (ended h k.last) file k.made.resource := by
  have hread := Host.readText_of_wrote k.storable.toValue k.encode_eq (h := ended h k.last) k.wrote
  have hrecord := resourceOf_of_encode k.storable k.encode_eq
  rw [k.stored] at hrecord
  exact ⟨_, congrArg Prod.fst hread, hrecord⟩

/-- The host of the next command. -/
def next : Host := unplanned (ended h k.last)

theorem finds (hapart : IsApart h file) (verbosity' : Nat) :
    ∃ t l, configure verbosity' (started k.next) = (levelled verbosity' k.config, t) ∧
      t.host = k.configured.host.amid k.last.host.files (Session.logged { k.last.host.session with
        schedule := .none, vault := h.session.vault, links := {} } l) := by
  rw [next, started_unplanned_ended k.last_accountHome]
  exact configure_again k.configure_eq hapart k.wrote.agreesOn _ verbosity'

theorem deprovisionCommand_eq (verbosity' : Nat) :
    deprovisionCommand verbosity' (some file) (started k.next) =
      giveUp verbosity' k.made.resource (started k.next) := by
  have hcommand := deprovisionCommand_of_wrote k.storable k.encode_eq (t := started k.next) k.wrote
    verbosity'
  rwa [k.stored] at hcommand

theorem givenUp (hnames : (h.session.cloud.accounts.map (·.name)).Nodup) :
    k.made.resource.GivenUp k.after.cloud
      (k.after.cloud.without (Deprovision.target k.made.resource)) := by
  obtain ⟨a, ha, -, hrecord⟩ := Provision.account_of_success k.provision_eq
  have hafter := Provision.nodup_names_provision k.lifetime k.definition (k.cloud ▸ hnames)
  rw [k.provision_eq] at hafter
  rw [hrecord, Provision.target_of_mem ha]
  exact Cloud.givenUp_without hafter (Remote.mem_accountsOf.1 ha).1 rfl

variable {id' : String} {args' : List String}

/-- The next command succeeds where the configuration names a level of messages, or is not asked
for one. -/
theorem returns (hargs' : Invocation.ofArguments args' = .ok ⟨verbosity', .deprovision (some file)⟩)
    (hnames : (h.session.cloud.accounts.map (·.name)).Nodup) (hapart : IsApart h file)
    (hlevel : verbosity' = 0 → ∀ e, ¬ MisnamesLevel k.config e) :
    Returns k.next (run id' args' k.next) k.made.resource := by
  obtain ⟨t₁, l, hconfigure, hhost⟩ := k.finds hapart verbosity'
  rw [levelled_eq_ok_iff.2 hlevel] at hconfigure
  have hsession := congrArg Host.session hhost
  have hcloud := (congrArg Session.cloud hsession).trans k.last_cloud
  have henvironment := (congrArg Session.environment hsession).trans k.environment.symm
  have hplan := congrArg Session.schedule hsession
  obtain ⟨u, hgone, hu⟩ := Provision.deprovision_of_success k.provision_eq
    (u := { t₁.host.session with
      vault := { kind := vaultKind k.config k.made.resource.project }, log := [] })
    hcloud henvironment k.vault.symm hplan
  obtain ⟨t₂, hrun, houtput, hlast⟩ := giveUp_of_steps hconfigure hgone
  rw [← k.deprovisionCommand_eq] at hrun
  have hgivenUp := k.givenUp hnames
  rw [← hu, ← hlast, ← k.last_cloud] at hgivenUp
  rw [run_of_perform hargs' hrun]
  exact ⟨rfl, houtput, hgivenUp⟩

/-- It fails where it asks for a level and none is named. Nothing has been done by then. -/
theorem stops (hargs' : Invocation.ofArguments args' = .ok ⟨0, .deprovision (some file)⟩)
    (hapart : IsApart h file) {e : Failure} (he : MisnamesLevel k.config e) :
    Stops k.next (run id' args' k.next) e := by
  -- the level is looked at before the vault is opened: all that is left is what was logged
  obtain ⟨t, l, hconfigure, hhost⟩ := k.finds hapart 0
  rw [levelled_of_misnamesLevel he] at hconfigure
  have hrun : deprovisionCommand 0 (some file) (started k.next) = (.error (.failure e), t) := by
    rw [k.deprovisionCommand_eq, giveUp, bind_of_error hconfigure]
  have houtput := (configure_modest 0 (started k.next)).1
  rw [hconfigure] at houtput
  have haccount : k.configured.host.accountHome = k.last.host.accountHome := by
    have hhomes := (configure_surveys (P := fun _ => True) (t := started h) (fun _ _ => trivial)
      verbosity).homes.account
    rw [k.configure_eq] at hhomes
    exact hhomes.trans k.last_accountHome.symm
  have hunchanged : ended k.next t = { k.next with session := k.next.session.logged l } := by
    rw [ended, hhost, Host.amid, haccount]
    rfl
  rw [run_of_perform hargs' hrun, conclude_of_failure he.not_isInterrupt]
  exact ⟨rfl, houtput, ⟨_, rfl⟩, ⟨l, hunchanged⟩⟩

end Keeping

/-- **A kept record gives up what was provisioned.** Where a provisioning command with a file for
the record ends with status 0, the file holds the record that is printed. A command that gives up by
that file then ends with status 0 where nothing is planned, says so, and takes away the account that
the record names, and nothing else. There is one exception: the configuration misnames the level of
messages, and only the second command goes by it, because the first one was told how many messages
to show. Then the second command fails, and the account stays. -/
theorem deprovision_by_kept_record {args args' : List String} {verbosity verbosity' : Nat}
    {p : ProvisionSettings} {file : String} {h : Host}
    (hargs : Invocation.ofArguments args = .ok ⟨verbosity, .provision p⟩)
    (hfile : p.output = some file)
    (hargs' : Invocation.ofArguments args' = .ok ⟨verbosity', .deprovision (some file)⟩)
    (hnames : (h.session.cloud.accounts.map (·.name)).Nodup) (hapart : IsApart h file)
    (hplain : ∀ config, (configure verbosity (started h)).1 = .ok config →
      Configuration.IsPlain config)
    (id id' : String) (hstatus : (run id args h).1.status = 0) :
    ∃ config r, (configure verbosity (started h)).1 = .ok config ∧ Keeps file (run id args h) r ∧
      (verbosity = 0 → ∀ e, ¬ MisnamesLevel config e) ∧
      ((verbosity' = 0 → ∀ e, ¬ MisnamesLevel config e) →
        Returns (unplanned (run id args h).2) (run id' args' (unplanned (run id args h).2)) r) ∧
      ∀ e, verbosity' = 0 → MisnamesLevel config e →
        Stops (unplanned (run id args h).2) (run id' args' (unplanned (run id args h).2)) e := by
  obtain ⟨k, hfirst, hprints⟩ := exists_keeping hargs hfile hplain hstatus
  have hnext : unplanned (run id args h).2 = k.next := by rw [hfirst, Keeping.next]
  have hkept := k.holds
  rw [hnext]
  refine ⟨k.config, k.made.resource, congrArg Prod.fst k.configure_eq, ⟨hprints, ?_⟩,
    levelled_eq_ok_iff.1 k.levelled_eq, k.returns hargs' hnames hapart, ?_⟩
  · rwa [hfirst]
  · rintro e rfl he
    exact k.stops hargs' hapart he

/-- A host with a text of settings, a token in the vault, and the account of another process. The
next listing of accounts comes out empty. -/
def hostWithSettings (text : String) : Host where
  session := {
    cloud := {
      accounts := [⟨"ci@p", "projects/p/serviceAccounts/ci@p", "builds"⟩]
      secrets := [("projects/p/secrets/t/versions/latest",
        Utf8.encode "\x7b\"token\": \"one\", \"expiration\": 2000000000000\x7d".toList)] }
    schedule := Schedule.none.append .listAccounts [some .stale]
    vault := { kind := .environment } }
  home := "/root"
  files := {
    nodes := [
      (["root"], .directory), (["root", ".config"], .directory),
      (["root", ".config", "gcs-provision"], .directory),
      (["root", ".config", "gcs-provision", "config.yml"], .file (Utf8.encode text.toList))] }

/-- The record is kept, and the account that was made goes again, while that of another process
stays. -/
theorem deprovision_by_kept_record_stale :
    let args := ["-v", "provision", "--transfer-process-id", "tp-1", "--access-token-key-name",
      "t", "--output", "record.json"]
    let args' := ["deprovision", "--resource-file", "record.json"]
    let h := hostWithSettings "gcp:\n  project_id: p\n"
    let before := unplanned (run "d" args h).2
    (run "d" args h).1.status = 0 ∧ IsApart h "record.json" ∧ ∃ r,
      Keeps "record.json" (run "d" args h) r ∧ Returns before (run "e" args' before) r := by
  intro args args' h before
  let p : ProvisionSettings := {
    transferProcess := some "tp-1", tokenKey := some "t", output := some "record.json" }
  have hargs : Invocation.ofArguments args = .ok ⟨1, .provision p⟩ := by decide +kernel
  have hargs' : Invocation.ofArguments args' = .ok ⟨0, .deprovision (some "record.json")⟩ := by
    decide +kernel
  have hstatus : (run "d" args h).1.status = 0 := by decide +kernel
  have hnames : (h.session.cloud.accounts.map (·.name)).Nodup := List.nodup_singleton _
  have hpath : (Configuration.path (started h).host).1 =
      .ok "/root/.config/gcs-provision/config.yml" := by decide +kernel
  have hread : (Configuration.read "/root/.config/gcs-provision/config.yml" (started h).host).1 =
      .ok (.mapping [(.text "gcp", .record [("project_id", .text "p")])]) := by decide +kernel
  have hapart : IsApart h "record.json" :=
    isApart_of_unpreferred rfl (by decide +kernel) hpath hread (by decide +kernel)
      (by decide +kernel)
  let found : Mapping := [
    (.text "gcp", .record [("project_id", .text "p")]),
    (.text "provisioning", .mapping Configuration.provisioningDefaults),
    (.text "logging", .mapping Configuration.loggingDefaults)]
  have hfound : (configure 1 (started h)).1 = .ok found := by decide +kernel
  have hplain : ∀ config, (configure 1 (started h)).1 = .ok config →
      Configuration.IsPlain config := by
    intro config hconfig
    obtain rfl : found = config := Except.ok.inj (hfound ▸ hconfig)
    have hproject : setting found "gcp" "project_id" = .text "p" := by decide +kernel
    have hlocation : setting found "provisioning" "location" = .text "US" := by decide +kernel
    have hclass : setting found "provisioning" "storage_class" = .text "STANDARD" := by
      decide +kernel
    exact .of_texts hproject hlocation hclass
  obtain ⟨config, r, hconfig, hkeeps, -, hreturns, -⟩ := deprovision_by_kept_record (h := h) hargs
    rfl hargs' hnames hapart hplain "d" "e" hstatus
  obtain rfl : found = config := Except.ok.inj (hfound ▸ hconfig)
  have hlevel : thresholdOf 0 (setting found "logging" "level") = .ok Level.warning.rank := by
    decide +kernel
  exact ⟨hstatus, hapart, r, hkeeps, hreturns fun _ => not_misnamesLevel hlevel⟩

/-- A level that is the name of the layout: the first command, which is told how many messages to
show, does not go by it, and the second one does. The account stays. -/
theorem kept_record_useless_by_level :
    let args := ["-v", "provision", "--transfer-process-id", "tp-1", "--output", "record.json"]
    let args' := ["deprovision", "--resource-file", "record.json"]
    let h := hostWithSettings "gcp:\n  project_id: p\nlogging:\n  level: BASIC_FORMAT\n"
    let before := unplanned (run "d" args h).2
    ((run "d" args h).1.status = 0 ∧ (h.session.cloud.accounts.map (·.name)).Nodup ∧
      IsApart h "record.json" ∧ ∀ config, (configure 1 (started h)).1 = .ok config →
        Configuration.IsPlain config) ∧
    Stops before (run "e" args' before)
      (.value (.logLevel "%(levelname)s:%(name)s:%(message)s")) ∧
    ∀ r, ¬ Returns before (run "e" args' before) r := by
  intro args args' h before
  let p : ProvisionSettings := { transferProcess := some "tp-1", output := some "record.json" }
  have hargs : Invocation.ofArguments args = .ok ⟨1, .provision p⟩ := by decide +kernel
  have hargs' : Invocation.ofArguments args' = .ok ⟨0, .deprovision (some "record.json")⟩ := by
    decide +kernel
  have hstatus : (run "d" args h).1.status = 0 := by decide +kernel
  have hpath : (Configuration.path (started h).host).1 =
      .ok "/root/.config/gcs-provision/config.yml" := by decide +kernel
  have hread : (Configuration.read "/root/.config/gcs-provision/config.yml" (started h).host).1 =
      .ok (.mapping [(.text "gcp", .record [("project_id", .text "p")]),
        (.text "logging", .record [("level", .text "BASIC_FORMAT")])]) := by decide +kernel
  have hapart : IsApart h "record.json" :=
    isApart_of_unpreferred rfl (by decide +kernel) hpath hread (by decide +kernel)
      (by decide +kernel)
  let found : Mapping := [
    (.text "gcp", .record [("project_id", .text "p")]),
    (.text "logging", .record [("level", .text "BASIC_FORMAT")]),
    (.text "provisioning", .mapping Configuration.provisioningDefaults)]
  have hfound : (configure 1 (started h)).1 = .ok found := by decide +kernel
  have hplain : ∀ config, (configure 1 (started h)).1 = .ok config →
      Configuration.IsPlain config := by
    intro config hconfig
    obtain rfl : found = config := Except.ok.inj (hfound ▸ hconfig)
    have hproject : setting found "gcp" "project_id" = .text "p" := by decide +kernel
    have hlocation : setting found "provisioning" "location" = .text "US" := by decide +kernel
    have hclass : setting found "provisioning" "storage_class" = .text "STANDARD" := by
      decide +kernel
    exact .of_texts hproject hlocation hclass
  obtain ⟨k, hfirst, -⟩ := exists_keeping hargs rfl hplain hstatus
  have hnext : before = k.next := by
    change unplanned (run "d" args h).2 = k.next
    rw [hfirst, Keeping.next]
  clear_value before
  subst hnext
  have hconfig : found = k.config :=
    Except.ok.inj (hfound.symm.trans (congrArg Prod.fst k.configure_eq))
  have hlevel : (levelOf found).wording = .ok "BASIC_FORMAT" := by decide +kernel
  have hmisnames : MisnamesLevel found _ := .layout hlevel (by decide +kernel)
  have hstops : Stops k.next (run "e" args' k.next) _ :=
    k.stops hargs' hapart (hconfig ▸ hmisnames)
  refine ⟨⟨hstatus, List.nodup_singleton _, hapart, hplain⟩, hstops, fun r hreturns => ?_⟩
  have hboth := hstops.status.symm.trans hreturns.status
  cases hboth

end CommandLine

end TransferBucket
