import TransferBucket.Proofs.Coupling
import TransferBucket.Proofs.Expiration
import TransferBucket.Proofs.Surveying

/-!
# The parts of a command

A provisioning command has three parts. It prepares: it checks the names, finds the configuration
and the project, and makes the definition (`prepare`). It provisions. It delivers: it writes the
record to a file, if one is asked for, and prints it (`deliver`).

**Preparing** (`prepare_surveys`). Preparing is looking around: it turns to no service and changes
no file, and nothing that it finds depends on the services.

**Delivering** (`Delivery`). A record is printed exactly if the command ends well, and nothing is
written unless it does.
-/

namespace TransferBucket.CommandLine

open Shell Hosted TransferBucket.Action

variable {α : Type} {P : String → Prop} {t : Terminal}

/-! ## Steps on the host -/

/-- A host where no message is logged yet. -/
def silent (h : Host) : Host := { h with session := { h.session with log := [] } }

theorem onHost_apply (x : Action Host Failure α) (t : Terminal) :
    onHost x t = ((x (silent t.host)).1.mapError .failure, { t with
      host := { (x (silent t.host)).2 with
        session := { (x (silent t.host)).2.session with
          log := t.host.session.log ++ (x (silent t.host)).2.session.log } }
      errors := t.errors ++ shown t.threshold (x (silent t.host)).2.session.log }) := rfl

/-- A step on the host that changes nothing there. -/
theorem onHost_of_silent {x : Action Host Failure α} {r : Except Failure α} {t : Terminal}
    (hx : x (silent t.host) = (r, silent t.host)) : onHost x t = (r.mapError .failure, t) := by
  have hlog : t.host.session.log ++ [] = t.host.session.log := List.append_nil _
  have herrors : t.errors ++ shown t.threshold [] = t.errors := String.append_empty
  rw [onHost_apply, hx]
  dsimp only [silent]
  rw [hlog, herrors]

/-- A step on the host that changes nothing on any. -/
theorem onHost_of_apply {x : Action Host Failure α} {f : Host → Except Failure α}
    (hx : ∀ h, x h = (f h, h)) (t : Terminal) :
    onHost x t = ((f (silent t.host)).mapError .failure, t) :=
  onHost_of_silent (hx _)

theorem onHost_surveys {x : Action Host Failure α} (hx : x.Surveys P (silent t.host)) :
    (onHost x).Surveys P t := by
  obtain ⟨l, hhost, hending⟩ := hx.host_eq
  have hlog : (x (silent t.host)).2.session.log = l := congrArg (fun h => h.session.log) hhost
  have hhomes := hx.homes
  refine ⟨⟨hhomes.start, hhomes.account, hhomes.current⟩, l, fun fs s hfs => ?_⟩
  have hthere := hending fs { s with log := [] } hfs
  rw [onHost_apply, onHost_apply]
  change x (silent (amid t fs s).host) = _ at hthere
  rw [hthere, hlog]
  rfl

theorem onHost_requireHome (t : Terminal) :
    onHost Host.requireHome t = ((t.host.currentHome.map fun _ => ()).mapError .failure, t) :=
  onHost_of_apply Host.requireHome_apply t

/-! ## Preparing -/

/-- The names of the process and of the bucket are not both accepted. -/
def ProvisionSettings.IsRefused (p : ProvisionSettings) : Prop :=
  (∃ refusal, Validation.processIdRefusal? (flagValue p.transferProcess) = .ok (some refusal)) ∨
    ∃ name refusal, p.bucketName = some name ∧
      Validation.bucketNameRefusal? (.text name) = .ok (some refusal)

theorem processIdRefusal?_flagValue (text : Option String) :
    ∃ refusal?, Validation.processIdRefusal? (flagValue text) = .ok refusal? := by
  rcases text with _ | s <;> exact ⟨_, rfl⟩

/-- Names that are refused end the command with status 2. -/
theorem ProvisionSettings.check_of_refused {p : ProvisionSettings} (h : p.IsRefused) :
    ∃ refusal, ∀ t, p.check t = (.error (.exit 2), { t with errors := t.errors ++ refusal }) := by
  obtain ⟨refusal?, hprocess⟩ := processIdRefusal?_flagValue p.transferProcess
  rcases refusal? with _ | refusal
  · obtain ⟨name, refusal, hname, hbucket⟩ : ∃ name refusal, p.bucketName = some name ∧
        Validation.bucketNameRefusal? (.text name) = .ok (some refusal) := by
      rcases h with ⟨_, hrefused⟩ | hrefused
      · rw [hprocess] at hrefused
        cases hrefused
      · exact hrefused
    refine ⟨refusal, fun t => ?_⟩
    rw [check, hprocess, hname]
    dsimp only
    rw [hbucket]
    rfl
  · refine ⟨refusal, fun t => ?_⟩
    rw [check, hprocess]
    rfl

theorem ProvisionSettings.check_of_accepted {p : ProvisionSettings} (h : ¬ p.IsRefused)
    (t : Terminal) : p.check t = (.ok (), t) := by
  obtain ⟨refusal?, hprocess⟩ := processIdRefusal?_flagValue p.transferProcess
  rcases refusal? with _ | refusal
  · rw [check, hprocess]
    rcases hname : p.bucketName with _ | name
    · rfl
    · rcases hbucket : Validation.bucketNameRefusal? (.text name) with e | _ | refusal
      · cases hbucket
      · dsimp only
        rw [hbucket]
        rfl
      · exact absurd (Or.inr ⟨name, refusal, hname, hbucket⟩) h
  · exact absurd (Or.inl ⟨refusal, hprocess⟩) h

/-- The project to work for. -/
def ProvisionSettings.projectFor (p : ProvisionSettings) (config : Mapping) : Shell Value :=
  match p.project with
  | some project => pure (.text project)
  | none => onHost (Configuration.projectId (some (.mapping config)))

/-- What a provisioning command has found out when it turns to the services. -/
structure Prepared where
  config : Mapping
  project : Value
  definition : Definition

/-- Find out what is to be provisioned. -/
def prepare (id : String) (verbosity : Nat) (p : ProvisionSettings) : Shell Prepared := do
  onHost Host.requireHome
  p.check
  let config ← configure verbosity
  let project ← p.projectFor config
  if !project.isTruthy then
    exitWith 1 ("Error: No project id. Pass --project-id, set GCP_PROJECT or configure " ++
      "gcp.project_id")
  let definition ← ofExcept (p.definition id config project)
  pure { config, project, definition }

theorem exitWith_surveys (status : Nat) (line : String) (t : Terminal) :
    (exitWith status line : Shell α).Surveys P t :=
  .bind (.modify (fun _ => rfl) fun _ _ => rfl) fun _ _ _ => .fail _

/-- Finding the configuration is looking around at the paths that it visits. -/
theorem configure_surveys (hP : ∀ file, Configuration.Visits t.host file → P file)
    (verbosity : Nat) : (configure verbosity).Surveys P t := by
  refine .bind (.of_apply onHost_requireHome fun _ _ _ => rfl) fun _ b hhome => ?_
  rw [onHost_requireHome] at hhome
  obtain ⟨-, rfl⟩ := Prod.mk.inj hhome
  have hvisits : ∀ file, Configuration.Visits (silent t.host) file → P file :=
    fun file hfile => hP file
      (Configuration.visits_amid (s := { t.host.session with log := [] }) hfile)
  refine .bind (onHost_surveys (configuration_surveys hvisits)) fun config b _ => ?_
  refine .bind (.ofExcept _) fun threshold b _ => ?_
  exact .bind (.modify (fun _ => rfl) fun _ _ => rfl) fun _ _ _ => .pure _

theorem ProvisionSettings.check_surveys (p : ProvisionSettings) (t : Terminal) :
    p.check.Surveys P t := by
  by_cases h : p.IsRefused
  · obtain ⟨refusal, hcheck⟩ := check_of_refused h
    have hx : p.check = (do
        .modify fun t => { t with errors := t.errors ++ refusal }
        exit 2 : Shell Unit) := funext hcheck
    rw [hx]
    exact .bind (.modify (fun _ => rfl) fun _ _ => rfl) fun _ _ _ => .fail _
  · exact .of_apply (check_of_accepted h) fun _ _ _ => rfl

theorem ProvisionSettings.projectFor_surveys (p : ProvisionSettings) (config : Mapping)
    (t : Terminal) : (p.projectFor config).Surveys P t := by
  unfold projectFor
  split
  · exact .pure _
  · exact onHost_surveys (Configuration.projectId_surveys _ _)

/-- Preparing is looking around at the paths that finding the configuration visits. -/
theorem prepare_surveys (hP : ∀ file, Configuration.Visits t.host file → P file) (id : String)
    (verbosity : Nat) (p : ProvisionSettings) : (prepare id verbosity p).Surveys P t := by
  refine .bind (.of_apply onHost_requireHome fun _ _ _ => rfl) fun _ b hhome => ?_
  rw [onHost_requireHome] at hhome
  obtain ⟨-, rfl⟩ := Prod.mk.inj hhome
  refine .bind (p.check_surveys t) fun _ b hcheck => ?_
  obtain rfl : t = b := by
    by_cases h : p.IsRefused
    · obtain ⟨refusal, hrefused⟩ := ProvisionSettings.check_of_refused h
      rw [hrefused] at hcheck
      cases hcheck
    · rw [ProvisionSettings.check_of_accepted h] at hcheck
      exact (Prod.mk.inj hcheck).2
  refine .bind (configure_surveys hP verbosity) fun config b _ => ?_
  refine .bind (p.projectFor_surveys config b) fun project b _ => ?_
  split
  · exact .bind (exitWith_surveys _ _ b) fun _ b _ => .bind (.ofExcept _) fun _ _ _ => .pure _
  · exact .bind (.ofExcept _) fun _ _ _ => .pure _

/-- What has been found out where preparing succeeds. -/
theorem prepare_eq_ok {id : String} {verbosity : Nat} {p : ProvisionSettings} {r : Prepared}
    {t t₁ : Terminal} (h : prepare id verbosity p t = (.ok r, t₁)) : ∃ t₂,
      configure verbosity t = (.ok r.config, t₂) ∧
      p.projectFor r.config t₂ = (.ok r.project, t₁) ∧ r.project.isTruthy = true ∧
      p.definition id r.config r.project = .ok r.definition := by
  have haccepted : ¬ p.IsRefused := by
    intro hrefused
    obtain ⟨refusal, hcheck⟩ := ProvisionSettings.check_of_refused hrefused
    rw [prepare, bind_eq_ok_iff] at h
    obtain ⟨_, t₂, -, h⟩ := h
    rw [bind_of_error (hcheck t₂)] at h
    cases h
  rw [prepare, bind_eq_ok_iff] at h
  obtain ⟨_, t₂, hhome, h⟩ := h
  rw [onHost_requireHome] at hhome
  obtain ⟨-, rfl⟩ := Prod.mk.inj hhome
  rw [bind_of_ok (ProvisionSettings.check_of_accepted haccepted t), bind_eq_ok_iff] at h
  obtain ⟨config, t₂, hconfig, h⟩ := h
  rw [bind_eq_ok_iff] at h
  obtain ⟨project, t₃, hproject, h⟩ := h
  cases htruthy : project.isTruthy with
  | false =>
    rw [htruthy] at h
    cases h
  | true =>
    rw [htruthy, Bool.not_true, if_neg Bool.false_ne_true, bind_eq_ok_iff] at h
    obtain ⟨definition, t₄, hdefinition, h⟩ := h
    obtain ⟨hdefined, rfl⟩ := Prod.mk.inj hdefinition
    cases h
    refine ⟨t₂, hconfig, hproject, htruthy, ?_⟩
    rcases hd : p.definition id config project with f | d <;> rw [hd] at hdefined <;> cases hdefined
    rfl

/-- Provision what has been prepared. -/
def Prepared.provision (r : Prepared) : Shell (Outcome Provisioned) := do
  openVault r.config r.project
  inSession
    (TransferBucket.provision (setting r.config "provisioning" "token_lifetime_seconds")
      r.definition)

/-- Write the record of an outcome to a file, if one is asked for. -/
def ProvisionSettings.keep (p : ProvisionSettings) (r : Resource) : Shell Unit := do
  match p.output with
  | none => pure ()
  | some file => do
    let text ← jsonText r.toValue
    onHost (Host.writeText (Path.normalise file) text)
    complain s!"Provisioned resource written to: {file}"

/-- Write and print what was made. -/
def ProvisionSettings.deliver (p : ProvisionSettings) (outcome : Outcome Provisioned) :
    Shell Unit := do
  let made ← contentOf outcome
  p.keep made.resource
  let text ← jsonText (.record [
    ("resource", made.resource.toValue),
    ("token_expiration", .int made.token.expiration)])
  say (String.ofList text)

/-- A provisioning command prepares, provisions and delivers. -/
theorem provisionCommand_eq (id : String) (verbosity : Nat) (p : ProvisionSettings) :
    provisionCommand id verbosity p = (do
      let ready ← prepare id verbosity p
      let outcome ← ready.provision
      p.deliver outcome) := by
  rcases hproject : p.project with _ | project <;> rcases houtput : p.output with _ | file <;>
    simp only [provisionCommand, prepare, Prepared.provision, ProvisionSettings.projectFor,
      ProvisionSettings.deliver, ProvisionSettings.keep, hproject, houtput, bind_assoc, pure_bind]
  · refine bind_congr fun _ => bind_congr fun _ => bind_congr fun _ => bind_congr fun _ => ?_
    split <;> simp only [bind_assoc, pure_bind]
  · refine bind_congr fun _ => bind_congr fun _ => bind_congr fun _ => bind_congr fun _ => ?_
    split <;> simp only [bind_assoc, pure_bind]
  · refine bind_congr fun _ => bind_congr fun _ => bind_congr fun _ => ?_
    split <;> simp only [bind_assoc, pure_bind]
  · refine bind_congr fun _ => bind_congr fun _ => bind_congr fun _ => ?_
    split <;> simp only [bind_assoc, pure_bind]

/-! ## Delivering -/

/-- What is printed of a provisioning: the record, and the time at which the token ends. -/
def announcement (made : Provisioned) : Value :=
  .record [("resource", made.resource.toValue), ("token_expiration", .int made.token.expiration)]

/-- The files after a record was kept, if it was to be. -/
def ProvisionSettings.Kept (p : ProvisionSettings) (r : Resource) (fs fs' : FileSystem) : Prop :=
  match p.output with
  | none => fs' = fs
  | some file => ∃ text, Json.encode (.indented 2) r.toValue = .ok text ∧
    fs.writeBytes (Path.normalise file) (Utf8.encode text) = .ok fs'

/-- An ending that is a failure of the command, and not a wrong use. -/
def Ending.IsFailure (e : Ending) : Prop := e = .exit 1 ∨ ∃ f, e = .failure f

theorem writeText_cases (path : String) (text : List Char) (h : Host) :
    (∃ files, h.files.writeBytes path (Utf8.encode text) = .ok files ∧
      Host.writeText path text h = (.ok (), { h with files })) ∨
    ∃ e, Host.writeText path text h = (.error e, h) := by
  unfold Host.writeText
  by_cases hnull : path.toList.contains '\x00' = true
  · rw [if_pos hnull]
    exact Or.inr ⟨_, rfl⟩
  · rw [if_neg hnull]
    rcases hwrite : h.files.writeBytes path (Utf8.encode text) with e | files
    · refine Or.inr ⟨.file e, ?_⟩
      dsimp only
      rw [bind_of_ok (read_apply _ h), hwrite]
      rfl
    · refine Or.inl ⟨files, rfl, ?_⟩
      dsimp only
      rw [bind_of_ok (read_apply _ h), hwrite]
      rfl

/-- Keeping a record writes the file that was asked for, or fails and writes nothing. -/
theorem ProvisionSettings.keep_cases (p : ProvisionSettings) (r : Resource) (t : Terminal) :
    (∃ files errors, p.Kept r t.host.files files ∧
      p.keep r t = (.ok (), { t with host := { t.host with files }, errors })) ∨
    ∃ e, Ending.IsFailure e ∧ p.keep r t = (.error e, t) := by
  unfold keep Kept
  rcases p.output with _ | file
  · exact Or.inl ⟨_, _, rfl, rfl⟩
  · rcases hencode : Json.encode (.indented 2) r.toValue with o | text
    · refine Or.inr ⟨.failure (.ofObstacle o), Or.inr ⟨_, rfl⟩, ?_⟩
      have hjson : jsonText r.toValue t = (.error (.failure (.ofObstacle o)), t) := by
        rw [jsonText, hencode]
        rfl
      exact bind_of_error hjson
    · have hjson : jsonText r.toValue t = (.ok text, t) := by
        rw [jsonText, hencode]
        rfl
      dsimp only
      rw [bind_of_ok hjson]
      have hlog : t.host.session.log ++ [] = t.host.session.log := List.append_nil _
      have herrors : t.errors ++ shown t.threshold [] = t.errors := String.append_empty
      rcases writeText_cases (Path.normalise file) text (silent t.host) with
        ⟨files, hwrite, hrun⟩ | ⟨e, hrun⟩
      · have hhost : onHost (Host.writeText (Path.normalise file) text) t =
            (.ok (), { t with host := { t.host with files } }) := by
          rw [onHost_apply, hrun]
          dsimp only [silent]
          rw [hlog, herrors]
          rfl
        refine Or.inl ⟨files, t.errors ++ s!"Provisioned resource written to: {file}" ++ "\n",
          ⟨text, rfl, hwrite⟩, ?_⟩
        rw [bind_of_ok hhost]
        rfl
      · refine Or.inr ⟨.failure e, Or.inr ⟨e, rfl⟩, bind_of_error ?_⟩
        rw [onHost_apply, hrun]
        dsimp only [silent]
        rw [hlog, herrors]
        rfl

theorem contentOf_cases (o : Outcome α) (t : Terminal) :
    (∃ content, o.content = some content ∧ contentOf o t = (.ok content, t)) ∨
    ∃ e errors, Ending.IsFailure e ∧ contentOf o t = (.error e, { t with errors }) := by
  unfold contentOf
  rcases o.content with _ | content
  · refine Or.inr ?_
    rcases hdetail : o.detail with e | detail
    · exact ⟨.failure e, t.errors, Or.inr ⟨e, rfl⟩, rfl⟩
    · exact ⟨.exit 1, _, Or.inl rfl, rfl⟩
  · exact Or.inl ⟨content, rfl, rfl⟩

/-- A record that can be written can be printed with a number beside it. -/
theorem encode_announcement {made : Provisioned} {l : Json.Layout}
    (hnumber : isWritable made.token.expiration) {text : List Char}
    (h : Json.encode l made.resource.toValue = .ok text) :
    ∃ text', Json.encode l (announcement made) = .ok text' := by
  have hnone : Json.obstacle? made.resource.toValue = none := by
    unfold Json.encode at h
    split at h
    · cases h
    · assumption
  have hall : Json.obstacle? (announcement made) = none := by
    simp [announcement, Value.record, Json.obstacle?, Json.entryObstacle?, Json.keyObstacle?,
      Json.numberObstacle?, hnone, hnumber]
  exact ⟨_, by rw [Json.encode, hall]⟩

/-- Delivering prints what was made, or fails and prints and writes nothing. -/
theorem ProvisionSettings.deliver_cases (p : ProvisionSettings) {o : Outcome Provisioned}
    (hnumber : ∀ made, o.content = some made → isWritable made.token.expiration) (t : Terminal) :
    (∃ made text files errors, o.content = some made ∧
      Json.encode (.indented 2) (announcement made) = .ok text ∧
      p.Kept made.resource t.host.files files ∧
      p.deliver o t = (.ok (), { t with
        host := { t.host with files }
        output := t.output ++ String.ofList text ++ "\n"
        errors })) ∨
    ∃ e errors, Ending.IsFailure e ∧ p.deliver o t = (.error e, { t with errors }) := by
  unfold deliver
  rcases contentOf_cases o t with ⟨made, hmade, hcontent⟩ | ⟨e, errors, he, hcontent⟩
  · rw [bind_of_ok hcontent]
    rcases p.keep_cases made.resource t with ⟨files, errors, hkept, hkeep⟩ | ⟨e, he, hkeep⟩
    · rw [bind_of_ok hkeep]
      rcases hencode : Json.encode (.indented 2) (announcement made) with o | text
      · -- where a record was written to a file, it can be printed as well
        have hnone : p.output = none := by
          rcases houtput : p.output with _ | file
          · rfl
          · rw [Kept, houtput] at hkept
            obtain ⟨text, htext, -⟩ := hkept
            obtain ⟨text', htext'⟩ := encode_announcement (hnumber made hmade) htext
            rw [hencode] at htext'
            cases htext'
        rw [Kept, hnone] at hkept
        obtain rfl : files = t.host.files := hkept
        refine Or.inr ⟨.failure (.ofObstacle o), errors, Or.inr ⟨_, rfl⟩, bind_of_error ?_⟩
        change jsonText (announcement made) _ = _
        rw [jsonText, hencode]
        rfl
      · refine Or.inl ⟨made, text, files, errors, hmade, hencode, hkept, ?_⟩
        have hjson : ∀ t' : Terminal, jsonText (announcement made) t' = (.ok text, t') := by
          intro t'
          rw [jsonText, hencode]
          rfl
        exact bind_of_ok (hjson _)
    · exact Or.inr ⟨e, t.errors, he, bind_of_error hkeep⟩
  · exact Or.inr ⟨e, errors, he, bind_of_error hcontent⟩

/-! ## What delivering looks at -/

/-- Two terminals with the same texts and the same files. -/
structure Terminal.LooksLike (t t' : Terminal) : Prop where
  output : t'.output = t.output
  errors : t'.errors = t.errors
  threshold : t'.threshold = t.threshold
  files : t'.host.files = t.host.files

/-- A change of the texts that does not look at the host. -/
theorem modify_steady {f : Terminal → Terminal}
    (h : ∀ t t', t.LooksLike t' → (f t).LooksLike (f t')) :
    Steady Terminal.LooksLike (.modify f : Shell Unit) := Coupled.modify h

theorem complain_steady (line : String) : Steady Terminal.LooksLike (complain line) :=
  modify_steady fun t t' h => { h with
    errors := by
      change t'.errors ++ line ++ "\n" = t.errors ++ line ++ "\n"
      rw [h.errors] }

theorem say_steady (line : String) : Steady Terminal.LooksLike (say line) :=
  modify_steady fun t t' h => { h with
    output := by
      change t'.output ++ line ++ "\n" = t.output ++ line ++ "\n"
      rw [h.output] }

/-- Two hosts with the same files and messages. -/
def SameFiles (h h' : Host) : Prop :=
  h'.files = h.files ∧ h'.session.log = h.session.log

theorem writeText_steady (path : String) (text : List Char) :
    Steady SameFiles (Host.writeText path text) := by
  unfold Host.writeText
  split
  · -- a failure is all that is left of what it begins
    exact Coupled.fail (Failure.value .nullByte)
  · refine Steady.bind (Steady.read fun h h' hh => by rw [hh.1]) fun written => ?_
    split
    · exact .fail _
    · exact Coupled.modify fun h h' hh => ⟨rfl, hh.2⟩

theorem onHost_steady {x : Action Host Failure α} (hx : Steady SameFiles x) :
    Steady Terminal.LooksLike (onHost x) := by
  intro t t' h
  obtain ⟨hend, hfiles, hlog⟩ := hx (silent t.host) (silent t'.host) ⟨h.files, rfl⟩
  rw [onHost_apply, onHost_apply]
  refine ⟨hend.mapError _, ⟨h.output, ?_, h.threshold, hfiles⟩⟩
  dsimp only
  rw [h.errors, h.threshold, hlog]

/-- Delivering looks at the files and at what was said, and at nothing else. -/
theorem ProvisionSettings.deliver_steady (p : ProvisionSettings) (o : Outcome Provisioned) :
    Steady Terminal.LooksLike (p.deliver o) := by
  unfold deliver
  refine Steady.bind ?_ fun made => Steady.bind ?_ fun _ => ?_
  · unfold contentOf
    split
    · exact .pure rfl
    · exact Steady.bind (Steady.ofExcept _) fun _ =>
        Steady.bind (complain_steady _) fun _ => .fail _
  · unfold keep
    split
    · exact .pure rfl
    · refine Steady.bind (Steady.ofExcept _) fun text => ?_
      exact Steady.bind (onHost_steady (writeText_steady _ _)) fun _ => complain_steady _
  · exact Steady.bind (Steady.ofExcept _) fun text => say_steady _

end TransferBucket.CommandLine
