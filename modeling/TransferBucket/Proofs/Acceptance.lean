import TransferBucket.Proofs.PreferenceMap
import TransferBucket.Proofs.Settings

/-!
# Which configurations are accepted

**Theorem (`accepted_and_completed`).** Take any value that the configuration file holds. It is
loaded if it is acceptable (`IsAcceptable`) and a message can show its project. What comes of it is
completed (`IsCompleted`): the two sections are filled up with defaults, and all else is as it was.
Otherwise it is refused, unless a message is to show a number with too many digits (`Shows`). This
is for key files that are named by texts.

**Theorem (`refused_or_escapes`).** Whatever the key file is named by, loading ends in a
configuration, a refusal, or what escapes (`Escapes`): besides the numbers that are too long these
are the values that are no path at all (`IsNoPath`). All that can escape does.

The checks stand in one sequence, and the first that fails decides. When each of them is passed, and
when it ends otherwise than by a refusal, is said one by one (in `Settings`); the theorems go along
the sequence with these.
-/

namespace TransferBucket.Configuration

open Host TransferBucket.Action

variable {h b : Host} {file : String} {v : Value}

/-! ## Loading -/

/-- The value that a file holds. -/
def valueOf (files : FileSystem) (file : String) : Except Failure Value :=
  match files.readBytes file with
  | .error p => .error (.config (.unreadable file p))
  | .ok bytes =>
    match Yaml.decode (Yaml.Input.ofBytes bytes) with
    | .ok v => .ok v
    | .error .malformed => .error (.config (.unparsable file))
    | .error (.failure e) => .error e

/-- The configuration that a value makes. In the end the project is shown in a message. -/
def checked (files : FileSystem) (file : String) (v : Value) : Except Failure Mapping := do
  let config ← ofValue files file v
  let project ← projectSection file config
  let _ ← (Value.field "project_id" project).wording
  pure config

theorem read_eq (file : String) (h : Host) : read file h = (valueOf h.files file, h) := by
  simp only [read, bind_apply, mapError_apply, readBytes_apply, valueOf]
  rcases h.files.readBytes file with p | bytes
  · rfl
  · dsimp only [Except.mapError]
    rcases Yaml.decode (Yaml.Input.ofBytes bytes) with ⟨_ | _⟩ | v <;> rfl

theorem files_of_path {r : Except Failure String} (hpath : path h = (r, b)) :
    b.files = h.files := by
  have hspec := (path_surveys (P := fun _ => True) (h := h) fun _ _ => trivial).host_spec
  rw [hpath] at hspec
  exact hspec.1

/-- **Loading** is finding the file, reading its value and checking it. -/
theorem load_fst (h : Host) : (load h).1 =
    (path h).1.bind fun file => (valueOf h.files file).bind (checked h.files file) := by
  rcases hpath : path h with ⟨e | file, b⟩
  · rw [load, bind_of_error hpath]
    rfl
  · rw [load, bind_of_ok hpath, ← files_of_path hpath]
    simp only [bind_apply, read_eq, read_apply, ofExcept_apply, Except.bind]
    rcases valueOf b.files file with e | v
    · rfl
    · simp only [checked, bind, Except.bind]
      rcases ofValue b.files file v with e | config
      · rfl
      · dsimp only
        rcases projectSection file config with e | project
        · rfl
        · dsimp only
          rcases (Value.field "project_id" project).wording with e | shown <;> rfl

/-! ## The checks together -/

/-- A configuration names a project. -/
def NamesProject (m : Mapping) (id : Value) : Prop :=
  ∃ project, Value.field? "gcp" m = some (.mapping project) ∧
    Value.field? "project_id" project = some id

/-- A configuration is acceptable; `given` and `logged` are what it gives on provisioning and on
messages. -/
structure IsAcceptable (files : FileSystem) (m : Mapping) (id : Value) (given logged : Mapping) :
    Prop where
  project : NamesProject m id
  authentication : Authenticates files (Value.field? "authentication" m)
  provisioning : Gives m "provisioning" given
  workers : IsPositiveSetting given "max_workers"
  lifetime : IsPositiveSetting given "token_lifetime_seconds"
  vault : IsVaultSetting given
  logging : Gives m "logging" logged

/-- A configuration is completed: its two sections are filled up, and all else is as it was. -/
structure IsCompleted (m given logged config : Mapping) : Prop where
  distinct : Value.DistinctKeys config
  entries : ∃ provisioning logging, IsFilled provisioningDefaults given provisioning ∧
    IsFilled loggingDefaults logged logging ∧
    ∀ e, e ∈ config ↔ e = (.text "provisioning", .mapping provisioning) ∨
      e = (.text "logging", .mapping logging) ∨
      e ∈ m ∧ e.1 ≠ .text "provisioning" ∧ e.1 ≠ .text "logging"

/-- The values that loading comes to show in a message: one that a check refuses, where the checks
before are passed, and the project in the end. -/
inductive Shows (files : FileSystem) (m : Mapping) : Value → Prop
  | authenticationType {id t : Value} {a : Mapping} (hproject : NamesProject m id)
    (hauth : Value.field? "authentication" m = some (.mapping a))
    (htype : Value.field? "type" a = some t) (hne : t ≠ .text "service_account") :
    Shows files m t
  | workers {id : Value} {given : Mapping} (hproject : NamesProject m id)
    (hauth : Authenticates files (Value.field? "authentication" m))
    (hgiven : Gives m "provisioning" given) (hno : ¬ IsPositiveSetting given "max_workers") :
    Shows files m (setting provisioningDefaults given "max_workers")
  | lifetime {id : Value} {given : Mapping} (hproject : NamesProject m id)
    (hauth : Authenticates files (Value.field? "authentication" m))
    (hgiven : Gives m "provisioning" given) (hworkers : IsPositiveSetting given "max_workers")
    (hno : ¬ IsPositiveSetting given "token_lifetime_seconds") :
    Shows files m (setting provisioningDefaults given "token_lifetime_seconds")
  | vault {id : Value} {given : Mapping} (hproject : NamesProject m id)
    (hauth : Authenticates files (Value.field? "authentication" m))
    (hgiven : Gives m "provisioning" given) (hworkers : IsPositiveSetting given "max_workers")
    (hlifetime : IsPositiveSetting given "token_lifetime_seconds") (hno : ¬ IsVaultSetting given) :
    Shows files m (setting provisioningDefaults given "vault")
  | project {id : Value} {given logged : Mapping} (h : IsAcceptable files m id given logged) :
    Shows files m id

/-- What loading ends in other than a configuration or its refusal: a number that it comes to show
is too long, or the path of the key file is none at all. -/
inductive Escapes (files : FileSystem) (m : Mapping) : Failure → Prop
  | long {w : Value} (hshows : Shows files m w) (hlong : w.isSpellable = false) :
    Escapes files m (.value .longNumber)
  | path {id p : Value} {a : Mapping} {e : Failure} (hproject : NamesProject m id)
    (hauth : Value.field? "authentication" m = some (.mapping a))
    (htype : Value.field? "type" a = some (.text "service_account"))
    (hpath : Value.field? "service_account_path" a = some p) (hno : IsNoPath p e) :
    Escapes files m e

section Checks

variable {files : FileSystem} {m given logged config project provisioning logging : Mapping}
  {id : Value} {e : Failure}

theorem topLevel_eq_ok_iff : topLevel file v = .ok m ↔ v = .mapping m ∧ m ≠ [] := by
  constructor
  · intro h
    unfold topLevel at h
    split_ifs at h with hv
    split at h <;> cases h
    refine ⟨rfl, ?_⟩
    rintro rfl
    cases hv
  · rintro ⟨rfl, hne⟩
    cases m with
    | nil => exact absurd rfl hne
    | cons e rest => rfl

theorem config_of_topLevel (h : topLevel file v = .error e) : ∃ p, e = .config p := by
  unfold topLevel at h
  split_ifs at h
  · split at h <;> cases h
    exact ⟨_, rfl⟩
  · cases h
    exact ⟨_, rfl⟩

theorem projectSection_eq_ok_iff :
    projectSection file m = .ok project ↔ Value.field? "gcp" m = some (.mapping project) := by
  rw [projectSection]
  split
  · next h => rw [h, Except.ok.injEq, Option.some.injEq, Value.mapping.injEq]
  · next hother => exact iff_of_false nofun fun h => hother project h

theorem config_of_projectSection (h : projectSection file m = .error e) : ∃ p, e = .config p := by
  rw [projectSection] at h
  split at h <;> cases h
  exact ⟨_, rfl⟩

theorem checkProject_eq_ok_iff :
    checkProject project = .ok () ↔ ∃ id, Value.field? "project_id" project = some id := by
  rw [checkProject]
  rcases Value.field? "project_id" project with _ | id
  · exact iff_of_false nofun nofun
  · exact iff_of_true rfl ⟨id, rfl⟩

theorem config_of_checkProject (h : checkProject project = .error e) : ∃ p, e = .config p := by
  rw [checkProject] at h
  split at h <;> cases h
  exact ⟨_, rfl⟩

theorem field_merge (hv : (Value.mapping m).KeysApart) (hgiven : Gives m "provisioning" given)
    (name : String) : Value.field name (merge provisioningDefaults given) =
      setting provisioningDefaults given name :=
  (isFilled_merge areDefaults_provisioning (hgiven.distinctKeys hv)).field areDefaults_provisioning
    (hgiven.distinctKeys hv) name

theorem ofValue_of_namesProject (hproject : NamesProject m id) :
    ofValue files file (.mapping m) = (do
      checkAuthentication files (Value.field? "authentication" m)
      let provisioning ← filled m "provisioning" provisioningDefaults
      checkPositive provisioning "max_workers"
      checkPositive provisioning "token_lifetime_seconds"
      checkVault provisioning
      let logging ← filled m "logging" loggingDefaults
      pure (withSections m provisioning logging)) := by
  obtain ⟨project, hsection, hid⟩ := hproject
  have hne : m ≠ [] := by
    rintro rfl
    cases hsection
  rw [ofValue, Except.bind_of_ok (topLevel_eq_ok_iff.2 ⟨rfl, hne⟩),
    Except.bind_of_ok (projectSection_eq_ok_iff.2 hsection),
    Except.bind_of_ok (checkProject_eq_ok_iff.2 ⟨id, hid⟩)]

theorem ofValue_of_gives (hproject : NamesProject m id)
    (hauth : Authenticates files (Value.field? "authentication" m))
    (hgiven : Gives m "provisioning" given) :
    ofValue files file (.mapping m) = (do
      checkPositive (merge provisioningDefaults given) "max_workers"
      checkPositive (merge provisioningDefaults given) "token_lifetime_seconds"
      checkVault (merge provisioningDefaults given)
      let logging ← filled m "logging" loggingDefaults
      pure (withSections m (merge provisioningDefaults given) logging)) := by
  rw [ofValue_of_namesProject hproject,
    Except.bind_of_ok (checkAuthentication_eq_ok_iff.2 hauth),
    Except.bind_of_ok (filled_eq_ok_iff.2 ⟨given, hgiven, rfl⟩)]

/-- A value is refused, or it is a configuration that names a project. -/
theorem refused_or_namesProject (files : FileSystem) (file : String) (v : Value) :
    (∃ p, ofValue files file v = .error (.config p)) ∨
      ∃ m id, v = .mapping m ∧ NamesProject m id := by
  rcases htop : topLevel file v with e | m
  · obtain ⟨p, rfl⟩ := config_of_topLevel htop
    exact Or.inl ⟨p, Except.bind_of_error htop⟩
  rcases hsection : projectSection file m with e | project
  · obtain ⟨p, rfl⟩ := config_of_projectSection hsection
    exact Or.inl ⟨p, (Except.bind_of_ok htop).trans (Except.bind_of_error hsection)⟩
  rcases hid : checkProject project with e | _
  · obtain ⟨p, rfl⟩ := config_of_checkProject hid
    refine Or.inl ⟨p, ?_⟩
    rw [ofValue, Except.bind_of_ok htop, Except.bind_of_ok hsection, Except.bind_of_error hid]
  · obtain ⟨id, hid⟩ := checkProject_eq_ok_iff.1 hid
    exact Or.inr ⟨m, id, (topLevel_eq_ok_iff.1 htop).1, project,
      projectSection_eq_ok_iff.1 hsection, hid⟩

theorem ofValue_eq_ok_iff (hv : v.KeysApart) : ofValue files file v = .ok config ↔
    ∃ m id given logged, v = .mapping m ∧ IsAcceptable files m id given logged ∧
      config =
        withSections m (merge provisioningDefaults given) (merge loggingDefaults logged) := by
  constructor
  · intro h
    rcases refused_or_namesProject files file v with ⟨p, hp⟩ | ⟨m, id, rfl, hproject⟩
    · rw [hp] at h
      cases h
    rw [ofValue_of_namesProject hproject] at h
    obtain ⟨_, hauth, h⟩ := Except.bind_eq_ok_iff.1 h
    obtain ⟨provisioning, hprovisioning, h⟩ := Except.bind_eq_ok_iff.1 h
    obtain ⟨given, hgiven, rfl⟩ := filled_eq_ok_iff.1 hprovisioning
    obtain ⟨_, hworkers, h⟩ := Except.bind_eq_ok_iff.1 h
    obtain ⟨_, hlifetime, h⟩ := Except.bind_eq_ok_iff.1 h
    obtain ⟨_, hvault, h⟩ := Except.bind_eq_ok_iff.1 h
    obtain ⟨logging, hlogging, h⟩ := Except.bind_eq_ok_iff.1 h
    obtain ⟨logged, hlogged, rfl⟩ := filled_eq_ok_iff.1 hlogging
    cases h
    have hsetting := field_merge hv hgiven
    exact ⟨m, id, given, logged, rfl, ⟨hproject, checkAuthentication_eq_ok_iff.1 hauth, hgiven,
      (checkPositive_eq_ok_iff (hsetting _)).1 hworkers,
      (checkPositive_eq_ok_iff (hsetting _)).1 hlifetime,
      (checkVault_eq_ok_iff (hsetting _)).1 hvault, hlogged⟩, rfl⟩
  · rintro ⟨m, id, given, logged, rfl, h, rfl⟩
    have hsetting := field_merge hv h.provisioning
    rw [ofValue_of_gives h.project h.authentication h.provisioning,
      Except.bind_of_ok ((checkPositive_eq_ok_iff (hsetting _)).2 h.workers),
      Except.bind_of_ok ((checkPositive_eq_ok_iff (hsetting _)).2 h.lifetime),
      Except.bind_of_ok ((checkVault_eq_ok_iff (hsetting _)).2 h.vault),
      Except.bind_of_ok (filled_eq_ok_iff.2 ⟨logged, h.logging, rfl⟩)]
    rfl

theorem projectId_withSections (hproject : NamesProject m id) (file : String)
    (provisioning logging : Mapping) : ∃ project,
      projectSection file (withSections m provisioning logging) = .ok project ∧
        Value.field "project_id" project = id := by
  obtain ⟨project, hsection, hid⟩ := hproject
  refine ⟨project, projectSection_eq_ok_iff.2 ?_, ?_⟩
  · rw [withSections, Value.field?_insert, if_neg (by decide), Value.field?_insert,
      if_neg (by decide), hsection]
  · rw [Value.field, hid]
    rfl

theorem checked_of_isAcceptable (hv : (Value.mapping m).KeysApart)
    (h : IsAcceptable files m id given logged) : checked files file (.mapping m) =
      id.wording.map fun _ =>
        withSections m (merge provisioningDefaults given) (merge loggingDefaults logged) := by
  obtain ⟨project, hsection, rfl⟩ := projectId_withSections h.project file
    (merge provisioningDefaults given) (merge loggingDefaults logged)
  rw [checked, Except.bind_of_ok ((ofValue_eq_ok_iff hv).2 ⟨m, _, given, logged, rfl, h, rfl⟩),
    Except.bind_of_ok hsection]
  rcases (Value.field "project_id" project).wording with e | shown <;> rfl

/-- **What is accepted.** -/
theorem checked_eq_ok_iff (hv : v.KeysApart) : checked files file v = .ok config ↔
    ∃ m id given logged, v = .mapping m ∧ IsAcceptable files m id given logged ∧ id.isSpellable ∧
      config =
        withSections m (merge provisioningDefaults given) (merge loggingDefaults logged) := by
  constructor
  · intro h
    obtain ⟨config', hconfig, -⟩ := Except.bind_eq_ok_iff.1 h
    obtain ⟨m, id, given, logged, rfl, hacceptable, -⟩ := (ofValue_eq_ok_iff hv).1 hconfig
    rw [checked_of_isAcceptable hv hacceptable, Value.wording] at h
    split_ifs at h with hspellable <;> cases h
    exact ⟨m, id, given, logged, rfl, hacceptable, hspellable, rfl⟩
  · rintro ⟨m, id, given, logged, rfl, h, hspellable, rfl⟩
    rw [checked_of_isAcceptable hv h, Value.wording, if_pos hspellable]
    rfl

theorem escapes_of_ofValue (hv : (Value.mapping m).KeysApart) (he : ∀ p, e ≠ .config p)
    (hproject : NamesProject m id) (h : ofValue files file (.mapping m) = .error e) :
    Escapes files m e := by
  -- each check either fails, which settles the matter, or is passed, and the next one is asked
  rw [ofValue_of_namesProject hproject] at h
  rcases Except.bind_eq_error_iff.1 h with h | ⟨_, hauth, h⟩
  · obtain ⟨a, t, ha, htype, ⟨hne, hlong, rfl⟩ | ⟨rfl, p, hpath, hno⟩⟩ :=
      (checkAuthentication_eq_error_iff he).1 h
    · exact .long (.authenticationType hproject ha htype hne) hlong
    · exact .path hproject ha htype hpath hno
  replace hauth := checkAuthentication_eq_ok_iff.1 hauth
  rcases Except.bind_eq_error_iff.1 h with h | ⟨provisioning, hprovisioning, h⟩
  · obtain ⟨p, rfl⟩ := config_of_filled h
    exact absurd rfl (he p)
  obtain ⟨given, hgiven, rfl⟩ := filled_eq_ok_iff.1 hprovisioning
  have hsetting := field_merge hv hgiven
  rcases Except.bind_eq_error_iff.1 h with h | ⟨_, hworkers, h⟩
  · obtain ⟨hno, hlong, rfl⟩ := (checkPositive_eq_error_iff he (hsetting _)).1 h
    exact .long (.workers hproject hauth hgiven hno) hlong
  replace hworkers := (checkPositive_eq_ok_iff (hsetting _)).1 hworkers
  rcases Except.bind_eq_error_iff.1 h with h | ⟨_, hlifetime, h⟩
  · obtain ⟨hno, hlong, rfl⟩ := (checkPositive_eq_error_iff he (hsetting _)).1 h
    exact .long (.lifetime hproject hauth hgiven hworkers hno) hlong
  replace hlifetime := (checkPositive_eq_ok_iff (hsetting _)).1 hlifetime
  rcases Except.bind_eq_error_iff.1 h with h | ⟨_, hvault, h⟩
  · obtain ⟨hno, hlong, rfl⟩ := (checkVault_eq_error_iff he (hsetting _)).1 h
    exact .long (.vault hproject hauth hgiven hworkers hlifetime hno) hlong
  rcases Except.bind_eq_error_iff.1 h with h | ⟨logging, -, h⟩
  · obtain ⟨p, rfl⟩ := config_of_filled h
    exact absurd rfl (he p)
  · cases h

theorem checked_of_shows {w : Value} (hv : (Value.mapping m).KeysApart) (h : Shows files m w)
    (hlong : w.isSpellable = false) :
    checked files file (.mapping m) = .error (.value .longNumber) := by
  have he (p : ConfigProblem) : Failure.value .longNumber ≠ .config p := nofun
  cases h with
  | authenticationType hproject ha htype hne =>
    have hfail : checkAuthentication files (Value.field? "authentication" m) =
        .error (.value .longNumber) := (checkAuthentication_eq_error_iff he).2
      ⟨_, _, ha, htype, Or.inl ⟨hne, hlong, rfl⟩⟩
    rw [checked, ofValue_of_namesProject hproject, Except.bind_of_error hfail]
    rfl
  | workers hproject hauth hgiven hno =>
    have hsetting := field_merge hv hgiven
    rw [checked, ofValue_of_gives hproject hauth hgiven,
      Except.bind_of_error ((checkPositive_eq_error_iff he (hsetting _)).2 ⟨hno, hlong, rfl⟩)]
    rfl
  | lifetime hproject hauth hgiven hworkers hno =>
    have hsetting := field_merge hv hgiven
    rw [checked, ofValue_of_gives hproject hauth hgiven,
      Except.bind_of_ok ((checkPositive_eq_ok_iff (hsetting _)).2 hworkers),
      Except.bind_of_error ((checkPositive_eq_error_iff he (hsetting _)).2 ⟨hno, hlong, rfl⟩)]
    rfl
  | vault hproject hauth hgiven hworkers hlifetime hno =>
    have hsetting := field_merge hv hgiven
    rw [checked, ofValue_of_gives hproject hauth hgiven,
      Except.bind_of_ok ((checkPositive_eq_ok_iff (hsetting _)).2 hworkers),
      Except.bind_of_ok ((checkPositive_eq_ok_iff (hsetting _)).2 hlifetime),
      Except.bind_of_error ((checkVault_eq_error_iff he (hsetting _)).2 ⟨hno, hlong, rfl⟩)]
    rfl
  | project h =>
    rw [checked_of_isAcceptable hv h, Value.wording, hlong]
    rfl

/-- **What escapes.** -/
theorem checked_eq_error_iff (hv : v.KeysApart) (he : ∀ p, e ≠ .config p) :
    checked files file v = .error e ↔ ∃ m, v = .mapping m ∧ Escapes files m e := by
  constructor
  · intro h
    rcases refused_or_namesProject files file v with ⟨p, hp⟩ | ⟨m, id, rfl, hproject⟩
    · rw [checked, Except.bind_of_error hp] at h
      exact absurd (Except.error.inj h).symm (he p)
    refine ⟨m, rfl, ?_⟩
    rcases Except.bind_eq_error_iff.1 h with hfail | ⟨config, hconfig, -⟩
    · exact escapes_of_ofValue hv he hproject hfail
    · obtain ⟨_, id, given, logged, ⟨⟩, hacceptable, -⟩ := (ofValue_eq_ok_iff hv).1 hconfig
      rw [checked_of_isAcceptable hv hacceptable, Value.wording] at h
      split_ifs at h with hspellable <;> cases h
      exact .long (.project hacceptable) (Bool.eq_false_iff.2 hspellable)
  · rintro ⟨m, rfl, h⟩
    cases h with
    | long hshows hlong => exact checked_of_shows hv hshows hlong
    | path hproject ha htype hpath hno =>
      have hfail : checkAuthentication files (Value.field? "authentication" m) = .error e :=
        (checkAuthentication_eq_error_iff he).2 ⟨_, _, ha, htype, Or.inr ⟨rfl, _, hpath, hno⟩⟩
      rw [checked, ofValue_of_namesProject hproject, Except.bind_of_error hfail]
      rfl

theorem Escapes.ne_config (h : Escapes files m e) (p : ConfigProblem) : e ≠ .config p := by
  rintro rfl
  cases h with
  | path _ _ _ _ hno => cases hno

theorem isCompleted_withSections (hv : (Value.mapping m).KeysApart)
    (h : IsAcceptable files m id given logged) :
    IsCompleted m given logged
      (withSections m (merge provisioningDefaults given) (merge loggingDefaults logged)) := by
  have hm := hv.distinctKeys
  refine ⟨(hm.insert _ _).insert _ _, _, _,
    isFilled_merge areDefaults_provisioning (h.provisioning.distinctKeys hv),
    isFilled_merge areDefaults_logging (h.logging.distinctKeys hv), fun e => ?_⟩
  rw [withSections, Value.mem_insert_text_iff (hm.insert _ _), Value.mem_insert_text_iff hm]
  constructor
  · rintro (rfl | ⟨rfl | ⟨hmem, hprovisioning⟩, hlogging⟩)
    · exact Or.inr (Or.inl rfl)
    · exact Or.inl rfl
    · exact Or.inr (Or.inr ⟨hmem, hprovisioning, hlogging⟩)
  · rintro (rfl | rfl | ⟨hmem, hprovisioning, hlogging⟩)
    · exact Or.inr ⟨Or.inl rfl, by simp⟩
    · exact Or.inl rfl
    · exact Or.inr ⟨Or.inr ⟨hmem, hprovisioning⟩, hlogging⟩

end Checks

/-! ## Loading a configuration -/

theorem keysApart_of_valueOf {files : FileSystem} (h : valueOf files file = .ok v) :
    v.KeysApart := by
  rw [valueOf] at h
  split at h
  · cases h
  · split at h <;> cases h
    next hdecode => exact Yaml.keysApart_of_decode hdecode

theorem load_of_read (hpath : (path h).1 = .ok file) (hread : (read file h).1 = .ok v) :
    (load h).1 = checked h.files file v ∧ v.KeysApart := by
  rw [read_eq] at hread
  refine ⟨?_, keysApart_of_valueOf hread⟩
  rw [load_fst, hpath]
  exact congrArg (fun r => r.bind (checked h.files file)) hread

/-- **Acceptance and completion.** -/
theorem accepted_and_completed (hpath : (path h).1 = .ok file) (hread : (read file h).1 = .ok v)
    (htext : ∀ m a p, v = .mapping m → Value.field? "authentication" m = some (.mapping a) →
      Value.field? "service_account_path" a = some p → ∃ s, p = .text s) :
    ((∃ config, (load h).1 = .ok config) ↔ ∃ m id given logged, v = .mapping m ∧
      IsAcceptable h.files m id given logged ∧ id.isSpellable) ∧
    (∀ config, (load h).1 = .ok config → ∃ m id given logged, v = .mapping m ∧
      IsAcceptable h.files m id given logged ∧ IsCompleted m given logged config) ∧
    (∀ e, (load h).1 = .error e → (∃ p, e = .config p) ∨ e = .value .longNumber) ∧
    ((load h).1 = .error (.value .longNumber) ↔
      ∃ m w, v = .mapping m ∧ Shows h.files m w ∧ w.isSpellable = false) := by
  obtain ⟨hload, hv⟩ := load_of_read hpath hread
  rw [hload]
  refine ⟨⟨?_, ?_⟩, ?_, ?_, ?_, ?_⟩
  · rintro ⟨config, hconfig⟩
    obtain ⟨m, id, given, logged, hm, hacceptable, hspellable, -⟩ :=
      (checked_eq_ok_iff hv).1 hconfig
    exact ⟨m, id, given, logged, hm, hacceptable, hspellable⟩
  · rintro ⟨m, id, given, logged, hm, hacceptable, hspellable⟩
    exact ⟨_, (checked_eq_ok_iff hv).2 ⟨m, id, given, logged, hm, hacceptable, hspellable, rfl⟩⟩
  · intro config hconfig
    obtain ⟨m, id, given, logged, rfl, hacceptable, -, rfl⟩ := (checked_eq_ok_iff hv).1 hconfig
    exact ⟨m, id, given, logged, rfl, hacceptable, isCompleted_withSections hv hacceptable⟩
  · intro e hfail
    refine or_iff_not_imp_left.2 fun he => ?_
    obtain ⟨m, rfl, hescapes⟩ := (checked_eq_error_iff hv (not_exists.1 he)).1 hfail
    cases hescapes with
    | long => rfl
    | path _ hauth _ hkey hno =>
      -- a text is always a path
      obtain ⟨s, rfl⟩ := htext m _ _ rfl hauth hkey
      cases hno with
      | kind h => exact absurd List.mem_cons_self h
  · intro hfail
    obtain ⟨m, rfl, hescapes⟩ := (checked_eq_error_iff hv fun _ h => by cases h).1 hfail
    cases hescapes with
    | long hshows hlong => exact ⟨m, _, rfl, hshows, hlong⟩
    | path _ _ _ _ hno => cases hno
  · rintro ⟨m, w, rfl, hshows, hlong⟩
    exact checked_of_shows hv hshows hlong

/-- A host with an empty key file, whose default configuration file has this text. -/
def hostReading (text : String) : Host where
  session := { vault := { kind := .environment } }
  home := "/root"
  files := {
    nodes := [
      (["root"], .directory), (["root", "key.json"], .file []), (["root", ".config"], .directory),
      (["root", ".config", "gcs-provision"], .directory),
      (["root", ".config", "gcs-provision", "config.yml"], .file (Utf8.encode text.toList))] }

/-- A configuration with more entries than are needed, and with a section that holds null. -/
theorem accepted_and_completed_extended :
    let h := hostReading ("gcp: \x7bproject_id: demo\x7d\n" ++
      "authentication:\n  type: service_account\n  service_account_path: /root/key.json\n" ++
      "provisioning: \x7bmax_workers: 8, zone: north\x7d\nlogging:\nowner: me\n")
    let file := "/root/.config/gcs-provision/config.yml"
    let authentication : Mapping := [(.text "type", .text "service_account"),
      (.text "service_account_path", .text "/root/key.json")]
    let given : Mapping := [(.text "max_workers", .int 8), (.text "zone", .text "north")]
    let m : Mapping := [(.text "gcp", .mapping [(.text "project_id", .text "demo")]),
      (.text "authentication", .mapping authentication), (.text "provisioning", .mapping given),
      (.text "logging", .null), (.text "owner", .text "me")]
    (path h).1 = .ok file ∧ (read file h).1 = .ok (.mapping m) ∧
      ∃ config, (load h).1 = .ok config ∧ (.text "owner", .text "me") ∈ config ∧
        ∃ provisioning, (.text "provisioning", .mapping provisioning) ∈ config ∧
          (.text "zone", .text "north") ∈ provisioning ∧
            (.text "max_workers", .int 8) ∈ provisioning ∧
              (.text "location", .text "US") ∈ provisioning := by
  intro h file authentication given m
  have hpath : (path h).1 = .ok file := by decide +kernel
  have hread : (read file h).1 = .ok (.mapping m) := by decide +kernel
  have hauth : Value.field? "authentication" m = some (.mapping authentication) := by decide +kernel
  have hkey : Value.field? "service_account_path" authentication =
      some (.text "/root/key.json") := by decide +kernel
  have htext : ∀ n a p, Value.mapping m = .mapping n →
      Value.field? "authentication" n = some (.mapping a) →
        Value.field? "service_account_path" a = some p → ∃ s, p = .text s := by
    rintro _ a p ⟨⟩ ha hp
    cases hauth.symm.trans ha
    cases hkey.symm.trans hp
    exact ⟨_, rfl⟩
  have hacceptable : IsAcceptable h.files m (.text "demo") given [] := {
    project := ⟨[(.text "project_id", .text "demo")], by decide +kernel, by decide +kernel⟩
    authentication := hauth ▸ .account (by decide +kernel) hkey (.text _) (by decide +kernel)
    provisioning := .entries (by decide +kernel)
    workers := ⟨8, by decide, by decide +kernel⟩
    lifetime := ⟨3600, by decide, by decide +kernel⟩
    vault := ⟨"secret_manager", by decide, by decide +kernel⟩
    logging := .falsy (w := .null) (by decide +kernel) rfl }
  obtain ⟨hiff, hcompleted, -⟩ := accepted_and_completed hpath hread htext
  obtain ⟨config, hload⟩ := hiff.2 ⟨m, _, given, [], rfl, hacceptable, rfl⟩
  obtain ⟨n, id, given', logged, hn, hacceptable', -, provisioning, logging, hprovisioning, -,
    hentries⟩ := hcompleted config hload
  cases hn
  rw [hacceptable'.provisioning.unique hacceptable.provisioning] at hprovisioning
  refine ⟨hpath, hread, config, hload, (hentries _).2 (Or.inr (Or.inr ?_)), provisioning,
    (hentries _).2 (Or.inl rfl), (hprovisioning.mem_iff _).2 (Or.inl ?_),
    (hprovisioning.mem_iff _).2 (Or.inl ?_), (hprovisioning.mem_iff _).2 (Or.inr ⟨?_, ?_⟩)⟩
  · decide +kernel
  · decide +kernel
  · decide +kernel
  · decide +kernel
  · intro w hw
    simp [given] at hw

/-- A project that is a number with too many digits is all that keeps a configuration from being
loaded. -/
theorem acceptable_project_too_long :
    let id := Value.int (16 ^ 3600 - 1)
    let m : Mapping := [(.text "gcp", .mapping [(.text "project_id", id)])]
    IsAcceptable {} m id [] [] ∧
      checked {} "config.yml" (.mapping m) = .error (.value .longNumber) := by
  intro id m
  have hlong : id.isSpellable = false := by decide +kernel
  have hkeys : (Value.mapping m).KeysApart :=
    ((Value.keysApart_of_isKey rfl).singleton _).singleton _
  have hacceptable : IsAcceptable {} m id [] [] := {
    project := ⟨[(.text "project_id", id)], rfl, rfl⟩
    authentication := .absent
    provisioning := .absent rfl
    workers := ⟨4, by decide, rfl⟩
    lifetime := ⟨3600, by decide, rfl⟩
    vault := ⟨"secret_manager", by decide, rfl⟩
    logging := .absent rfl }
  exact ⟨hacceptable, checked_of_shows hkeys (.project hacceptable) hlong⟩

/-- **Refusal and escape.** -/
theorem refused_or_escapes (hpath : (path h).1 = .ok file) (hread : (read file h).1 = .ok v) :
    ((∃ config, (load h).1 = .ok config) ∨ (∃ p, (load h).1 = .error (.config p)) ∨
      ∃ m e, v = .mapping m ∧ Escapes h.files m e ∧ (load h).1 = .error e) ∧
    ∀ m e, v = .mapping m → Escapes h.files m e → (load h).1 = .error e := by
  obtain ⟨hload, hv⟩ := load_of_read hpath hread
  rw [hload]
  constructor
  · rcases hchecked : checked h.files file v with e | config
    · by_cases he : ∃ p, e = .config p
      · obtain ⟨p, rfl⟩ := he
        exact Or.inr (Or.inl ⟨p, rfl⟩)
      · obtain ⟨m, hm, hescapes⟩ := (checked_eq_error_iff hv (not_exists.1 he)).1 hchecked
        exact Or.inr (Or.inr ⟨m, e, hm, hescapes, rfl⟩)
    · exact Or.inl ⟨config, rfl⟩
  · intro m e hm hescapes
    exact (checked_eq_error_iff hv hescapes.ne_config).2 ⟨m, hm, hescapes⟩

/-- The key file is the number of an open stream beyond all numbers of streams. -/
theorem refused_or_escapes_descriptor :
    let h := hostReading ("gcp: \x7bproject_id: 1\x7d\n" ++
      "authentication: \x7btype: service_account, service_account_path: 2147483648\x7d\n")
    let file := "/root/.config/gcs-provision/config.yml"
    let authentication : Mapping := [(.text "type", .text "service_account"),
      (.text "service_account_path", .int 2147483648)]
    let m : Mapping := [(.text "gcp", .mapping [(.text "project_id", .int 1)]),
      (.text "authentication", .mapping authentication)]
    (path h).1 = .ok file ∧ (read file h).1 = .ok (.mapping m) ∧
      (load h).1 = .error (.range .descriptorAbove) := by
  intro h file authentication m
  have hpath : (path h).1 = .ok file := by decide +kernel
  have hread : (read file h).1 = .ok (.mapping m) := by decide +kernel
  have hproject : NamesProject m (.int 1) := ⟨_, rfl, rfl⟩
  have hescapes : Escapes h.files m (.range .descriptorAbove) :=
    .path hproject (a := authentication) (p := .int 2147483648) (by decide +kernel)
      (by decide +kernel) (by decide +kernel) (.above (by decide))
  exact ⟨hpath, hread, (refused_or_escapes hpath hread).2 m _ rfl hescapes⟩

/-- A key file that is null is neither accepted nor refused. -/
theorem null_key_file_escapes :
    let h := hostReading ("gcp: \x7bproject_id: p\x7d\n" ++
      "authentication: \x7btype: service_account, service_account_path: null\x7d\n")
    (path h).1 = .ok "/root/.config/gcs-provision/config.yml" ∧
      (load h).1 = .error (.mismatch (.notFile "NoneType")) := by
  decide +kernel

end TransferBucket.Configuration
