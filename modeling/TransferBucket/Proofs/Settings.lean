import TransferBucket.Configuration
import TransferBucket.Proofs.YamlKeys

/-!
# Sections and settings of a configuration

What the checks of a configuration ask for, said without them. Of each check it is told when it is
passed (`_eq_ok_iff`), and when it ends in something else than a refusal (`_eq_error_iff`).

**Sections** (`Gives`). A section gives the entries of its mapping; one that is not there, or holds
what counts as nothing, gives none. It is filled up with defaults (`IsFilled`): every entry that is
given is there, and every default whose key is not given, and nothing else. This needs that no key
comes twice, as in every value that is read from a file (`Yaml.keysApart_of_decode`).

**Settings** (`setting`). What a filled section has under a name is what is given, else the default
(`IsFilled.field`). So the checks on numbers and vault are about the given entries.

**The key file** (`Authenticates`). Its path is a text, or bytes of a text (`Spells`). A number
stands for an open stream, which is no file; one that is too large for that, and any other value, is
no path at all (`IsNoPath`), and to ask whether there is a file fails.
-/

namespace TransferBucket.Configuration

/-! ## Refusals -/

section Refusals

variable {e : Failure} {w : Value} {p : ConfigProblem} {c : Prop} [Decidable c]

/-- A refusal that does not come out as one was to show a number that is too long. -/
theorem showing_eq_iff (he : ∀ p, e ≠ .config p) :
    Failure.showing w (.config p) = e ↔ w.isSpellable = false ∧ e = .value .longNumber := by
  rw [Failure.showing]
  split_ifs with hw
  · exact iff_of_false (fun h => he p h.symm) fun h => absurd (hw.symm.trans h.1) nofun
  · exact ⟨fun h => ⟨Bool.eq_false_iff.2 hw, h.symm⟩, fun h => h.2.symm⟩

theorem require_eq_ok_iff {f : Failure} :
    (if c then Except.ok () else .error f) = .ok () ↔ c := by
  split_ifs with hc
  · exact iff_of_true rfl hc
  · exact iff_of_false nofun hc

theorem require_eq_error_iff (he : ∀ p, e ≠ .config p) :
    (if c then Except.ok () else .error (.showing w (.config p))) = .error e ↔
      ¬ c ∧ w.isSpellable = false ∧ e = .value .longNumber := by
  split_ifs with hc
  · exact iff_of_false nofun fun h => h.1 hc
  · rw [Except.error.injEq, showing_eq_iff he]
    exact (and_iff_right hc).symm

end Refusals

/-! ## Sections -/

/-- What a configuration gives in a section: nothing if the section is not there, or holds what
counts as nothing; else the entries of the mapping that it holds. -/
inductive Gives (m : Mapping) (name : String) : Mapping → Prop
  | absent (h : Value.field? name m = none) : Gives m name []
  | falsy {w : Value} (h : Value.field? name m = some w) (hw : w.isTruthy = false) : Gives m name []
  | entries {given : Mapping} (h : Value.field? name m = some (.mapping given)) : Gives m name given

/-- The value of a setting: the one that is given, else the default, else null. -/
def setting (defaults given : Mapping) (name : String) : Value :=
  ((Value.field? name given).or (Value.field? name defaults)).getD .null

/-- A section is filled up: all that is given is in it, and the defaults that are not given. -/
structure IsFilled (defaults given s : Mapping) : Prop where
  distinct : Value.DistinctKeys s
  mem_iff : ∀ e, e ∈ s ↔ e ∈ given ∨ e ∈ defaults ∧ ∀ w, (e.1, w) ∉ given

/-- Defaults are under different texts. -/
structure AreDefaults (defaults : Mapping) : Prop where
  distinct : Value.DistinctKeys defaults
  texts : ∀ e ∈ defaults, ∃ name, e.1 = .text name

theorem areDefaults_provisioning : AreDefaults provisioningDefaults :=
  ⟨by simp [Value.DistinctKeys, provisioningDefaults], by simp [provisioningDefaults]⟩

theorem areDefaults_logging : AreDefaults loggingDefaults :=
  ⟨by simp [Value.DistinctKeys, loggingDefaults], by simp [loggingDefaults]⟩

section Filling

variable {m defaults given s : Mapping} {name : String}

/-- The keys that a section gives are different, as all keys in the file are. -/
theorem Gives.distinctKeys (h : Gives m name given) (hm : (Value.mapping m).KeysApart) :
    Value.DistinctKeys given := by
  cases h with
  | absent => exact .nil
  | falsy => exact .nil
  | entries h => exact (hm.field? h).distinctKeys

theorem Gives.unique {given' : Mapping} (h : Gives m name given) (h' : Gives m name given') :
    given = given' := by
  cases h with
  | absent h =>
    cases h' with
    | entries h' => cases h.symm.trans h'
    | _ => rfl
  | falsy h hw =>
    cases h' with
    | entries h' =>
      cases h.symm.trans h'
      cases given' with
      | nil => rfl
      | cons => cases hw
    | _ => rfl
  | entries h =>
    cases h' with
    | absent h' => cases h.symm.trans h'
    | falsy h' hw =>
      cases h.symm.trans h'
      cases given with
      | nil => rfl
      | cons => cases hw
    | entries h' => exact Value.mapping.inj (Option.some.inj (h.symm.trans h'))

theorem filled_eq_ok_iff :
    filled m name defaults = .ok s ↔ ∃ given, Gives m name given ∧ s = merge defaults given := by
  constructor
  · intro h
    rw [filled, Value.field] at h
    rcases hfield : Value.field? name m with _ | w
    · rw [hfield] at h
      cases h
      exact ⟨[], .absent hfield, rfl⟩
    · rw [hfield, Option.getD_some, Value.orElse] at h
      cases hw : w.isTruthy with
      | false =>
        rw [hw] at h
        cases h
        exact ⟨[], .falsy hfield hw, rfl⟩
      | true =>
        rw [hw, if_pos rfl] at h
        cases w with
        | mapping given =>
          cases h
          exact ⟨given, .entries hfield, rfl⟩
        | _ => cases h
  · rintro ⟨given, hgiven, rfl⟩
    cases hgiven with
    | absent h =>
      rw [filled, Value.field, h]
      rfl
    | falsy h hw =>
      rw [filled, Value.field, h, Option.getD_some, Value.orElse, hw]
      rfl
    | entries h =>
      rw [filled, Value.field, h, Option.getD_some]
      cases given <;> rfl

theorem config_of_filled {e : Failure} (h : filled m name defaults = .error e) :
    ∃ p, e = .config p := by
  rw [filled] at h
  split at h <;> cases h
  exact ⟨_, rfl⟩

/-- Defaults with what is given put in their place are filled up. -/
theorem isFilled_merge (hdefaults : AreDefaults defaults) (hgiven : Value.DistinctKeys given) :
    IsFilled defaults given (merge defaults given) := by
  refine ⟨Value.distinctKeys_foldl_insert hdefaults.distinct given, fun e => ?_⟩
  rw [merge, Value.mem_foldl_insert_iff hdefaults.distinct hgiven]
  · -- the keys of defaults are texts, and only a text is the same key as it
    refine or_congr_right (and_congr_right fun he => ?_)
    obtain ⟨name, hname⟩ := hdefaults.texts e he
    rw [hname]
    constructor
    · intro h w hw
      have hne := h _ hw
      rw [Value.sameKey_text_self] at hne
      cases hne
    · rintro h ⟨k, w⟩ hw
      rw [Bool.eq_false_iff]
      intro hsame
      obtain rfl := Value.eq_text_of_sameKey_text hsame
      exact h w hw
  · intro e he g _ hsame
    obtain ⟨name, hname⟩ := hdefaults.texts e he
    rw [hname] at hsame ⊢
    exact (Value.eq_text_of_sameKey_text hsame).symm

/-- What stands under a name in a section that is filled up is the setting. -/
theorem IsFilled.field (h : IsFilled defaults given s) (hdefaults : AreDefaults defaults)
    (hgiven : Value.DistinctKeys given) (name : String) :
    Value.field name s = setting defaults given name := by
  have hnone {n : Mapping} (hn : Value.field? name n = none) (w : Value) : (.text name, w) ∉ n := by
    intro hw
    have hne := Value.lookup?_eq_none_iff.1 hn _ hw
    rw [Value.sameKey_text_self] at hne
    cases hne
  rw [Value.field, setting]
  rcases hgiven' : Value.field? name given with _ | w
  · rw [Option.none_or]
    rcases hdefault : Value.field? name defaults with _ | w
    · rcases hs : Value.field? name s with _ | w
      · rfl
      · rcases (h.mem_iff _).1 (h.distinct.field?_eq_some_iff.1 hs) with hw | ⟨hw, -⟩
        · exact absurd hw (hnone hgiven' w)
        · exact absurd hw (hnone hdefault w)
    · have hw := hdefaults.distinct.field?_eq_some_iff.1 hdefault
      rw [h.distinct.field?_eq_some_iff.2 ((h.mem_iff _).2 (Or.inr ⟨hw, hnone hgiven'⟩))]
  · have hw := hgiven.field?_eq_some_iff.1 hgiven'
    rw [h.distinct.field?_eq_some_iff.2 ((h.mem_iff _).2 (Or.inl hw))]
    rfl

end Filling

/-! ## The key file -/

/-- A value that spells a path. -/
inductive Spells : Value → String → Prop
  | text (s : String) : Spells (.text s) s
  | bytes {bs : List UInt8} {cs : List Char} (h : Utf8.decode bs = .ok cs) :
    Spells (.bytes bs) (String.ofList cs)

/-- A value that can be no path at all, and what comes of taking it for one. A number is taken for
an open stream. -/
inductive IsNoPath : Value → Failure → Prop
  | above {n : Int} (h : 2147483647 < n) : IsNoPath (.int n) (.range .descriptorAbove)
  | below {n : Int} (h : n < -2147483648) : IsNoPath (.int n) (.range .descriptorBelow)
  | kind {p : Value} (h : p.kindName ∉ ["str", "bytes", "int", "bool"]) :
    IsNoPath p (.mismatch (.notFile p.kindName))

/-- Credentials are not given, or those of a service account whose key file is there. -/
inductive Authenticates (files : FileSystem) : Option Value → Prop
  | absent : Authenticates files none
  | account {a : Mapping} {p : Value} {file : String}
    (htype : Value.field? "type" a = some (.text "service_account"))
    (hpath : Value.field? "service_account_path" a = some p) (hspells : Spells p file)
    (hfile : files.isFile file) : Authenticates files (some (.mapping a))

section KeyFile

variable {files : FileSystem} {p : Value} {e : Failure} {authentication : Option Value}

theorem namesFile_eq_true_iff :
    namesFile files p = .ok true ↔ ∃ file, Spells p file ∧ files.isFile file := by
  constructor
  · intro h
    cases p with
    | text s => exact ⟨s, .text s, Except.ok.inj h⟩
    | bytes bs =>
      rw [namesFile] at h
      split at h
      · next cs hcs => exact ⟨_, .bytes hcs, Except.ok.inj h⟩
      · cases h
    | int n =>
      rw [namesFile] at h
      dsimp only at h
      split_ifs at h
      cases h
    | _ => cases h
  · rintro ⟨_, hspells, hfile⟩
    cases hspells with
    | text s => exact congrArg _ hfile
    | bytes hcs =>
      rw [namesFile, hcs]
      exact congrArg _ hfile

theorem namesFile_eq_error_iff : namesFile files p = .error e ↔ IsNoPath p e := by
  constructor
  · intro h
    cases p with
    | int n =>
      rw [namesFile] at h
      dsimp only at h
      split_ifs at h with habove hbelow <;> cases h
      · exact .above habove
      · exact .below hbelow
    | bytes bs =>
      rw [namesFile] at h
      split at h <;> cases h
    | text | bool => cases h
    | again e' =>
      cases h
      exact .kind (by cases e' <;> decide)
    | _ =>
      cases h
      exact .kind (by simp [Value.kindName])
  · intro h
    cases h with
    | above h => exact if_pos h
    | below h => exact (if_neg (by omega)).trans (if_pos h)
    | kind h =>
      cases p with
      | text | bytes | int | bool => simp [Value.kindName] at h
      | _ => rfl

theorem checkAuthentication_eq_ok_iff :
    checkAuthentication files authentication = .ok () ↔ Authenticates files authentication := by
  constructor
  · intro h
    rcases authentication with _ | v
    · exact .absent
    cases v with
    | mapping a =>
      rw [checkAuthentication] at h
      rcases htype : Value.field? "type" a with _ | type <;> rw [htype] at h
      · cases h
      dsimp only at h
      split_ifs at h with hequals
      rcases hpath : Value.field? "service_account_path" a with _ | p <;> rw [hpath] at h
      · cases h
      dsimp only at h
      split at h <;> cases h
      next hnames =>
      obtain ⟨file, hspells, hfile⟩ := namesFile_eq_true_iff.1 hnames
      exact .account (Value.equals_text_iff.1 hequals ▸ htype) hpath hspells hfile
    | _ => cases h
  · intro h
    cases h with
    | absent => rfl
    | account htype hpath hspells hfile =>
      have hnames := namesFile_eq_true_iff.2 ⟨_, hspells, hfile⟩
      simp only [checkAuthentication, htype, hpath, hnames]
      rfl

/-- What makes the check of the credentials fail otherwise than by refusing the configuration. -/
theorem checkAuthentication_eq_error_iff (he : ∀ p, e ≠ .config p) :
    checkAuthentication files authentication = .error e ↔
      ∃ a t, authentication = some (.mapping a) ∧ Value.field? "type" a = some t ∧
        (t ≠ .text "service_account" ∧ t.isSpellable = false ∧ e = .value .longNumber ∨
          t = .text "service_account" ∧
            ∃ p, Value.field? "service_account_path" a = some p ∧ IsNoPath p e) := by
  constructor
  · intro h
    rcases authentication with _ | v
    · cases h
    cases v with
    | mapping a =>
      rw [checkAuthentication] at h
      rcases htype : Value.field? "type" a with _ | t <;> rw [htype] at h
      · cases h
        exact absurd rfl (he _)
      refine ⟨a, t, rfl, htype, ?_⟩
      dsimp only at h
      split_ifs at h with hequals
      · refine Or.inr ⟨Value.equals_text_iff.1 hequals, ?_⟩
        rcases hpath : Value.field? "service_account_path" a with _ | p <;> rw [hpath] at h
        · cases h
          exact absurd rfl (he _)
        dsimp only at h
        split at h <;> cases h
        · exact absurd rfl (he _)
        · next hnames => exact ⟨p, rfl, namesFile_eq_error_iff.1 hnames⟩
      · obtain ⟨hlong, rfl⟩ := (showing_eq_iff he).1 (Except.error.inj h)
        exact Or.inl ⟨mt Value.equals_text_iff.2 hequals, hlong, rfl⟩
    | _ =>
      cases h
      exact absurd rfl (he _)
  · rintro ⟨a, t, rfl, htype, ⟨hne, hlong, rfl⟩ | ⟨rfl, p, hpath, hno⟩⟩
    · rw [checkAuthentication, htype]
      dsimp only
      rw [if_neg (mt Value.equals_text_iff.1 hne), (showing_eq_iff he).2 ⟨hlong, rfl⟩]
    · simp only [checkAuthentication, htype, hpath, namesFile_eq_error_iff.2 hno]
      rfl

end KeyFile

/-! ## Settings -/

/-- A setting is a whole number above zero. -/
def IsPositiveSetting (given : Mapping) (name : String) : Prop :=
  ∃ n : Int, 0 < n ∧ setting provisioningDefaults given name = .int n

/-- A setting is one of the vaults. -/
def IsVaultSetting (given : Mapping) : Prop :=
  ∃ kind ∈ vaultKinds, setting provisioningDefaults given "vault" = .text kind

section Settings

variable {given s : Mapping} {name : String} {e : Failure}

theorem checkPositive_eq_ok_iff
    (hs : Value.field name s = setting provisioningDefaults given name) :
    checkPositive s name = .ok () ↔ IsPositiveSetting given name := by
  rw [checkPositive, hs, require_eq_ok_iff, IsPositiveSetting]
  cases setting provisioningDefaults given name <;> simp [isPositive]

theorem checkPositive_eq_error_iff (he : ∀ p, e ≠ .config p)
    (hs : Value.field name s = setting provisioningDefaults given name) :
    checkPositive s name = .error e ↔ ¬ IsPositiveSetting given name ∧
      (setting provisioningDefaults given name).isSpellable = false ∧ e = .value .longNumber := by
  rw [← checkPositive_eq_ok_iff hs, checkPositive, hs, require_eq_ok_iff, require_eq_error_iff he]

theorem checkVault_eq_ok_iff
    (hs : Value.field "vault" s = setting provisioningDefaults given "vault") :
    checkVault s = .ok () ↔ IsVaultSetting given := by
  rw [checkVault, hs, require_eq_ok_iff, List.any_eq_true, IsVaultSetting]
  simp only [Value.equals_text_iff]

theorem checkVault_eq_error_iff (he : ∀ p, e ≠ .config p)
    (hs : Value.field "vault" s = setting provisioningDefaults given "vault") :
    checkVault s = .error e ↔ ¬ IsVaultSetting given ∧
      (setting provisioningDefaults given "vault").isSpellable = false ∧
        e = .value .longNumber := by
  rw [← checkVault_eq_ok_iff hs, checkVault, hs, require_eq_ok_iff, require_eq_error_iff he]

end Settings

end TransferBucket.Configuration
