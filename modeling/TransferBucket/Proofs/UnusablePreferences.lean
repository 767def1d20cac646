import TransferBucket.Proofs.ConfigurationChoice
import TransferBucket.Proofs.Directories
import TransferBucket.Proofs.ResourceFiles

/-!
# Preferences files that bear no object

**Theorem (`CommandLine.preferences_without_object`).** Take a preferences file that is not the JSON
text of an object. If it is text that breaks the grammar (`Preferences.IsMalformed`), it counts as
no file at all: nothing lies under any key, nothing is there to be cleared, what is put under a key
is found there (`Preferences.CountsAsNone`), and every command goes by the default configuration
file (`ChoosesNone`). If it is anything else (`Preferences.Spoils`), it is in the way: it cannot be
read, or it bears a value that does not answer as an object does. Then a key is neither looked up
nor set (`Preferences.Refuses`), and every command that asks for the choice ends with status 1
(`FailsBy`).

**Reading.** Of the files that are there only the malformed ones are taken as empty; all others are
read for what they are, without a message (`Preferences.load_of_wellFormed`). So what is asked of
the preferences is asked of the value itself.

**Writing.** A malformed file is written over. Its directory is there, because the file is found in
it (`FileSystem.makeDirectories_of_look`).
-/

namespace TransferBucket

open TransferBucket.Action

namespace Preferences

open Host

variable {h : Host} {bytes : List UInt8} {v : Value} {key : String}

/-! ## Malformed files -/

/-- A file is text, but not in the grammar of JSON. -/
def IsMalformed (bytes : List UInt8) : Prop :=
  ∃ cs problem line column offset, Utf8.decode bytes = .ok cs ∧
    Json.decode (unifyLineEnds cs) = .error (.syntaxError problem line column offset)

theorem IsMalformed.says (hmal : IsMalformed bytes) : Says (some (.file bytes)) [] := by
  obtain ⟨cs, problem, line, column, offset, hcs, hjson⟩ := hmal
  exact .noJson hcs hjson

/-- Where a file is there, it can be written. -/
theorem canBeKept_of_look (hlook : h.files.look (path h) = .ok (some (.file bytes))) :
    CanBeKept h := by
  have haccepts : h.files.Accepts (path h) := by
    rw [FileSystem.look] at hlook
    split at hlook <;> cases hlook
    exact Or.inr ⟨_, _, by assumption⟩
  rw [path, Path.inside_settingsDirectory] at hlook
  exact ⟨h.files, FileSystem.makeDirectories_of_look (by decide) hlook, haccepts⟩

/-- The preferences are those of no file. -/
structure CountsAsNone (h : Host) : Prop where
  get : ∀ key, (get (.text key) h).1 = .ok .null
  clear : ∀ key, (clear (.text key) h).1 = .ok () ∧ (clear (.text key) h).2.files = h.files
  set : ∀ key value, ∃ h', set (.text key) (.text value) h = (.ok (), h') ∧
    ∀ other, (Preferences.get (.text other) h').1 =
      .ok (if other = key then .text value else .null)

theorem Holds.countsAsNone (hm : Holds h []) : CountsAsNone h where
  get key := get_fst key hm.loaded
  clear key := by
    have habsent : Value.field? key [] = none := rfl
    obtain ⟨h', hclear, hfiles, -⟩ := clear_absent hm habsent
    rw [hclear]
    exact ⟨rfl, hfiles⟩
  set key value := by
    obtain ⟨h', hset, hh', -⟩ := (Edit.set key value).run_holds hm
    refine ⟨h', hset, fun other => ?_⟩
    rw [get_fst other hh'.loaded, Edit.field_apply]
    simp only [Edit.key, Edit.leaves, eq_comm (a := key)]
    rfl

/-! ## Files that are in the way -/

/-- What the uses of the preferences end in where the file is in the way: looking a key up, setting
it, and clearing it, if that fails at all. -/
structure Refusals where
  get : Failure
  set : Failure
  clear? : String → Option Failure

/-- A file that cannot be read refuses every use for the same reason. -/
def Refusals.ofFailure (f : Failure) : Refusals where
  get := f
  set := f
  clear? _ := some f

/-- Why nothing is set in a value that is no object. -/
def setRefusal : Value → Mismatch
  | .list _ => .listIndex "str"
  | v => .noItemAssignment v.fullKindName

/-- Why a key is not cleared in a value that is no object. A list without the key, and a text in
which it does not occur, have nothing to be cleared. -/
def clearRefusal? (key : String) : Value → Option Mismatch
  | .list items => if .text key ∈ items then some (.listIndex "str") else none
  | .text s => if key.toList <:+: s.toList then some (.noItemDeletion "str") else none
  | v => some (.noMembership v.fullKindName)

/-- A value that is no object is asked what only an object answers. -/
def Refusals.ofValue (v : Value) : Refusals where
  get := .mismatch (.noMember v.fullKindName "get")
  set := .mismatch (setRefusal v)
  clear? key := (clearRefusal? key v).map .mismatch

/-- A file that is in the way: it cannot be read, or bears a value that is no object. -/
inductive Spoils (bytes : List UInt8) : Refusals → Prop
  | unread {f : Failure} (h : Breaks (some (.file bytes)) f) : Spoils bytes (.ofFailure f)
  | noObject {v : Value} (h : Json.Bears bytes v) (hv : ∀ m, v ≠ .mapping m) :
    Spoils bytes (.ofValue v)

/-- A file without an object is malformed or in the way. -/
theorem isMalformed_or_spoils (hno : ∀ m, ¬ Json.Bears bytes (.mapping m)) :
    IsMalformed bytes ∨ ∃ r, Spoils bytes r := by
  rcases hcs : Utf8.decode bytes with e | cs
  · exact Or.inr ⟨_, .unread (.undecodable hcs)⟩
  rcases hjson : Json.decode (unifyLineEnds cs) with (_ | digits) | v
  · exact Or.inl ⟨_, _, _, _, _, hcs, hjson⟩
  · exact Or.inr ⟨_, .unread (.tooLong hcs hjson)⟩
  · have hbears : Json.Bears bytes v := ⟨cs, hcs, Json.decode_eq_ok_iff.1 hjson⟩
    exact Or.inr ⟨_, .noObject hbears fun m hm => hno m (hm ▸ hbears)⟩

/-- A file that is not malformed is read without a message. -/
theorem load_of_wellFormed (hlook : h.files.look (path h) = .ok (some (.file bytes)))
    (hwell : ¬ IsMalformed bytes) : load h = (ofNode (some (.file bytes)), h) := by
  have hthere : isThere (path h) h = (.ok true, h) := by
    rw [isThere_apply, hlook]
    rfl
  rw [load, bind_of_ok (read_apply path h), bind_of_ok hthere, if_pos rfl, resume_apply,
    readText_of_look hlook, ofNode]
  rcases hcs : Utf8.decode bytes with e | cs
  · rfl
  · dsimp only
    rw [String.toList_ofList]
    rcases hjson : Json.decode (unifyLineEnds cs) with (_ | _) | v
    · exact absurd ⟨_, _, _, _, _, hcs, hjson⟩ hwell
    · rfl
    · rfl

/-- A file that is in the way refuses. -/
structure Refuses (h : Host) (r : Refusals) : Prop where
  get : ∀ key, get (.text key) h = (.error r.get, h)
  set : ∀ key value, set (.text key) (.text value) h = (.error r.set, h)
  clear : ∀ key f, r.clear? key = some f → clear (.text key) h = (.error f, h)
  idle : ∀ key, r.clear? key = none → ∃ h', Preferences.clear (.text key) h = (.ok (), h') ∧
    h'.files = h.files ∧ h.SameHomes h'

theorem put_of_noObject (hv : ∀ m, v ≠ .mapping m) (key : String) (value : Value) :
    put v (.text key) value = .error (.mismatch (setRefusal v)) := by
  cases v with
  | mapping m => exact absurd rfl (hv m)
  | _ => rfl

theorem holds_list (items : List Value) (key : String) :
    (Value.list items).holds (.text key) = .ok (decide (.text key ∈ items)) := by
  have hany : (items.any fun i => i.equals (.text key)) = decide (.text key ∈ items) := by
    rw [Bool.eq_iff_iff, List.any_eq_true, decide_eq_true_iff]
    simp only [Value.equals_text_iff, exists_eq_right]
  rw [Value.holds, hany]

theorem holds_text (s key : String) :
    (Value.text s).holds (.text key) = .ok (decide (key.toList <:+: s.toList)) := by
  have hoccurs : occursIn key.toList s.toList = decide (key.toList <:+: s.toList) := by
    rw [Bool.eq_iff_iff, occursIn_iff, decide_eq_true_iff]
  rw [Value.holds, hoccurs]

/-- A value that is no object refuses to have a key cleared: it cannot say whether it holds the key,
or it holds the key and cannot give it up. -/
theorem clear_of_refusal (hload : load h = (.ok v, h)) (hv : ∀ m, v ≠ .mapping m) {m : Mismatch}
    (hrefusal : clearRefusal? key v = some m) :
    clear (.text key) h = (.error (.mismatch m), h) := by
  rw [clear, bind_of_ok hload]
  cases v with
  | list items =>
    rw [clearRefusal?] at hrefusal
    split_ifs at hrefusal with hmem
    cases hrefusal
    rw [holds_list, decide_eq_true hmem]
    rfl
  | text s =>
    rw [clearRefusal?] at hrefusal
    split_ifs at hrefusal with hoccurs
    cases hrefusal
    rw [holds_text, decide_eq_true hoccurs]
    rfl
  | mapping m => exact absurd rfl (hv m)
  | _ =>
    cases hrefusal
    rfl

theorem clear_of_idle (hload : load h = (.ok v, h)) (hidle : clearRefusal? key v = none) :
    ∃ h', clear (.text key) h = (.ok (), h') ∧ h'.files = h.files ∧ h.SameHomes h' := by
  have hholds : v.holds (.text key) = .ok false := by
    cases v with
    | list items =>
      rw [clearRefusal?] at hidle
      split_ifs at hidle with hmem
      rw [holds_list, decide_eq_false hmem]
    | text s =>
      rw [clearRefusal?] at hidle
      split_ifs at hidle with hoccurs
      rw [holds_text, decide_eq_false hoccurs]
    | _ => cases hidle
  rw [clear, bind_of_ok hload, hholds]
  exact exists_note .debug _ h

theorem refuses_of_error {f : Failure} (hload : load h = (.error f, h)) :
    Refuses h (.ofFailure f) where
  get key := by rw [Preferences.get, bind_of_error hload]; rfl
  set key value := by rw [Preferences.set, bind_of_error hload]; rfl
  clear key f' hf := by
    cases hf
    rw [Preferences.clear, bind_of_error hload]
  idle key hnone := by cases hnone

theorem refuses_of_value (hload : load h = (.ok v, h)) (hv : ∀ m, v ≠ .mapping m) :
    Refuses h (.ofValue v) where
  get key := by
    rw [Preferences.get, bind_of_ok hload]
    cases v with
    | mapping m => exact absurd rfl (hv m)
    | _ => rfl
  set key value := by
    rw [Preferences.set, bind_of_ok hload, put_of_noObject hv]
    rfl
  clear key f hf := by
    obtain ⟨m, hm, rfl⟩ := Option.map_eq_some_iff.1 hf
    exact clear_of_refusal hload hv hm
  idle key hnone := clear_of_idle hload (Option.map_eq_none_iff.1 hnone)

theorem ofNode_of_bears (hbears : Json.Bears bytes v) : ofNode (some (.file bytes)) = .ok v := by
  obtain ⟨cs, hcs, hwrites⟩ := hbears
  simp only [ofNode, hcs, Json.decode_eq_ok_iff.2 hwrites]

theorem IsMalformed.not_bears (hmal : IsMalformed bytes) : ¬ Json.Bears bytes v := by
  rintro ⟨ds, hds, hwrites⟩
  obtain ⟨cs, problem, line, column, offset, hcs, hjson⟩ := hmal
  rw [hcs] at hds
  cases hds
  rw [Json.decode_eq_ok_iff.2 hwrites] at hjson
  cases hjson

theorem IsMalformed.ofNode_eq (hmal : IsMalformed bytes) :
    ofNode (some (.file bytes)) = .ok (.mapping []) := by
  obtain ⟨cs, problem, line, column, offset, hcs, hjson⟩ := hmal
  simp only [ofNode, hcs, hjson]

/-- A file that is in the way is not malformed. -/
theorem Spoils.not_isMalformed {r : Refusals} (hspoils : Spoils bytes r) :
    ¬ IsMalformed bytes := by
  intro hmal
  cases hspoils with
  | unread hbreaks =>
    have hnode := hmal.ofNode_eq
    rw [hbreaks.ofNode_eq] at hnode
    cases hnode
  | noObject hbears hv => exact hmal.not_bears hbears

/-- **A file that is in the way refuses.** -/
theorem Spoils.refuses {r : Refusals} (hspoils : Spoils bytes r)
    (hlook : h.files.look (path h) = .ok (some (.file bytes))) : Refuses h r := by
  have hload := load_of_wellFormed hlook hspoils.not_isMalformed
  cases hspoils with
  | unread hbreaks =>
    rw [hbreaks.ofNode_eq] at hload
    exact refuses_of_error hload
  | noObject hbears hv =>
    rw [ofNode_of_bears hbears] at hload
    exact refuses_of_value hload hv

/-- A failure on account of a value. -/
inductive ConcernsValue : Failure → Prop
  | value (p : ValueProblem) : ConcernsValue (.value p)
  | mismatch (m : Mismatch) : ConcernsValue (.mismatch m)

theorem ConcernsValue.not_isInterrupt {f : Failure} (hf : ConcernsValue f) :
    f.isInterrupt = false := by
  cases hf <;> rfl

/-- Every refusal is on account of a value. -/
theorem Spoils.concernsValue {r : Refusals} (hspoils : Spoils bytes r) :
    ConcernsValue r.get ∧ ConcernsValue r.set ∧
      ∀ key f, r.clear? key = some f → ConcernsValue f := by
  cases hspoils with
  | unread hbreaks =>
    have hvalue : ∀ f, Breaks (some (.file bytes)) f → ConcernsValue f := by
      intro f hf
      cases hf <;> exact .value _
    refine ⟨hvalue _ hbreaks, hvalue _ hbreaks, fun key f hf => ?_⟩
    cases hf
    exact hvalue _ hbreaks
  | noObject hbears hv =>
    refine ⟨.mismatch _, .mismatch _, fun key f hf => ?_⟩
    obtain ⟨m, -, rfl⟩ := Option.map_eq_some_iff.1 hf
    exact .mismatch m

end Preferences

namespace CommandLine

open Shell

variable {h : Host} {t : Terminal} {home : String} {bytes : List UInt8} {id : String}
  {args : List String} {verbosity : Nat}

/-! ## Commands without a choice -/

/-- What is printed of the default configuration file where no file is chosen. -/
def shownDefault (files : FileSystem) (home : String) : String :=
  let file := Configuration.fileIn (Host.settingsDirectory home)
  "Config path: " ++ file ++ "\n" ++
    (if files.has file then "Source: default" else "Source: default (file not found)") ++ "\n"

theorem onHost_isThere {file : String} (hfits : Path.Fits file) (t : Terminal) :
    onHost (Host.isThere file) t = (.ok (t.host.files.has file), t) :=
  onHost_of_apply (f := fun h => .ok (h.files.has file)) (Host.isThere_of_fits hfits) t

/-- Where no file is chosen, the default one is shown. -/
theorem showConfigPath_of_holds (hhome : t.host.currentHome = .ok home)
    (hm : Preferences.Holds t.host [])
    (hfits : Path.Fits (Configuration.fileIn (Host.settingsDirectory home))) :
    ∃ t', showConfigPath t = (.ok (), t') ∧ t'.output = t.output ++ shownDefault t.host.files home ∧
      t'.host.files = t.host.files := by
  have hsilent : Preferences.Holds (silent t.host) [] := hm.congr rfl rfl
  have hkept : Value.field "config_path" [] = Configuration.choiceValue none := rfl
  obtain ⟨b, hpreferred, hfiles, hhomes⟩ :=
    Configuration.preferredPath_of_holds hsilent hkept nofun
  obtain ⟨t', hrun, hfiles', hhomes'⟩ := onHost_of_run hpreferred
  have houtput : t'.output = t.output := by
    have hmodest := (Modest.onHost Configuration.preferredPath t).1
    rwa [hrun] at hmodest
  have hfiles : t'.host.files = t.host.files := hfiles'.trans hfiles
  have hcurrent : t'.host.currentHome = .ok home := (hhomes' hhomes).current.trans hhome
  have hnone : onHost Configuration.preferredPath t = (.ok none, t') := hrun
  have hsay : ∀ (line : String) (t : Terminal),
      say line t = (.ok (), { t with output := t.output ++ line ++ "\n" }) := fun _ _ => rfl
  rw [showConfigPath, bind_of_ok (onHost_requireHome_of_known hhome), bind_of_ok hnone]
  dsimp only
  rw [bind_of_ok (onHost_defaultPath hcurrent), bind_of_ok (hsay _ t'),
    bind_of_ok (onHost_isThere hfits _), ← apply_ite say, hsay]
  refine ⟨_, rfl, ?_, hfiles⟩
  dsimp only
  rw [houtput, hfiles, shownDefault]
  simp only [String.append_assoc]
  rfl

/-- Where there is nothing to forget, a command that is to forget the choice changes no file. -/
theorem run_clearConfigPath_of_idle (hhome : h.currentHome = .ok home)
    (hargs : Invocation.ofArguments args = .ok ⟨verbosity, .clearConfigPath⟩)
    (hidle : ∃ b, Preferences.clear (.text "config_path") (silent (started h).host) = (.ok (), b) ∧
      b.files = h.files ∧ (silent (started h).host).SameHomes b) :
    (run id args h).1.status = 0 ∧ (run id args h).2.files = h.files := by
  obtain ⟨b, hclear, hfiles, hhomes⟩ := hidle
  obtain ⟨t, hrun, hfiles', -⟩ := clearConfigPath_of_run (t := started h) hhome hclear hhomes
  have hperform : perform id ⟨verbosity, .clearConfigPath⟩ (started h) = (.ok (), t) := hrun
  rw [run_eq hargs, hperform]
  exact ⟨rfl, hfiles'.trans hfiles⟩

/-- Commands go by no choice of a configuration file, and can make one. -/
structure ChoosesNone (h : Host) (home : String) : Prop where
  path : (Configuration.path (started h).host).1 = Configuration.selected h.files home none
  load : (Configuration.load (started h).host).1 =
    (Configuration.selected h.files home none).bind fun file =>
      (Configuration.valueOf h.files file).bind (Configuration.checked h.files file)
  shows : ∀ id args verbosity, Invocation.ofArguments args = .ok ⟨verbosity, .showConfigPath⟩ →
    (run id args h).1.status = 0 ∧ (run id args h).1.output = shownDefault h.files home ∧
      (run id args h).2.files = h.files
  forgets : ∀ id args verbosity, Invocation.ofArguments args = .ok ⟨verbosity, .clearConfigPath⟩ →
    (run id args h).1.status = 0 ∧ (run id args h).2.files = h.files
  chooses : ∀ id args verbosity path,
    Invocation.ofArguments args = .ok ⟨verbosity, .setConfigPath path⟩ →
      if h.LeadsToFile path then
        (run id args h).1.status = 0 ∧ stored (run id args h).2 = .ok (.text (h.full path))
      else (run id args h).1.status = 1 ∧ (run id args h).2.files = h.files

section ChoosesNone

variable (hhome : h.currentHome = .ok home) (hm : Preferences.Holds (started h).host [])
include hhome hm

theorem fits_default_of_holds :
    Path.Fits (Configuration.fileIn (Host.settingsDirectory home)) := by
  have hdefault := hm.canBeKept.fits_default
  rwa [started_home hhome] at hdefault

theorem path_of_holds :
    (Configuration.path (started h).host).1 = Configuration.selected h.files home none :=
  Configuration.path_fst hm rfl nofun hhome (fits_default_of_holds hhome hm)

theorem run_showConfigPath_of_holds
    (hargs : Invocation.ofArguments args = .ok ⟨verbosity, .showConfigPath⟩) :
    (run id args h).1.status = 0 ∧ (run id args h).1.output = shownDefault h.files home ∧
      (run id args h).2.files = h.files := by
  obtain ⟨t, hrun, houtput, hfiles⟩ :=
    showConfigPath_of_holds (t := started h) hhome hm (fits_default_of_holds hhome hm)
  have hperform : perform id ⟨verbosity, .showConfigPath⟩ (started h) = (.ok (), t) := hrun
  rw [run_eq hargs, hperform]
  refine ⟨rfl, ?_, hfiles⟩
  rw [output_conclude, houtput]
  exact String.empty_append

theorem run_setConfigPath_of_leads {path : String}
    (hargs : Invocation.ofArguments args = .ok ⟨verbosity, .setConfigPath path⟩)
    (hleads : h.LeadsToFile path) :
    (run id args h).1.status = 0 ∧ stored (run id args h).2 = .ok (.text (h.full path)) := by
  obtain ⟨hnull, hfile⟩ := hleads
  obtain ⟨t, hrun, ht, -, hhomes⟩ := chooseFile_of_file (t := started h) hfile hm
  have hperform : perform id ⟨verbosity, .setConfigPath path⟩ (started h) = (.ok (), t) :=
    (setConfigPath_apply (t := started h) hhome hnull).trans hrun
  obtain ⟨-, hheld⟩ := holds_started_ended hhome ht hhomes
  rw [run_eq hargs, hperform]
  refine ⟨rfl, ?_⟩
  rw [stored, Preferences.get_fst _ hheld.loaded, Value.field, Value.field?_insert_self]
  rfl

omit hm in
theorem run_setConfigPath_of_not_leads {path : String}
    (hargs : Invocation.ofArguments args = .ok ⟨verbosity, .setConfigPath path⟩)
    (hleads : ¬ h.LeadsToFile path) :
    (run id args h).1.status = 1 ∧ (run id args h).2.files = h.files := by
  obtain ⟨e, t, hrun, he, ht⟩ := setConfigPath_of_not_leads (t := started h) hhome hleads
  have hperform : perform id ⟨verbosity, .setConfigPath path⟩ (started h) = (.error e, t) := hrun
  have hfiles : t.host.files = (started h).host.files := congrArg Host.files ht
  rw [run_eq hargs, hperform]
  exact ⟨status_conclude he t, hfiles⟩

/-- **Commands without a choice.** -/
theorem choosesNone_of_holds : ChoosesNone h home where
  path := path_of_holds hhome hm
  load := by
    rw [Configuration.load_fst, path_of_holds hhome hm]
    rfl
  shows _ _ _ hargs := run_showConfigPath_of_holds hhome hm hargs
  forgets _ _ _ hargs := by
    have hsilent : Preferences.Holds (silent (started h).host) [] := hm.congr rfl rfl
    have habsent : Value.field? "config_path" [] = none := rfl
    exact run_clearConfigPath_of_idle hhome hargs (Preferences.clear_absent hsilent habsent)
  chooses _ _ _ path hargs := by
    split
    · next hleads => exact run_setConfigPath_of_leads hhome hm hargs hleads
    · next hleads => exact run_setConfigPath_of_not_leads hhome hargs hleads

end ChoosesNone

/-! ## Commands that fail -/

/-- The report of a command that has failed before it printed anything. -/
def failed (f : Failure) : Report where
  status := 1
  errors := "Error: " ++ f.message ++ "\n"

/-- A request that goes by the choice of a configuration file. -/
inductive Asks (h : Host) : Request → Prop
  | shows : Asks h .showConfigPath
  | provision {p : ProvisionSettings} (haccepted : ¬ p.IsRefused) : Asks h (.provision p)
  | deprovision {file : String} {bytes : List UInt8}
    (hlook : h.files.look (Path.normalise file) = .ok (some (.file bytes)))
    (hgives : GivesRecord bytes) : Asks h (.deprovision (some file))

/-- Commands fail because the preferences file is in the way. -/
structure FailsBy (h : Host) (r : Preferences.Refusals) : Prop where
  asks : ∀ id args verbosity request, Invocation.ofArguments args = .ok ⟨verbosity, request⟩ →
    Asks h request → run id args h = (failed r.get, h)
  chooses : ∀ id args verbosity path,
    Invocation.ofArguments args = .ok ⟨verbosity, .setConfigPath path⟩ → h.LeadsToFile path →
      run id args h = (failed r.set, h)
  forgets : ∀ id args verbosity, Invocation.ofArguments args = .ok ⟨verbosity, .clearConfigPath⟩ →
    ∀ f, r.clear? "config_path" = some f → run id args h = (failed f, h)
  idle : ∀ id args verbosity, Invocation.ofArguments args = .ok ⟨verbosity, .clearConfigPath⟩ →
    r.clear? "config_path" = none →
      (run id args h).1.status = 0 ∧ (run id args h).2.files = h.files

variable {r : Preferences.Refusals} {f : Failure}

/-- A step that fails where nothing is logged leaves the terminal as it was. -/
theorem onHost_of_error {α : Type} {x : Action Host Failure α}
    (hx : x (silent t.host) = (.error f, silent t.host)) :
    onHost x t = (.error (.failure f), t) :=
  onHost_of_silent hx

theorem run_of_failure {request : Request} (hf : Preferences.ConcernsValue f)
    (hargs : Invocation.ofArguments args = .ok ⟨verbosity, request⟩)
    (hperform : perform id ⟨verbosity, request⟩ (started h) = (.error (.failure f), started h)) :
    run id args h = (failed f, h) := by
  have hconclude : conclude (.error (.failure f)) (started h) = failed f := by
    rw [conclude_of_failure hf.not_isInterrupt]
    simp only [started, String.empty_append, failed]
    rfl
  rw [run_eq hargs, hperform, hconclude]
  rfl

section Fails

variable (hrefuses : Preferences.Refuses (silent t.host) r)
include hrefuses

theorem preferredPath_of_refuses :
    Configuration.preferredPath (silent t.host) = (.error r.get, silent t.host) := by
  rw [Configuration.preferredPath, bind_of_error (hrefuses.get "config_path")]

/-- The configuration is not found. -/
theorem configure_of_refuses (hget : Preferences.ConcernsValue r.get)
    (hhome : t.host.currentHome = .ok home) (verbosity : Nat) :
    configure verbosity t = (.error (.failure r.get), t) := by
  have hpath : Configuration.path (silent t.host) = (.error r.get, silent t.host) := by
    rw [Configuration.path, bind_of_error (preferredPath_of_refuses hrefuses)]
  have hload : Configuration.load (silent t.host) = (.error r.get, silent t.host) := by
    rw [Configuration.load, bind_of_error hpath]
  have hconfiguration : configuration (silent t.host) = (.error r.get, silent t.host) := by
    rw [configuration, resume_apply, hload]
    revert hget
    generalize r.get = f
    rintro (p | m) <;> rfl
  rw [configure, bind_of_ok (onHost_requireHome_of_known hhome),
    bind_of_error (onHost_of_error hconfiguration)]

end Fails

/-- A file cannot be kept as the choice. -/
theorem chooseFile_of_refuses {file : String}
    (hrefuses : Preferences.Refuses (silent t.host) r) (hfile : t.host.files.isFile file = true) :
    chooseFile file t = (.error (.failure r.set), t) := by
  obtain ⟨bytes, hlook⟩ := FileSystem.exists_look_of_isFile hfile
  have hthere : onHost (Host.isThere file) t = (.ok true, t) := by
    rw [onHost_look (Host.isThere_apply _), hlook]
    rfl
  rw [chooseFile, bind_of_ok hthere, if_neg (by simp)]
  exact (bind_of_ok (onHost_isFile hlook)).trans
    (bind_of_error (onHost_of_error (hrefuses.set "config_path" file)))

/-- A request that goes by the choice ends where the choice is looked up. -/
theorem perform_of_asks (hhome : h.currentHome = .ok home)
    (hrefuses : Preferences.Refuses (silent (started h).host) r)
    (hget : Preferences.ConcernsValue r.get) {request : Request} (hasks : Asks h request)
    (id : String) (verbosity : Nat) : perform id ⟨verbosity, request⟩ (started h) =
      (.error (.failure r.get), started h) := by
  have hcurrent : (started h).host.currentHome = .ok home := hhome
  have hknown := onHost_requireHome_of_known hcurrent
  have hconfigure := configure_of_refuses hrefuses hget hcurrent verbosity
  cases hasks with
  | shows =>
    change showConfigPath (started h) = _
    rw [showConfigPath, bind_of_ok hknown,
      bind_of_error (onHost_of_error (preferredPath_of_refuses hrefuses))]
  | @provision p haccepted =>
    change provisionCommand id verbosity p (started h) = _
    rw [provisionCommand, bind_of_ok hknown,
      bind_of_ok (ProvisionSettings.check_of_accepted haccepted _), bind_of_error hconfigure]
  | @deprovision file bytes hlook hgives =>
    obtain ⟨record, hrecord⟩ := exists_recordIn_iff.2 hgives
    have hread := readResource_of_look (t := started h) hlook
    rw [hrecord] at hread
    change deprovisionCommand verbosity (some file) (started h) = _
    rw [deprovisionCommand_of_look (t := started h) hlook, bind_of_ok hread, giveUp,
      bind_of_error hconfigure]

/-- **Commands fail** where the preferences file is in the way. -/
theorem failsBy_of_refuses (hhome : h.currentHome = .ok home) (hspoils : Preferences.Spoils bytes r)
    (hrefuses : Preferences.Refuses (silent (started h).host) r) : FailsBy h r where
  asks id _ verbosity _ hargs hasks :=
    have hget := hspoils.concernsValue.1
    run_of_failure hget hargs (perform_of_asks hhome hrefuses hget hasks id verbosity)
  chooses id args verbosity path hargs hleads := by
    obtain ⟨hnull, hfile⟩ := hleads
    refine run_of_failure hspoils.concernsValue.2.1 hargs ?_
    change setConfigPath path (started h) = _
    rw [setConfigPath_apply (t := started h) hhome hnull]
    exact chooseFile_of_refuses hrefuses hfile
  forgets id args verbosity hargs f hf := by
    refine run_of_failure (hspoils.concernsValue.2.2 _ _ hf) hargs ?_
    change clearConfigPath (started h) = _
    rw [clearConfigPath, bind_of_ok (onHost_requireHome_of_known (t := started h) hhome),
      bind_of_error (onHost_of_error (hrefuses.clear _ _ hf))]
  idle _ _ _ hargs hidle := run_clearConfigPath_of_idle hhome hargs (hrefuses.idle _ hidle)

/-! ## The theorem -/

/-- **Preferences files that bear no object.** Such a file is malformed or in the way. A malformed
one counts as no file, for every use of the preferences and for every command in a process that
starts with these files and this home directory. One that is in the way refuses the uses, and the
commands that go by the choice of a configuration file fail. -/
theorem preferences_without_object
    (hlook : h.files.look (Preferences.path h) = .ok (some (.file bytes)))
    (hno : ∀ m, ¬ Json.Bears bytes (.mapping m)) :
    (Preferences.IsMalformed bytes ∨ ∃ r, Preferences.Spoils bytes r) ∧
    (Preferences.IsMalformed bytes → Preferences.CountsAsNone h ∧
      ∀ p : Host, p.files = h.files → p.currentHome = .ok h.home → ChoosesNone p h.home) ∧
    ∀ r, Preferences.Spoils bytes r → Preferences.Refuses h r ∧
      ∀ p : Host, p.files = h.files → p.currentHome = .ok h.home → FailsBy p r := by
  -- what a process finds at the place of the file
  have hfound : ∀ p : Host, p.files = h.files → p.currentHome = .ok h.home →
      (started p).host.files.look (Preferences.path (started p).host) =
        .ok (some (.file bytes)) := by
    intro p hfiles hhome
    have hstart : (started p).host.files = h.files := hfiles
    rw [Preferences.path_congr (started_home hhome), hstart]
    exact hlook
  refine ⟨Preferences.isMalformed_or_spoils hno, fun hmal => ?_, fun r hspoils => ?_⟩
  · have hholds : ∀ p : Host, p.files.look (Preferences.path p) = .ok (some (.file bytes)) →
        Preferences.Holds p [] := fun p hp =>
      Preferences.holds_of_said hp hmal.says (Preferences.canBeKept_of_look hp)
    exact ⟨(hholds h hlook).countsAsNone, fun p hfiles hhome =>
      choosesNone_of_holds hhome (hholds _ (hfound p hfiles hhome))⟩
  · exact ⟨hspoils.refuses hlook, fun p hfiles hhome =>
      failsBy_of_refuses hhome hspoils (hspoils.refuses (hfound p hfiles hhome))⟩

/-- One file is no JSON text, and one is a list with the key of the choice in it. -/
theorem preferences_without_object_read :
    let text := "theme = dark".toList
    let list := "[\"config_path\"]".toList
    let h := Preferences.hostWith (Utf8.encode text)
    let h' := Preferences.hostWith (Utf8.encode list)
    ((∀ m, ¬ Json.Bears (Utf8.encode text) (.mapping m)) ∧
      (Preferences.get (.text "theme") h).1 = .ok .null ∧
      (run "d" ["config", "show"] h).1.output = shownDefault h.files "/root") ∧
    (∀ m, ¬ Json.Bears (Utf8.encode list) (.mapping m)) ∧
    run "d" ["config", "clear"] h' = (failed (.mismatch (.listIndex "str")), h') := by
  intro text list h h'
  have hmal : Preferences.IsMalformed (Utf8.encode text) := by
    have hjson : Json.decode (unifyLineEnds text) = .error (.syntaxError .value 1 1 0) := by
      decide +kernel
    exact ⟨text, _, _, _, _, Utf8.decode_encode text, hjson⟩
  have hbears : Json.Bears (Utf8.encode list) (.list [.text "config_path"]) := by
    have hjson : Json.decode (unifyLineEnds list) = .ok (.list [.text "config_path"]) := by
      decide +kernel
    exact ⟨list, Utf8.decode_encode list, Json.decode_eq_ok_iff.1 hjson⟩
  have hno : ∀ m, ¬ Json.Bears (Utf8.encode text) (.mapping m) := fun m => hmal.not_bears
  have hno' : ∀ m, ¬ Json.Bears (Utf8.encode list) (.mapping m) := fun m hm => by
    cases hbears.unique hm
  have hshow : Invocation.ofArguments ["config", "show"] = .ok ⟨0, .showConfigPath⟩ := by
    decide +kernel
  have hclear : Invocation.ofArguments ["config", "clear"] = .ok ⟨0, .clearConfigPath⟩ := by
    decide +kernel
  obtain ⟨hnone, hcommands⟩ :=
    (preferences_without_object (Preferences.look_hostWith _) hno).2.1 hmal
  obtain ⟨-, hfails⟩ :=
    (preferences_without_object (Preferences.look_hostWith _) hno').2.2 _ (.noObject hbears nofun)
  exact ⟨⟨hno, hnone.get _, ((hcommands h rfl rfl).shows "d" _ _ hshow).2.1⟩, hno',
    (hfails h' rfl rfl).forgets "d" _ _ hclear _ (by decide +kernel)⟩

/-- A list, and bytes of no text, are in the way: no key is looked up, and what commands read is not
the default configuration file. -/
theorem list_and_stray_byte_are_in_the_way :
    let list := Utf8.encode "[1]".toList
    let h := Preferences.hostWith list
    ((∀ m, ¬ Json.Bears list (.mapping m)) ∧
      (Preferences.get (.text "theme") h).1 = .error (.mismatch (.noMember "list" "get")) ∧
      (run "d" ["config", "show"] h).1 =
        { status := 1, errors := "Error: 'list' object has no attribute 'get'\n" }) ∧
    (∀ m, ¬ Json.Bears [0xff] (.mapping m)) ∧
    (run "d" ["config", "show"] (Preferences.hostWith [0xff])).1.status = 1 := by
  intro list h
  have hjson : Json.decode (unifyLineEnds "[1]".toList) = .ok (.list [.int 1]) := by decide +kernel
  have hbears : Json.Bears list (.list [.int 1]) :=
    ⟨"[1]".toList, Utf8.decode_encode _, Json.decode_eq_ok_iff.1 hjson⟩
  refine ⟨⟨fun m hm => ?_, by decide +kernel, by decide +kernel⟩, fun m hm => ?_,
    by decide +kernel⟩
  · cases hbears.unique hm
  · obtain ⟨cs, hcs, -⟩ := hm
    cases hcs

end CommandLine

end TransferBucket
