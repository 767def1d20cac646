import TransferBucket.Proofs.Acceptance
import TransferBucket.Proofs.Reporting

/-!
# Which file is the configuration file

**Theorem (`configuration_file_along_history`).** Commands choose a configuration file and forget it
again, and in between others change the tree, all but the preferences file (`Reached`). At every
point the file that is read is the one chosen last, if something is there now, else the default one,
if something is there, and else there is none; where no file was chosen, or the choice was
forgotten, only the default one counts (`Configuration.selected`). A command that is to choose a
file ends well exactly if the path that it makes of its argument leads to a file; else it ends with
status 1 and leaves the choice, and all files, as they were.

**The choice** lies under one key of the preferences, which are a map
(`Preferences.Edit.run_holds`). It is kept in the form in which it is read again, because a path
that is made of names is written as it is (`Path.normalise_absolute`).

**The invariant** (`Stands`). At every point the preferences hold the choice, and can be written. A
command is a process of its own: what it leaves behind is the files, and the next one starts from
them (`holds_started_ended`).
-/

namespace TransferBucket

open TransferBucket.Action

/-! ## The file that is read -/

/-- Whether something is at the end of a path. -/
def FileSystem.has (fs : FileSystem) (path : String) : Bool :=
  match fs.place path with
  | .found .. => true
  | _ => false

theorem Host.isThere_of_fits {file : String} (hfits : Path.Fits file) (h : Host) :
    isThere file h = (.ok (h.files.has file), h) := by
  obtain ⟨node?, hlook⟩ := FileSystem.exists_look_of_fits hfits h.files
  rw [isThere_apply, hlook, FileSystem.has]
  rw [FileSystem.look] at hlook
  split at hlook <;> cases hlook
  · next hplace =>
    rw [hplace]
    rfl
  · next hfound _ =>
    split
    · next hplace => exact absurd hplace (hfound _ _)
    · rfl

namespace Configuration

open Host

variable {h b : Host} {m : Mapping} {home : String} {chosen : Option String}

/-- The file that is read where a file was chosen, or none: the chosen one if something is there,
else the default one if something is there. -/
def selected (files : FileSystem) (home : String) (chosen : Option String) :
    Except Failure String :=
  let directory := settingsDirectory home
  match chosen.filter files.has with
  | some file => .ok file
  | none =>
    if files.has (fileIn directory) then .ok (fileIn directory)
    else .error (.noConfigFile directory)

/-- What is kept of a choice. -/
def choiceValue (chosen : Option String) : Value := (chosen.map Value.text).getD .null

/-- A file that may have been chosen: its path fits, and is written as it is. -/
structure IsChoice (file : String) : Prop where
  fits : Path.Fits file
  written : Path.normalise file = file

theorem presentDefault_fst (hhome : b.currentHome = .ok home)
    (hfits : Path.Fits (fileIn (settingsDirectory home))) :
    (presentDefault b).1 = selected b.files home none := by
  have hdirectory : defaultDirectory b = (.ok (settingsDirectory home), b) := by
    rw [defaultDirectory_apply, hhome]
    rfl
  rw [presentDefault, bind_of_ok hdirectory, bind_of_ok (isThere_of_fits hfits b), selected]
  by_cases hthere : b.files.has (fileIn (settingsDirectory home)) = true
  · rw [if_pos hthere]
    simp only [Option.filter_none, if_pos hthere]
    rfl
  · rw [if_neg hthere]
    simp only [Option.filter_none, if_neg hthere]
    rfl

theorem preferredPath_of_holds (hm : Preferences.Holds h m)
    (hkept : Value.field "config_path" m = choiceValue chosen)
    (hchoice : ∀ file, chosen = some file → IsChoice file) :
    ∃ b, preferredPath h = (.ok chosen, b) ∧ b.files = h.files ∧ h.SameHomes b := by
  have hget := eq_of_fst (Preferences.get_fst "config_path" hm.loaded)
  have hspec := (Preferences.get_surveys (P := fun _ => True) (h := h) trivial
    (.text "config_path")).host_spec
  refine ⟨_, ?_, hspec⟩
  rw [preferredPath, bind_of_ok hget, hkept]
  rcases chosen with _ | file
  · rfl
  · have hne : file ≠ "" := fun hempty => (hchoice file rfl).fits.proper (Or.inl hempty)
    have hpresent : (choiceValue (some file)).present? = some (.text file) := by
      simp [choiceValue, Value.present?, Value.isTruthy, hne]
    rw [hpresent]
    dsimp only
    rw [(hchoice file rfl).written]
    rfl

/-- **The file that is read**, by the choice that the preferences hold. -/
theorem path_fst (hm : Preferences.Holds h m)
    (hkept : Value.field "config_path" m = choiceValue chosen)
    (hchoice : ∀ file, chosen = some file → IsChoice file) (hhome : h.currentHome = .ok home)
    (hfits : Path.Fits (fileIn (settingsDirectory home))) :
    (path h).1 = selected h.files home chosen := by
  obtain ⟨b, hrun, hfiles, hhomes⟩ := preferredPath_of_holds hm hkept hchoice
  have hbhome : b.currentHome = .ok home := hhomes.current.trans hhome
  rw [path, bind_of_ok hrun, ← hfiles]
  rcases chosen with _ | file
  · exact presentDefault_fst hbhome hfits
  · dsimp only
    rw [bind_of_ok (isThere_of_fits (hchoice file rfl).fits b)]
    by_cases hthere : b.files.has file = true
    · rw [if_pos hthere, selected]
      simp only [Option.filter_some, hthere, if_true]
      rfl
    · rw [if_neg hthere]
      have hdefault : ∀ l, (presentDefault { b with session := b.session.logged l }).1 =
          selected b.files home none := fun l => presentDefault_fst hbhome hfits
      have hnone : selected b.files home (some file) = selected b.files home none := by
        simp only [selected, Option.filter_some, hthere, Option.filter_none]
        rfl
      rw [hnone]
      exact hdefault _

end Configuration

/-! ## The commands -/

theorem Host.isFile_apply (file : String) (h : Host) : isFile file h =
    (((h.files.look file).map fun node? =>
      match node? with
      | some (.file _) => true
      | _ => false).mapError .file, h) := by
  rw [isFile]
  rcases hlook : h.files.look file with e | node?
  · have hrun : look file h = (.error (.file e), h) := by
      rw [look_apply, hlook]
      rfl
    rw [bind_of_error hrun]
    rfl
  · have hrun : look file h = (.ok node?, h) := by
      rw [look_apply, hlook]
      rfl
    rw [bind_of_ok hrun]
    rcases node? with _ | _ | bytes <;> rfl

theorem FileSystem.exists_look_of_isFile {fs : FileSystem} {file : String}
    (hfile : fs.isFile file = true) : ∃ bytes, fs.look file = .ok (some (.file bytes)) := by
  rw [isFile_eq_look] at hfile
  split at hfile
  · next hlook => exact ⟨_, hlook⟩
  · cases hfile

/-- The path that a command makes of an argument: from the root, without `.` and `..`. -/
def Host.full (h : Host) (path : String) : String :=
  Path.absolute (Path.resolve h.files.directory path)

/-- The path of an argument is that of a file. An argument with a null character has no path. -/
def Host.LeadsToFile (h : Host) (path : String) : Prop :=
  '\x00' ∉ path.toList ∧ h.files.isFile (h.full path) = true

instance (h : Host) (path : String) : Decidable (h.LeadsToFile path) :=
  inferInstanceAs (Decidable (_ ∧ _))

namespace CommandLine

open Shell

variable {α : Type} {t : Terminal} {m : Mapping} {home path : String}

theorem onHost_of_run {x : Action Host Failure α} {r : Except Failure α} {b : Host}
    (hx : x (silent t.host) = (r, b)) : ∃ t', onHost x t = (r.mapError .failure, t') ∧
      t'.host.files = b.files ∧ ((silent t.host).SameHomes b → t.host.SameHomes t'.host) := by
  refine ⟨_, by rw [onHost_apply, hx], rfl, fun h => ⟨h.start, h.account, h.current⟩⟩

theorem onHost_requireHome_of_known (hhome : t.host.currentHome = .ok home) :
    onHost Host.requireHome t = (.ok (), t) := by
  rw [onHost_requireHome, hhome]
  rfl

theorem onHost_look {α : Type} {x : Action Host Failure α} {g : Option Node → α} {file : String}
    (hx : ∀ h, x h = (((h.files.look file).map g).mapError .file, h)) (t : Terminal) :
    onHost x t = (((t.host.files.look file).map g).mapError fun e => .failure (.file e), t) := by
  rw [onHost_of_apply hx t]
  rcases hlook : t.host.files.look file with e | node?
  · have hsilent : (silent t.host).files.look file = .error e := hlook
    rw [hsilent]
    rfl
  · have hsilent : (silent t.host).files.look file = .ok node? := hlook
    rw [hsilent]
    rfl

/-- Keep a file as the choice, if it is one. -/
def chooseFile (file : String) : Shell Unit := do
  if !(← onHost (Host.isThere file)) then exitWith 1 s!"Error: Config file does not exist: {file}"
  if !(← onHost (Host.isFile file)) then exitWith 1 s!"Error: Path is not a file: {file}"
  onHost (Preferences.set (.text "config_path") (.text file))
  say s!"Config path set to: {file}"

theorem setConfigPath_apply (hhome : t.host.currentHome = .ok home)
    (hnull : '\x00' ∉ path.toList) :
    setConfigPath path t = chooseFile (t.host.full path) t := by
  have hcontains : ¬ path.toList.contains '\x00' = true := by simpa using hnull
  rw [setConfigPath, bind_of_ok (onHost_requireHome_of_known hhome), if_neg hcontains]
  exact bind_of_ok (read_apply _ t)

theorem chooseFile_of_file {file : String} (hfile : t.host.files.isFile file = true)
    (hm : Preferences.Holds t.host m) : ∃ t', chooseFile file t = (.ok (), t') ∧
      Preferences.Holds t'.host (Value.insert (.text "config_path") (.text file) m) ∧
      t'.host.files.directory = t.host.files.directory ∧ t.host.SameHomes t'.host := by
  obtain ⟨bytes, hlook⟩ := FileSystem.exists_look_of_isFile hfile
  have hthere : onHost (Host.isThere file) t = (.ok true, t) := by
    rw [onHost_look (Host.isThere_apply _), hlook]
    rfl
  have hisFile : onHost (Host.isFile file) t = (.ok true, t) := by
    rw [onHost_look (Host.isFile_apply _), hlook]
    rfl
  have hsilent : Preferences.Holds (silent t.host) m := hm.congr rfl rfl
  obtain ⟨b, hset, hb, hdirectory, hhomes⟩ :=
    (Preferences.Edit.set "config_path" file).run_holds hsilent
  obtain ⟨t', hrun, hfiles, hhomes'⟩ := onHost_of_run hset
  have hhomes' := hhomes' hhomes
  refine ⟨{ t' with output := t'.output ++ s!"Config path set to: {file}" ++ "\n" },
    ?_, hb.congr hfiles ?_, ?_, hhomes'⟩
  · rw [chooseFile, bind_of_ok hthere, if_neg (by simp)]
    exact (bind_of_ok hisFile).trans (bind_of_ok hrun)
  · exact hhomes'.start.trans hhomes.start.symm
  · exact (congrArg FileSystem.directory hfiles).trans hdirectory

theorem chooseFile_of_not_file {file : String} (hfile : t.host.files.isFile file = false) :
    ∃ e t', chooseFile file t = (.error e, t') ∧ e.IsFailure ∧ t'.host = t.host := by
  have hthere := onHost_look (Host.isThere_apply file) t
  rw [FileSystem.isFile_eq_look] at hfile
  rcases hlook : t.host.files.look file with e | _ | _ | bytes <;> rw [hlook] at hthere hfile
  · -- a path that is too long is refused
    exact ⟨_, t, bind_of_error hthere, Or.inr ⟨_, rfl⟩, rfl⟩
  · refine ⟨.exit 1, { t with errors := t.errors ++
      s!"Error: Config file does not exist: {file}" ++ "\n" }, ?_, Or.inl rfl, rfl⟩
    rw [chooseFile]
    exact (bind_of_ok hthere).trans rfl
  · have hisFile := onHost_look (Host.isFile_apply file) t
    rw [hlook] at hisFile
    refine ⟨.exit 1, { t with errors := t.errors ++ s!"Error: Path is not a file: {file}" ++ "\n" },
      ?_, Or.inl rfl, rfl⟩
    rw [chooseFile, bind_of_ok hthere, if_neg (by decide)]
    exact (bind_of_ok hisFile).trans rfl
  · cases hfile

theorem setConfigPath_of_not_leads (hhome : t.host.currentHome = .ok home)
    (hleads : ¬ t.host.LeadsToFile path) :
    ∃ e t', setConfigPath path t = (.error e, t') ∧ e.IsFailure ∧ t'.host = t.host := by
  by_cases hnull : '\x00' ∈ path.toList
  · refine ⟨.failure (.value .nullByte), t, ?_, Or.inr ⟨_, rfl⟩, rfl⟩
    have hcontains : path.toList.contains '\x00' = true := by simpa using hnull
    rw [setConfigPath, bind_of_ok (onHost_requireHome_of_known hhome), if_pos hcontains]
    rfl
  · rw [setConfigPath_apply hhome hnull]
    exact chooseFile_of_not_file (Bool.eq_false_iff.2 fun hfile => hleads ⟨hnull, hfile⟩)

theorem onHost_defaultPath (hhome : t.host.currentHome = .ok home) :
    onHost Configuration.defaultPath t =
      (.ok (Configuration.fileIn (Host.settingsDirectory home)), t) := by
  have hcurrent : (silent t.host).currentHome = .ok home := hhome
  have hdirectory : Configuration.defaultDirectory (silent t.host) =
      (.ok (Host.settingsDirectory home), silent t.host) := by
    rw [Configuration.defaultDirectory_apply, hcurrent]
    rfl
  exact onHost_of_silent (r := .ok _) (bind_of_ok hdirectory)

theorem clearConfigPath_of_run (hhome : t.host.currentHome = .ok home) {b : Host}
    (hclear : Preferences.clear (.text "config_path") (silent t.host) = (.ok (), b))
    (hhomes : (silent t.host).SameHomes b) : ∃ t', clearConfigPath t = (.ok (), t') ∧
      t'.host.files = b.files ∧ t.host.SameHomes t'.host := by
  obtain ⟨t', hrun, hfiles, hhomes'⟩ := onHost_of_run hclear
  have hcleared : onHost (Preferences.clear (.text "config_path")) t = (.ok (), t') := hrun
  have hhomes' := hhomes' hhomes
  rw [clearConfigPath, bind_of_ok (onHost_requireHome_of_known hhome), bind_of_ok hcleared,
    bind_of_ok (onHost_defaultPath (hhomes'.current.trans hhome))]
  exact ⟨_, rfl, hfiles, hhomes'⟩

theorem clearConfigPath_spec (hhome : t.host.currentHome = .ok home)
    (hm : Preferences.Holds t.host m) : ∃ t', clearConfigPath t = (.ok (), t') ∧
      Preferences.Holds t'.host (Value.erase (.text "config_path") m) ∧
      t'.host.files.directory = t.host.files.directory ∧ t.host.SameHomes t'.host := by
  have hsilent : Preferences.Holds (silent t.host) m := hm.congr rfl rfl
  obtain ⟨b, hclear, hb, hdirectory, hhomes⟩ :=
    (Preferences.Edit.clear "config_path").run_holds hsilent
  obtain ⟨t', hrun, hfiles, hhomes'⟩ := clearConfigPath_of_run hhome hclear hhomes
  exact ⟨t', hrun, hb.congr hfiles (hhomes'.start.trans hhomes.start.symm),
    (congrArg FileSystem.directory hfiles).trans hdirectory, hhomes'⟩

end CommandLine

/-! ## Histories -/

theorem FileSystem.directory_ensureDirectory (fs : FileSystem) (parts : List String) :
    (fs.ensureDirectory parts).directory = fs.directory := by
  rw [ensureDirectory]
  generalize List.range parts.length = is
  induction is generalizing fs with
  | nil => rfl
  | cons i is ih =>
    rw [List.foldl_cons, ih]
    dsimp only
    split <;> rfl

theorem FileSystem.directory_change (fs : FileSystem) (c : Change) :
    (fs.change c).directory = fs.directory := by
  cases c with
  | write path bytes => exact directory_ensureDirectory fs _
  | makeDirectory path => exact directory_ensureDirectory fs _
  | remove path => rfl

theorem Host.settingsDirectory_ne (home : String) :
    settingsDirectory home ≠ "/" ∧ settingsDirectory home ≠ "." := by
  obtain ⟨above, habove⟩ := Preferences.exists_names_settingsDirectory home
  constructor
  · intro heq
    rw [heq] at habove
    revert habove
    have hroot : ((Path.names "/").filter (· ≠ "")).reverse = [] := by decide
    rw [hroot]
    exact nofun
  · intro heq
    rw [heq] at habove
    have hdot : ((Path.names ".").filter (· ≠ "")).reverse = ["."] := by decide
    rw [hdot] at habove
    exact absurd (List.cons.inj habove).1 (by decide)

theorem Path.inside_settingsDirectory (home name : String) :
    inside (Host.settingsDirectory home) name = Host.settingsDirectory home ++ "/" ++ name := by
  obtain ⟨hroot, hdot⟩ := Host.settingsDirectory_ne home
  rw [inside, if_neg hroot, if_neg hdot]

theorem Preferences.CanBeKept.fits_default {h : Host} (hkept : CanBeKept h) :
    Path.Fits (Configuration.fileIn (Host.settingsDirectory h.home)) := by
  obtain ⟨fs, -, haccepts⟩ := hkept
  have hfits := haccepts.reaches.fits
  rw [path, Path.inside_settingsDirectory] at hfits
  rw [Configuration.fileIn, Path.inside_settingsDirectory]
  exact hfits.sibling (by decide) (by decide) (by decide) (by decide)

namespace CommandLine

open Shell

variable {h first : Host} {m : Mapping} {home : String} {chosen : Option String}

theorem started_home (hhome : h.currentHome = .ok home) : (started h).host.home = home := by
  rw [started, hhome]
  rfl

/-- A process that starts from what another has left finds the preferences that this one held. -/
theorem holds_started_ended {t : Terminal} (hhome : h.currentHome = .ok home)
    (hm : Preferences.Holds t.host m) (hhomes : (started h).host.SameHomes t.host) :
    (ended h t).currentHome = .ok home ∧ Preferences.Holds (started (ended h t)).host m := by
  have hended : (ended h t).currentHome = .ok home := by
    rw [← hhome]
    exact Host.currentHome_congr rfl hhomes.account
  refine ⟨hended, hm.congr rfl ?_⟩
  rw [started_home hended, hhomes.start, started_home hhome]

/-- From a host the commands that choose a configuration file and forget it lead to others, while in
between other programs change the tree, but for the preferences file, which can be written still.
The choice is the path that the last such command has made of its argument, if it led to a file. -/
inductive Reached (first : Host) : Host → Option String → Prop
  | start : Reached first first none
  | change {h : Host} {chosen : Option String} (hreached : Reached first h chosen)
    (c : FileSystem.Change)
    (hsame : (h.files.change c).look (Preferences.path (started h).host) =
      h.files.look (Preferences.path (started h).host))
    (hkept : Preferences.CanBeKept (started { h with files := h.files.change c }).host) :
    Reached first { h with files := h.files.change c } chosen
  | choose {h : Host} {chosen : Option String} (hreached : Reached first h chosen) (id : String)
    {args : List String} {verbosity : Nat} {path : String}
    (hargs : Invocation.ofArguments args = .ok ⟨verbosity, .setConfigPath path⟩) :
    Reached first (run id args h).2
      (if h.LeadsToFile path then some (h.full path) else chosen)
  | forget {h : Host} {chosen : Option String} (hreached : Reached first h chosen) (id : String)
    {args : List String} {verbosity : Nat}
    (hargs : Invocation.ofArguments args = .ok ⟨verbosity, .clearConfigPath⟩) :
    Reached first (run id args h).2 none

/-- **The invariant.** The preferences hold the choice, and can be written. -/
structure Stands (home : String) (h : Host) (chosen : Option String) : Prop where
  home : h.currentHome = .ok home
  names : ∀ n ∈ h.files.directory, Path.IsName n
  choice : ∀ file, chosen = some file → Configuration.IsChoice file
  holds : ∃ m, Preferences.Holds (started h).host m ∧
    Value.field "config_path" m = Configuration.choiceValue chosen

theorem Stands.change (hs : Stands home h chosen) {c : FileSystem.Change}
    (hsame : (h.files.change c).look (Preferences.path (started h).host) =
      h.files.look (Preferences.path (started h).host))
    (hkept : Preferences.CanBeKept (started { h with files := h.files.change c }).host) :
    Stands home { h with files := h.files.change c } chosen where
  home := hs.home
  names := by
    rw [FileSystem.directory_change]
    exact hs.names
  choice := hs.choice
  holds := by
    obtain ⟨m, hm, hfield⟩ := hs.holds
    obtain ⟨fs, -, haccepts⟩ := hm.canBeKept
    obtain ⟨node?, hlook⟩ := FileSystem.exists_look_of_fits haccepts.reaches.fits h.files
    have hloaded : (Preferences.load (started h).host).1 = Preferences.ofNode node? :=
      Preferences.load_fst hlook
    have hpath : Preferences.path (started { h with files := h.files.change c }).host =
        Preferences.path (started h).host := by
      rw [Preferences.path, Preferences.path, started_home hs.home, started_home]
      exact hs.home
    have hlook' : (h.files.change c).look
        (Preferences.path (started { h with files := h.files.change c }).host) = .ok node? := by
      rw [hpath, hsame, hlook]
    have hloaded' : (Preferences.load (started { h with files := h.files.change c }).host).1 =
        Preferences.ofNode node? := Preferences.load_fst hlook'
    exact ⟨m, ⟨hm.texts, hloaded'.trans (hloaded.symm.trans hm.loaded), hkept⟩, hfield⟩

/-- A path that a command makes of an argument, and that leads to a file. -/
theorem Stands.isChoice (hs : Stands home h chosen) {path : String}
    (hfile : h.files.isFile (h.full path) = true) : Configuration.IsChoice (h.full path) where
  fits := by
    obtain ⟨bytes, hlook⟩ := FileSystem.exists_look_of_isFile hfile
    exact (FileSystem.reaches_of_look hlook).fits
  written := Path.normalise_absolute (Path.isName_of_mem_resolve hs.names path)

/-- The next process starts from what a command has left. -/
theorem Stands.ended (hs : Stands home h chosen) {t : Terminal} {chosen' : Option String}
    (hm : Preferences.Holds t.host m)
    (hfield : Value.field "config_path" m = Configuration.choiceValue chosen')
    (hchoice : ∀ file, chosen' = some file → Configuration.IsChoice file)
    (hdirectory : t.host.files.directory = h.files.directory)
    (hhomes : (started h).host.SameHomes t.host) : Stands home (ended h t) chosen' := by
  obtain ⟨hended, hheld⟩ := holds_started_ended hs.home hm hhomes
  have hnames : ∀ n ∈ t.host.files.directory, Path.IsName n := by
    rw [hdirectory]
    exact hs.names
  exact ⟨hended, hnames, hchoice, m, hheld, hfield⟩

section Steps

variable {args : List String} {verbosity : Nat} {path : String}

/-- **Choosing a file.** -/
theorem Stands.choose (hs : Stands home h chosen) (id : String)
    (hargs : Invocation.ofArguments args = .ok ⟨verbosity, .setConfigPath path⟩)
    (hleads : h.LeadsToFile path) :
    (run id args h).1.status = 0 ∧ Stands home (run id args h).2 (some (h.full path)) := by
  obtain ⟨hnull, hfile⟩ := hleads
  obtain ⟨m, hm, -⟩ := hs.holds
  have hstart : setConfigPath path (started h) = chooseFile (h.full path) (started h) :=
    setConfigPath_apply (t := started h) hs.home hnull
  obtain ⟨t, hrun, ht, hdirectory, hhomes⟩ := chooseFile_of_file (t := started h) hfile hm
  have hperform : perform id ⟨verbosity, .setConfigPath path⟩ (started h) = (.ok (), t) :=
    hstart.trans hrun
  rw [run_eq hargs, hperform]
  refine ⟨rfl, hs.ended ht ?_ (fun file heq => ?_) hdirectory hhomes⟩
  · rw [Value.field, Value.field?_insert_self]
    rfl
  · cases heq
    exact hs.isChoice hfile

/-- **Choosing what is no file.** -/
theorem Stands.refuse (hs : Stands home h chosen) (id : String)
    (hargs : Invocation.ofArguments args = .ok ⟨verbosity, .setConfigPath path⟩)
    (hleads : ¬ h.LeadsToFile path) :
    (run id args h).1.status = 1 ∧ (run id args h).2.files = h.files ∧
      Stands home (run id args h).2 chosen := by
  obtain ⟨m, hm, hfield⟩ := hs.holds
  obtain ⟨e, t, hrun, he, ht⟩ := setConfigPath_of_not_leads (t := started h) hs.home hleads
  have hperform : perform id ⟨verbosity, .setConfigPath path⟩ (started h) = (.error e, t) := hrun
  have hfiles : t.host.files = (started h).host.files := congrArg Host.files ht
  rw [run_eq hargs, hperform]
  refine ⟨status_conclude he t, hfiles, hs.ended (ht ▸ hm) hfield hs.choice
    (congrArg FileSystem.directory hfiles) ?_⟩
  rw [ht]
  exact .refl _

/-- **Forgetting the choice.** -/
theorem Stands.forget (hs : Stands home h chosen) (id : String)
    (hargs : Invocation.ofArguments args = .ok ⟨verbosity, .clearConfigPath⟩) :
    (run id args h).1.status = 0 ∧ Stands home (run id args h).2 none := by
  obtain ⟨m, hm, -⟩ := hs.holds
  obtain ⟨t, hrun, ht, hdirectory, hhomes⟩ := clearConfigPath_spec (t := started h) hs.home hm
  have hperform : perform id ⟨verbosity, .clearConfigPath⟩ (started h) = (.ok (), t) := hrun
  rw [run_eq hargs, hperform]
  refine ⟨rfl, hs.ended ht ?_ nofun hdirectory hhomes⟩
  rw [Value.field, Value.field?_erase, if_pos rfl]
  rfl

end Steps

/-- The invariant holds along every history. -/
theorem Reached.stands (hreached : Reached first h chosen) (hfirst : Stands home first none) :
    Stands home h chosen := by
  induction hreached with
  | start => exact hfirst
  | change _ c hsame hkept ih => exact ih.change hsame hkept
  | choose _ id hargs ih =>
    split
    · next hleads => exact (ih.choose id hargs hleads).2
    · next hleads => exact (ih.refuse id hargs hleads).2.2
  | forget _ id hargs ih => exact (ih.forget id hargs).2

/-- What the preferences of the next process hold as the choice. -/
def stored (h : Host) : Except Failure Value :=
  (Preferences.get (.text "config_path") (started h).host).1

theorem Stands.stored_eq (hs : Stands home h chosen) :
    stored h = .ok (Configuration.choiceValue chosen) := by
  obtain ⟨m, hm, hfield⟩ := hs.holds
  rw [stored, Preferences.get_fst _ hm.loaded, hfield]

/-- **The configuration file along a history.** Where the home directory is known and the
preferences are missing at first, at every point the file that is read is the one chosen last, if
something is there, else the default one, if something is there. A command chooses the path that it
makes of its argument exactly if a file is there; else it ends with status 1 and changes no file. -/
theorem configuration_file_along_history (hhome : first.currentHome = .ok home)
    (hnames : ∀ n ∈ first.files.directory, Path.IsName n)
    (hmissing : first.files.look (Preferences.path (started first).host) = .ok none)
    (hkept : Preferences.CanBeKept (started first).host) (hreached : Reached first h chosen) :
    (Configuration.path (started h).host).1 = Configuration.selected h.files home chosen ∧
    (Configuration.load (started h).host).1 =
      (Configuration.selected h.files home chosen).bind (fun file =>
        (Configuration.valueOf h.files file).bind (Configuration.checked h.files file)) ∧
    stored h = .ok (Configuration.choiceValue chosen) ∧
    (∀ id args verbosity path,
      Invocation.ofArguments args = .ok ⟨verbosity, .setConfigPath path⟩ →
      if h.LeadsToFile path then
        (run id args h).1.status = 0 ∧ stored (run id args h).2 = .ok (.text (h.full path))
      else
        (run id args h).1.status = 1 ∧ (run id args h).2.files = h.files ∧
          stored (run id args h).2 = stored h) ∧
    ∀ id args verbosity, Invocation.ofArguments args = .ok ⟨verbosity, .clearConfigPath⟩ →
      (run id args h).1.status = 0 ∧ stored (run id args h).2 = .ok .null := by
  have hheld : Preferences.Holds (started first).host [] :=
    Preferences.holds_of_said hmissing .missing hkept
  have hfirst : Stands home first none :=
    ⟨hhome, hnames, nofun, [], hheld, rfl⟩
  have hs := hreached.stands hfirst
  have hpath : (Configuration.path (started h).host).1 =
      Configuration.selected h.files home chosen := by
    obtain ⟨m, hm, hfield⟩ := hs.holds
    have hfits := hm.canBeKept.fits_default
    rw [started_home hs.home] at hfits
    exact Configuration.path_fst hm hfield hs.choice hs.home hfits
  refine ⟨hpath, ?_, hs.stored_eq, fun id args verbosity path hargs => ?_,
    fun id args verbosity hargs => ?_⟩
  · rw [Configuration.load_fst, hpath]
    rfl
  · split
    · next hleads =>
      obtain ⟨hstatus, hs'⟩ := hs.choose id hargs hleads
      exact ⟨hstatus, hs'.stored_eq⟩
    · next hleads =>
      obtain ⟨hstatus, hfiles, hs'⟩ := hs.refuse id hargs hleads
      exact ⟨hstatus, hfiles, hs'.stored_eq.trans hs.stored_eq.symm⟩
  · obtain ⟨hstatus, hs'⟩ := hs.forget id hargs
    exact ⟨hstatus, hs'.stored_eq⟩

/-- A file is chosen by a path from the working directory, and taken away later. -/
theorem configuration_file_along_history_removed :
    let first : Host := {
      session := { vault := { kind := .environment } }, home := "/root"
      files := {
        nodes := [(["root"], .directory), (["root", "my.yml"], .file [])]
        directory := ["root"] } }
    let args := ["config", "set-path", "my.yml"]
    let h := (run "d" args first).2
    let h' := { h with files := h.files.change (.remove "my.yml") }
    Reached first h' (some "/root/my.yml") ∧
      (Configuration.path (started h).host).1 = .ok "/root/my.yml" ∧
      (Configuration.path (started h').host).1 =
        .error (.noConfigFile "/root/.config/gcs-provision") := by
  intro first args h h'
  have hhome : first.currentHome = .ok "/root" := by decide +kernel
  have hnames : ∀ n ∈ first.files.directory, Path.IsName n := by
    intro n hn
    rw [List.mem_singleton.1 hn]
    exact ⟨by decide, by decide, by decide, by decide⟩
  have hmissing : first.files.look (Preferences.path (started first).host) = .ok none := by
    decide +kernel
  have hkept : Preferences.CanBeKept (started first).host := by
    have hmade : Preferences.directoryMade (started first).host = .ok {
        nodes := [
          (["root", ".config", "gcs-provision"], .directory), (["root", ".config"], .directory),
          (["root"], .directory), (["root", "my.yml"], .file [])]
        directory := ["root"] } := by decide +kernel
    exact ⟨_, hmade, Or.inl ⟨["root", ".config", "gcs-provision", "preferences.json"],
      by decide +kernel⟩⟩
  have hargs : Invocation.ofArguments args = .ok ⟨0, .setConfigPath "my.yml"⟩ := by decide +kernel
  have hchosen : (if first.LeadsToFile "my.yml" then some (first.full "my.yml") else none) =
      some "/root/my.yml" := by decide +kernel
  have hreached : Reached first h (some "/root/my.yml") :=
    hchosen ▸ Reached.choose .start "d" hargs
  have hsame : h'.files.look (Preferences.path (started h).host) =
      h.files.look (Preferences.path (started h).host) := by decide +kernel
  have hkept' : Preferences.CanBeKept (started h').host := by
    have hmade : Preferences.directoryMade (started h').host = .ok h'.files := by decide +kernel
    have hplace : h'.files.place (Preferences.path (started h').host) =
        .found ["root", ".config", "gcs-provision", "preferences.json"] (.file (Utf8.encode
          "\x7b\n  \"config_path\": \"/root/my.yml\"\n\x7d".toList)) := by decide +kernel
    exact ⟨_, hmade, Or.inr ⟨_, _, hplace⟩⟩
  have hreached' : Reached first h' (some "/root/my.yml") := hreached.change _ hsame hkept'
  have hselected : Configuration.selected h.files "/root" (some "/root/my.yml") =
      .ok "/root/my.yml" := by decide +kernel
  have hselected' : Configuration.selected h'.files "/root" (some "/root/my.yml") =
      .error (.noConfigFile "/root/.config/gcs-provision") := by decide +kernel
  obtain ⟨hpath, -⟩ := configuration_file_along_history hhome hnames hmissing hkept hreached
  obtain ⟨hpath', -⟩ := configuration_file_along_history hhome hnames hmissing hkept hreached'
  exact ⟨hreached', hpath.trans hselected, hpath'.trans hselected'⟩

end CommandLine

end TransferBucket
