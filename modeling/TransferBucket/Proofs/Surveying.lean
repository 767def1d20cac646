import TransferBucket.CommandLine.Command

/-!
# What a command finds out before it acts

A command reads preferences and configuration before it turns to the services. These steps only
look around: they read the variables and some files, log messages, and may set a variable; the
services, the vault and the files stay as they are, and decide nothing of what is found.

**Surveys** (`x.Surveys P a`). From the state `a` the step `x` ends as it does from any state in
whose place other services stand, and other files that look the same at the paths in `P`; and it
leaves all of them alone but for messages. Sequences and handlers of such steps are such steps.

**The paths** (`Configuration.Visits`). The configuration is found by looking at the preferences
file, the default file, the file that the preferences name, and the key file that the
configuration names. No other path matters (`configuration_surveys`).
-/

namespace TransferBucket

open TransferBucket.CommandLine

/-! ## States with a host -/

/-- A session with further messages logged. -/
def Session.logged (s : Session) (l : List LogRecord) : Session := { s with log := s.log ++ l }

theorem Session.logged_nil (s : Session) : s.logged [] = s := by
  rw [logged, List.append_nil]

theorem Session.logged_logged (s : Session) (l l' : List LogRecord) :
    (s.logged l).logged l' = s.logged (l ++ l') := by
  rw [logged, logged, logged, List.append_assoc]

/-- A host amid other files and in another session; its own are the variables. -/
def Host.amid (h : Host) (fs : FileSystem) (s : Session) : Host :=
  { h with files := fs, session := { s with environment := h.session.environment } }

/-- The home directories of a host are those of another. -/
structure Host.SameHomes (h h' : Host) : Prop where
  start : h'.home = h.home
  account : h'.accountHome = h.accountHome
  current : h'.currentHome = h.currentHome

theorem Host.SameHomes.refl (h : Host) : h.SameHomes h := ⟨rfl, rfl, rfl⟩

theorem Host.SameHomes.trans {h₁ h₂ h₃ : Host} (h : h₁.SameHomes h₂) (h' : h₂.SameHomes h₃) :
    h₁.SameHomes h₃ :=
  ⟨h'.start.trans h.start, h'.account.trans h.account, h'.current.trans h.current⟩

/-- A state that contains a host. -/
class Hosted (σ : Type) where
  host : σ → Host
  put : σ → Host → σ
  host_put (a : σ) (h : Host) : host (put a h) = h
  put_host (a : σ) : put a (host a) = a
  put_put (a : σ) (h h' : Host) : put (put a h) h' = put a h'

instance : Hosted Host where
  host h := h
  put _ h := h
  host_put _ _ := rfl
  put_host _ := rfl
  put_put _ _ _ := rfl

instance : Hosted Terminal where
  host := Terminal.host
  put t h := { t with host := h }
  host_put _ _ := rfl
  put_host _ := rfl
  put_put _ _ _ := rfl

namespace Hosted

variable {σ : Type} [Hosted σ]

/-- A state whose host is amid other files and in another session. -/
def amid (a : σ) (fs : FileSystem) (s : Session) : σ := put a ((host a).amid fs s)

@[simp]
theorem host_amid (a : σ) (fs : FileSystem) (s : Session) :
    host (amid a fs s) = (host a).amid fs s := host_put _ _

theorem amid_self (a : σ) : amid a (host a).files (host a).session = a := put_host a

end Hosted

/-- Files look the same at some paths. -/
def FileSystem.AgreesOn (P : String → Prop) (fs gs : FileSystem) : Prop :=
  ∀ path, P path → gs.look path = fs.look path

theorem FileSystem.AgreesOn.refl (P : String → Prop) (fs : FileSystem) : fs.AgreesOn P fs :=
  fun _ _ => rfl

/-! ## Surveys -/

open Hosted

/-- From a state a step only looks around: whatever the services, and whatever the files that look
the same at some paths, it ends as it does there, and does nothing but log messages. The home
directories stay what they were. -/
structure Action.Surveys {σ ε α : Type} [Hosted σ] (P : String → Prop) (x : Action σ ε α) (a : σ) :
    Prop where
  homes : (host a).SameHomes (host (x a).2)
  ending : ∃ l, ∀ fs s, (host a).files.AgreesOn P fs →
    x (amid a fs s) = ((x a).1, amid (x a).2 fs (s.logged l))

namespace Action.Surveys

variable {σ ε δ α β : Type} [Hosted σ] {P : String → Prop} {x : Action σ ε α} {a b : σ}

/-- What a step that looks around leaves behind, there and amid other files. -/
theorem host_eq (hx : x.Surveys P a) : ∃ l,
    host (x a).2 = (host (x a).2).amid (host a).files ((host a).session.logged l) ∧
    ∀ fs s, (host a).files.AgreesOn P fs →
      x (amid a fs s) = ((x a).1, amid (x a).2 fs (s.logged l)) := by
  obtain ⟨l, hending⟩ := hx.ending
  have hself := hending (host a).files (host a).session (.refl P _)
  rw [amid_self] at hself
  exact ⟨l, (congrArg (fun run => host run.2) hself).trans (host_amid _ _ _), hending⟩

theorem files_eq (hx : x.Surveys P a) : (host (x a).2).files = (host a).files := by
  obtain ⟨l, hhost, -⟩ := hx.host_eq
  rw [hhost]
  rfl

theorem result_eq (hx : x.Surveys P a) {fs : FileSystem} (hfs : (host a).files.AgreesOn P fs)
    (s : Session) : (x (amid a fs s)).1 = (x a).1 := by
  obtain ⟨l, hending⟩ := hx.ending
  rw [hending fs s hfs]

theorem of_apply {f : σ → Except ε α} (hx : ∀ b, x b = (f b, b))
    (hf : ∀ fs s, (host a).files.AgreesOn P fs → f (amid a fs s) = f a) : x.Surveys P a where
  homes := by
    rw [hx]
    exact .refl _
  ending := by
    refine ⟨[], fun fs s hfs => ?_⟩
    rw [hx, hx, hf fs s hfs, Session.logged_nil]

theorem pure (v : α) : (Pure.pure v : Action σ ε α).Surveys P a :=
  of_apply (f := fun _ => .ok v) (fun _ => rfl) fun _ _ _ => rfl

theorem fail (e : ε) : (Action.fail e : Action σ ε α).Surveys P a :=
  of_apply (f := fun _ => .error e) (fun _ => rfl) fun _ _ _ => rfl

theorem ofExcept (r : Except ε α) : (Action.ofExcept r : Action σ ε α).Surveys P a :=
  of_apply (f := fun _ => r) (fun _ => rfl) fun _ _ _ => rfl

/-- A change of the state that leaves its host alone. -/
theorem modify {f : σ → σ} (hhost : ∀ b, host (f b) = host b)
    (hf : ∀ fs s, f (amid a fs s) = amid (f a) fs s) :
    (Action.modify f : Action σ ε Unit).Surveys P a where
  homes := by
    rw [modify_apply, hhost]
    exact .refl _
  ending := by
    refine ⟨[], fun fs s _ => ?_⟩
    rw [modify_apply, modify_apply, hf, Session.logged_nil]

theorem bind {f : α → Action σ ε β} (hx : x.Surveys P a)
    (hf : ∀ v b, x a = (.ok v, b) → (f v).Surveys P b) : (x >>= f).Surveys P a := by
  have hfiles := hx.files_eq
  obtain ⟨hhomes, l, hx⟩ := hx
  rcases hrun : x a with ⟨e | v, b⟩ <;> rw [hrun] at hhomes hfiles hx
  · have hend : (x >>= f) a = (.error e, b) := bind_of_error hrun
    refine ⟨hend ▸ hhomes, l, fun fs s hfs => ?_⟩
    rw [bind_of_error (hx fs s hfs), hend]
  · have hend : (x >>= f) a = f v b := bind_of_ok hrun
    obtain ⟨hhomes', l', hf⟩ := hf v b hrun
    refine ⟨hend ▸ hhomes.trans hhomes', l ++ l', fun fs s hfs => ?_⟩
    have hfs' : (host b).files.AgreesOn P fs := hfiles ▸ hfs
    rw [bind_of_ok (hx fs s hfs), hend, hf fs (s.logged l) hfs', Session.logged_logged]

theorem resume {f : Except ε α → Action σ δ β} (hx : x.Surveys P a)
    (hf : ∀ r b, x a = (r, b) → (f r).Surveys P b) : (Action.resume x f).Surveys P a := by
  have hfiles := hx.files_eq
  obtain ⟨hhomes, l, hx⟩ := hx
  obtain ⟨hhomes', l', hf⟩ := hf _ _ rfl
  refine ⟨hhomes.trans hhomes', l ++ l', fun fs s hfs => ?_⟩
  have hfs' : (host (x a).2).files.AgreesOn P fs := hfiles ▸ hfs
  rw [resume_apply, resume_apply, hx fs s hfs, hf fs (s.logged l) hfs', Session.logged_logged]

theorem mapError (hx : x.Surveys P a) (f : ε → δ) : (Action.mapError f x).Surveys P a := by
  obtain ⟨hhomes, l, hx⟩ := hx
  have hstate : (Action.mapError f x a).2 = (x a).2 := by rw [mapError_apply]
  refine ⟨hstate ▸ hhomes, l, fun fs s hfs => ?_⟩
  rw [mapError_apply, mapError_apply, hx fs s hfs]

/-- Something read, of which nothing counts that the services or other files decide. -/
theorem read_bind {f : σ → α} {g : α → Action σ ε β}
    (hg : ∀ fs s, (host a).files.AgreesOn P fs → g (f (amid a fs s)) = g (f a))
    (hx : (g (f a)).Surveys P a) : (Action.read f >>= g).Surveys P a := by
  obtain ⟨hhomes, l, hx⟩ := hx
  refine ⟨hhomes, l, fun fs s hfs => ?_⟩
  rw [bind_of_ok (read_apply f _), bind_of_ok (read_apply f _), hg fs s hfs, hx fs s hfs]

end Action.Surveys

/-! ## Looking at files -/

namespace FileSystem

variable {P : String → Prop} {fs gs : FileSystem}

theorem isFile_eq_look (fs : FileSystem) (path : String) :
    fs.isFile path = (match fs.look path with | .ok (some (.file _)) => true | _ => false) := by
  unfold isFile look
  rcases fs.place path with ⟨parts, _ | bytes⟩ | _ | _ | _ | _ <;> rfl

theorem AgreesOn.isFile_eq (h : fs.AgreesOn P gs) {path : String} (hP : P path) :
    gs.isFile path = fs.isFile path := by
  rw [isFile_eq_look, isFile_eq_look, h path hP]

/-- The bytes at the end of a path, or why there are none to read. -/
def bytesOf (path : String) : Node → Except FileProblem (List UInt8)
  | .directory => .error (.isDirectory path)
  | .file bytes => .ok bytes

/-- Where something is, looking says what can be read. -/
theorem readBytes_of_look {path : String} {node : Node} (h : fs.look path = .ok (some node)) :
    fs.readBytes path = bytesOf path node := by
  unfold look at h
  unfold readBytes
  rcases hplace : fs.place path with ⟨parts, node'⟩ | _ | _ | _ | _ <;> rw [hplace] at h <;> cases h
  cases node <;> rfl

end FileSystem

namespace Host

variable {P : String → Prop} {h h' : Host} {path : String}

theorem look_apply (path : String) (h : Host) :
    look path h = ((h.files.look path).mapError .file, h) := by
  rw [look, Action.bind_of_ok (Action.read_apply _ h)]
  rcases h.files.look path with e | node? <;> rfl

theorem isThere_apply (path : String) (h : Host) :
    isThere path h = (((h.files.look path).map Option.isSome).mapError .file, h) := by
  have hmap : isThere path = look path >>= fun node? => pure node?.isSome := rfl
  rcases hlook : h.files.look path with e | node?
  · have hrun : look path h = (.error (.file e), h) := by rw [look_apply, hlook]; rfl
    rw [hmap, Action.bind_of_error hrun]
    rfl
  · have hrun : look path h = (.ok node?, h) := by rw [look_apply, hlook]; rfl
    rw [hmap, Action.bind_of_ok hrun]
    rfl

theorem readBytes_apply (path : String) (h : Host) :
    readBytes path h = ((h.files.readBytes path).mapError .file, h) := by
  rw [readBytes, Action.bind_of_ok (Action.read_apply _ h)]
  rcases h.files.readBytes path with e | bytes <;> rfl

/-- Where something is found to be, a look at the files has shown it. -/
theorem look_of_isThere (hrun : isThere path h = (.ok true, h')) :
    h' = h ∧ ∃ node, h.files.look path = .ok (some node) := by
  rw [isThere_apply] at hrun
  obtain ⟨hthere, rfl⟩ := Prod.mk.inj hrun
  rcases hlook : h.files.look path with e | _ | node <;> rw [hlook] at hthere <;> cases hthere
  exact ⟨rfl, node, rfl⟩

theorem isThere_surveys (hP : P path) (h : Host) : (isThere path).Surveys P h := by
  refine .of_apply (isThere_apply path) fun fs s hfs => ?_
  have hlook : fs.look path = h.files.look path := hfs path hP
  exact congrArg (fun r => (Except.map Option.isSome r).mapError Failure.file) hlook

theorem readBytes_surveys (hP : P path) {node : Node}
    (hlook : h.files.look path = .ok (some node)) : (readBytes path).Surveys P h := by
  refine .of_apply (readBytes_apply path) fun fs s hfs => ?_
  have hthere : fs.look path = .ok (some node) := (hfs path hP).trans hlook
  have hread : fs.readBytes path = h.files.readBytes path := by
    rw [FileSystem.readBytes_of_look hthere, FileSystem.readBytes_of_look hlook]
  exact congrArg (Except.mapError Failure.file) hread

theorem readText_surveys (hP : P path) {node : Node} (hlook : h.files.look path = .ok (some node)) :
    (readText path).Surveys P h := by
  refine (readBytes_surveys hP hlook).bind fun bytes b _ => ?_
  split
  · exact .pure _
  · exact .fail _

theorem info_bind {ε α : Type} (message : String) (f : Unit → Action Host ε α) (h : Host) :
    (inSession (Session.info message) >>= f) h =
      f () { h with session := h.session.logged [⟨.info, message⟩] } := rfl

theorem note_surveys {ε : Type} (level : Level) (message : String) (h : Host) :
    (inSession (Session.note level message) : Action Host ε Unit).Surveys P h :=
  ⟨⟨rfl, rfl, rfl⟩, [⟨level, message⟩], fun _ _ _ => rfl⟩

/-- The home directory of the moment is decided by one variable. -/
theorem currentHome_congr {b : Host}
    (hvariable : b.session.environment.get? "HOME" = h.session.environment.get? "HOME")
    (haccount : b.accountHome = h.accountHome) : b.currentHome = h.currentHome := by
  rw [currentHome, currentHome, hvariable, haccount]

theorem requireHome_apply (h : Host) :
    requireHome h = (h.currentHome.map fun _ => (), h) := by
  rw [requireHome, Action.bind_of_ok (Action.get_apply h)]
  rcases h.currentHome with e | home <;> rfl

end Host

/-! ## Preferences and configuration -/

namespace Preferences

variable {P : String → Prop} {h : Host}

theorem ignore_surveys (file problem : String) (h : Host) : (ignore file problem).Surveys P h :=
  .bind (Host.note_surveys _ _ h) fun _ _ _ => .pure _

theorem load_surveys (hP : P (path h)) : load.Surveys P h := by
  refine .read_bind (fun _ _ _ => rfl) ?_
  refine .bind (Host.isThere_surveys hP _) fun there b hthere => ?_
  by_cases htrue : there = true
  · rw [if_pos htrue]
    obtain ⟨rfl, node, hlook⟩ := Host.look_of_isThere (htrue ▸ hthere)
    refine .resume (Host.readText_surveys hP hlook) fun r b _ => ?_
    split
    · exact ignore_surveys _ _ b
    · exact .fail _
    · split
      · exact .pure _
      · exact .fail _
      · exact ignore_surveys _ _ b
  · rw [if_neg htrue]
    exact .pure _

theorem get_surveys (hP : P (path h)) (key : Value) : (get key).Surveys P h := by
  refine .bind (load_surveys hP) fun v b _ => .bind (.ofExcept _) fun m b _ => ?_
  split
  · exact .pure _
  · exact .fail _

end Preferences

namespace Configuration

variable {P : String → Prop} {h : Host}

theorem preferredPath_surveys (hP : P (Preferences.path h)) : preferredPath.Surveys P h := by
  refine .bind (Preferences.get_surveys hP _) fun preference b _ => ?_
  split
  · exact .pure _
  · exact .pure _
  · exact .fail _

theorem defaultDirectory_apply (h : Host) :
    defaultDirectory h = (h.currentHome.map Host.settingsDirectory, h) := by
  rw [defaultDirectory, Action.bind_of_ok (Action.get_apply h)]
  rcases h.currentHome with e | home <;> rfl

/-- The key file that a section on authentication names. -/
def keyFile? (authentication : Option Value) : Option String :=
  match authentication with
  | some (.mapping m) =>
    match Value.field? "service_account_path" m with
    | some (.text file) => some file
    | some (.bytes bs) => (Utf8.decode bs).toOption.map String.ofList
    | _ => none
  | _ => none

/-- The paths that finding the configuration leads to. -/
inductive Visits (h : Host) : String → Prop
  | preferences : Visits h (Preferences.path h)
  | default {home : String} (hhome : h.currentHome = .ok home) :
    Visits h (fileIn (Host.settingsDirectory home))
  | preferred {file : String} (hfile : (preferredPath h).1 = .ok (some file)) : Visits h file
  | keyFile {config file : String} {v : Value} {m : Mapping} (hpath : (path h).1 = .ok config)
    (hread : (read config h).1 = .ok v) (htop : topLevel config v = .ok m)
    (hfile : keyFile? (Value.field? "authentication" m) = some file) : Visits h file

/-- The default configuration file, where it is taken, is there. -/
theorem presentDefault_found {b : Host} {file : String} (hrun : presentDefault h = (.ok file, b)) :
    (∃ home, h.currentHome = .ok home ∧ file = fileIn (Host.settingsDirectory home)) ∧
      ∃ node, h.files.look file = .ok (some node) := by
  rw [presentDefault, Action.bind_eq_ok_iff] at hrun
  obtain ⟨directory, h', hdirectory, hrun⟩ := hrun
  rw [defaultDirectory_apply] at hdirectory
  obtain ⟨hhome, rfl⟩ := Prod.mk.inj hdirectory
  rcases hcurrent : h.currentHome with e | home <;> rw [hcurrent] at hhome <;> cases hhome
  rw [Action.bind_eq_ok_iff] at hrun
  obtain ⟨there, h', hthere, hrun⟩ := hrun
  by_cases htrue : there = true
  · obtain ⟨rfl, node, hlook⟩ := Host.look_of_isThere (htrue ▸ hthere)
    rw [if_pos htrue, Host.info_bind, Action.pure_apply, Prod.mk.injEq, Except.ok.injEq] at hrun
    obtain ⟨rfl, -⟩ := hrun
    exact ⟨⟨home, rfl, rfl⟩, node, hlook⟩
  · rw [if_neg htrue, Action.fail_apply] at hrun
    cases hrun

/-- The configuration file is one of those looked at, and is there. -/
theorem path_found {b : Host} {file : String} (hrun : path h = (.ok file, b)) :
    Visits h file ∧ ∃ node, h.files.look file = .ok (some node) := by
  rw [path, Action.bind_eq_ok_iff] at hrun
  obtain ⟨preferred?, h', hpreferred, hrun⟩ := hrun
  have hsurveys : preferredPath.Surveys (fun _ => True) h := preferredPath_surveys trivial
  have hfiles := hsurveys.files_eq
  have hcurrent := hsurveys.homes.current
  rw [hpreferred] at hfiles hcurrent
  have hdefault : ∀ g : Host, g.files = h'.files → g.currentHome = h'.currentHome →
      presentDefault g = (.ok file, b) →
        Visits h file ∧ ∃ node, h.files.look file = .ok (some node) := by
    intro g hg hghome hrun
    obtain ⟨⟨home, hhome, rfl⟩, node, hlook⟩ := presentDefault_found hrun
    exact ⟨.default (hcurrent ▸ hghome ▸ hhome), node, hfiles ▸ hg ▸ hlook⟩
  cases preferred? with
  | none => exact hdefault h' rfl rfl hrun
  | some preferred =>
    dsimp only at hrun
    rw [Action.bind_eq_ok_iff] at hrun
    obtain ⟨there, h₂, hthere, hrun⟩ := hrun
    by_cases htrue : there = true
    · obtain ⟨rfl, node, hlook⟩ := Host.look_of_isThere (htrue ▸ hthere)
      rw [if_pos htrue, Host.info_bind, Action.pure_apply, Prod.mk.injEq, Except.ok.injEq] at hrun
      obtain ⟨rfl, -⟩ := hrun
      exact ⟨.preferred (congrArg Prod.fst hpreferred), node, hfiles ▸ hlook⟩
    · rw [Host.isThere_apply] at hthere
      obtain ⟨-, rfl⟩ := Prod.mk.inj hthere
      rw [if_neg htrue] at hrun
      exact hdefault { h' with session := h'.session.logged [⟨.warning, _⟩] } rfl rfl hrun

/-- A step on the default configuration file looks at no other one. -/
theorem presentDefault_surveys
    (hP : ∀ home, h.currentHome = .ok home → P (fileIn (Host.settingsDirectory home))) :
    presentDefault.Surveys P h := by
  refine .bind (.of_apply defaultDirectory_apply fun _ _ _ => rfl) fun directory b hdirectory => ?_
  rw [defaultDirectory_apply] at hdirectory
  obtain ⟨hhome, rfl⟩ := Prod.mk.inj hdirectory
  rcases hcurrent : h.currentHome with e | home <;> rw [hcurrent] at hhome <;> cases hhome
  refine .bind (Host.isThere_surveys (hP home hcurrent) _) fun there b _ => ?_
  split
  · exact .bind (Host.note_surveys _ _ _) fun _ _ _ => .pure _
  · exact .fail _

section Visits

variable (hP : ∀ file, Visits h file → P file)

include hP

theorem path_surveys : path.Surveys P h := by
  have hpreferred := preferredPath_surveys (hP _ .preferences)
  refine .bind hpreferred fun preferred? b hrun => ?_
  have hcurrent : b.currentHome = h.currentHome := by
    have hcurrent := hpreferred.homes.current
    rw [hrun] at hcurrent
    exact hcurrent
  have hdefault : ∀ g : Host, g.currentHome = b.currentHome → presentDefault.Surveys P g :=
    fun g hg => presentDefault_surveys fun home hhome =>
      hP _ (.default (hcurrent ▸ hg ▸ hhome))
  cases preferred? with
  | none => exact hdefault b rfl
  | some preferred =>
    have hvisits : P preferred := hP _ (.preferred (congrArg Prod.fst hrun))
    refine .bind (Host.isThere_surveys hvisits b) fun there b' hthere => ?_
    rw [Host.isThere_apply] at hthere
    obtain ⟨-, rfl⟩ := Prod.mk.inj hthere
    split
    · exact .bind (Host.note_surveys _ _ _) fun _ _ _ => .pure _
    · refine .bind (Host.note_surveys _ _ _) fun _ b' hnote => ?_
      obtain ⟨-, rfl⟩ := Prod.mk.inj hnote
      exact hdefault _ rfl

end Visits

/-! ### What the file holds -/

theorem read_surveys {file : String} (hP : P file) {node : Node}
    (hlook : h.files.look file = .ok (some node)) : (read file).Surveys P h := by
  refine .bind ((Host.readBytes_surveys hP hlook).mapError _) fun bytes b _ => ?_
  split
  · exact .pure _
  · exact .fail _
  · exact .fail _

theorem namesFile_congr {fs gs : FileSystem} (h : fs.AgreesOn P gs) {file : Value}
    (htext : ∀ s, file = .text s → P s)
    (hbytes : ∀ bs cs, file = .bytes bs → Utf8.decode bs = .ok cs → P (String.ofList cs)) :
    namesFile gs file = namesFile fs file := by
  cases file with
  | text s => rw [namesFile, namesFile, h.isFile_eq (htext s rfl)]
  | bytes bs =>
    rw [namesFile, namesFile]
    rcases hcs : Utf8.decode bs with e | cs
    · rfl
    · dsimp only
      rw [h.isFile_eq (hbytes bs cs rfl hcs)]
  | _ => rfl

theorem checkAuthentication_congr {fs gs : FileSystem} (h : fs.AgreesOn P gs)
    {authentication : Option Value} (hP : ∀ file, keyFile? authentication = some file → P file) :
    checkAuthentication gs authentication = checkAuthentication fs authentication := by
  rcases authentication with _ | v
  · rfl
  · cases v with
    | mapping m =>
      dsimp only [keyFile?, checkAuthentication] at hP ⊢
      rcases hfile : Value.field? "service_account_path" m with _ | file
      · rcases Value.field? "type" m with _ | type <;> rfl
      · rw [hfile] at hP
        have hnames : namesFile gs file = namesFile fs file := by
          apply namesFile_congr h
          · rintro s rfl
            exact hP s rfl
          · rintro bs cs rfl hcs
            refine hP _ ?_
            dsimp only
            rw [hcs]
            rfl
        rcases Value.field? "type" m with _ | type
        · rfl
        · dsimp only
          rw [hnames]
    | _ => rfl

/-- A configuration is checked alike amid files that look the same at its key file. -/
theorem ofValue_congr {fs gs : FileSystem} (h : fs.AgreesOn P gs) {config : String} {v : Value}
    (hP : ∀ m, topLevel config v = .ok m →
      ∀ file, keyFile? (Value.field? "authentication" m) = some file → P file) :
    ofValue gs config v = ofValue fs config v := by
  rcases htop : topLevel config v with e | m
  · simp only [ofValue, htop, bind, Except.bind]
  · have hcheck := checkAuthentication_congr h (hP m htop)
    simp only [ofValue, htop, bind, Except.bind, hcheck]

/-- A reading of the configuration depends on the files alone. -/
theorem read_congr {file : String} {h b : Host} (hb : b.files = h.files) :
    (read file b).1 = (read file h).1 := by
  simp only [read, Action.bind_apply, Action.mapError_apply, Host.readBytes_apply, hb]
  rcases h.files.readBytes file with e | bytes
  · rfl
  · dsimp only [Except.mapError]
    rcases Yaml.decode (Yaml.Input.ofBytes bytes) with ⟨_ | _⟩ | v <;> rfl

section Visits

variable (hP : ∀ file, Visits h file → P file)

include hP

theorem load_surveys : load.Surveys P h := by
  have hpath := path_surveys hP
  refine .bind hpath fun file b hrun => ?_
  obtain ⟨hvisits, node, hlook⟩ := path_found hrun
  have hfiles : b.files = h.files := by
    have hfiles := hpath.files_eq
    rw [hrun] at hfiles
    exact hfiles
  have hread : (read file).Surveys P b := read_surveys (hP _ hvisits) (hfiles ▸ hlook)
  refine .bind hread fun v b' hrun' => ?_
  have hkey : ∀ m, topLevel file v = .ok m →
      ∀ key, keyFile? (Value.field? "authentication" m) = some key → P key := by
    intro m htop key hkey
    refine hP _ (.keyFile (congrArg Prod.fst hrun) ?_ htop hkey)
    rw [← read_congr hfiles, hrun']
  refine .read_bind (fun fs s hfs => ?_) ?_
  · have hvalue : ofValue (amid b' fs s).files file v = ofValue b'.files file v :=
      ofValue_congr hfs hkey
    rw [hvalue]
  refine .bind (.ofExcept _) fun config b _ => .bind (.ofExcept _) fun project b _ => ?_
  refine .bind (Host.note_surveys _ _ b) fun _ b _ => .bind (.ofExcept _) fun shown b _ => ?_
  exact .bind (Host.note_surveys _ _ b) fun _ b _ => .pure _

end Visits

/-- Setting the variable of the default key file is no step to another home directory. -/
theorem setKeyFile_surveys (file message : String) (h : Host) :
    (Host.inSession (do
      Action.modify fun s => { s with environment := s.environment.set Remote.keyFileVariable file }
      Session.info message) : Action Host Failure Unit).Surveys P h where
  homes := ⟨rfl, rfl, Host.currentHome_congr (Environment.get?_set_of_ne _ (by decide) _) rfl⟩
  ending := ⟨[⟨.info, message⟩], fun _ _ _ => rfl⟩

theorem applyAuthentication_surveys (config : Value) (h : Host) :
    (applyAuthentication config).Surveys P h := by
  refine .bind (.ofExcept _) fun m b _ => ?_
  split
  · exact .pure _
  · refine .bind (.ofExcept _) fun file b _ => ?_
    split
    · split
      · exact .fail _
      · exact setKeyFile_surveys _ _ b
    · exact .fail _

theorem projectId_surveys (config : Option Value) (h : Host) : (projectId config).Surveys P h := by
  refine .read_bind (fun _ _ _ => rfl) ?_
  dsimp only
  split
  · exact .bind (Host.note_surveys _ _ _) fun _ _ _ => .pure _
  · refine .bind (.ofExcept _) fun holds b _ => ?_
    split
    · exact .bind (.ofExcept _) fun _ _ _ => .bind (.ofExcept _) fun _ _ _ => .pure _
    · exact .bind (Host.note_surveys _ _ _) fun _ _ _ => .pure _

/-- What is visited does not depend on the services. -/
theorem visits_amid {s : Session} {file : String} (hfile : Visits (amid h h.files s) file) :
    Visits h file := by
  have hpreferred : (preferredPath (amid h h.files s)).1 = (preferredPath h).1 := by
    have hsurveys : preferredPath.Surveys (fun _ => True) h := preferredPath_surveys trivial
    exact hsurveys.result_eq (.refl _ _) s
  have hpath : (path (amid h h.files s)).1 = (path h).1 := by
    have hsurveys : path.Surveys (fun _ => True) h := path_surveys fun _ _ => trivial
    exact hsurveys.result_eq (.refl _ _) s
  cases hfile with
  | preferences => exact .preferences
  | default hhome => exact .default hhome
  | preferred hfile => exact .preferred (hpreferred ▸ hfile)
  | @keyFile config file v m hp hread htop hfile =>
    have hread' : (read config (amid h h.files s)).1 = (read config h).1 := read_congr rfl
    exact .keyFile (hpath ▸ hp) (hread' ▸ hread) htop hfile

end Configuration

/-- Finding the configuration is looking around at the paths that it visits. -/
theorem configuration_surveys {P : String → Prop} {h : Host}
    (hP : ∀ file, Configuration.Visits h file → P file) : configuration.Surveys P h := by
  refine .resume (Configuration.load_surveys hP) fun r b _ => ?_
  split
  · exact .bind (Configuration.applyAuthentication_surveys _ b) fun _ _ _ => .pure _
  · exact .bind (Host.note_surveys _ _ b) fun _ _ _ => .pure _
  · exact .fail _

end TransferBucket
