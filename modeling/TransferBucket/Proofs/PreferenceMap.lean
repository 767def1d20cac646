import TransferBucket.Proofs.Places
import TransferBucket.Proofs.TokenTexts

/-!
# Preferences are a map

**Theorem (`Preferences.preferences_are_map`).** Take a preferences file that is missing, that holds
no JSON text, or that holds an object of texts (`Says`). Where the file can be written
(`CanBeKept`), every sequence of edits succeeds, and what lies under a key afterwards is what the
last edit of this key left; if none was of this key, it is what the file said at the start. An edit
of one key changes no other, and a key that is not there is cleared without writing. A file with
bytes of no text, or with a number that is too long for the reader, is no such file (`Breaks`):
every use of the preferences ends in a failure, and the file stays as it is.

Every edit reads the whole file and writes the whole file anew. So the invariant is about the file
(`Holds`): it is read as a mapping of texts to texts, and can be written again.

**Reading** (`load_fst`). What is read depends on the look at the file alone.

**Writing** (`save_holds`). What was written is read again, because it is a value that JSON can tell
(`Value.IsTexts.isJson`). The directory of the file is there from then on, so it is not made again.
-/

namespace TransferBucket

open TransferBucket.Action

/-! ## Mappings of texts -/

/-- A mapping of texts to texts, with one value for a key. -/
structure Value.IsTexts (m : Mapping) : Prop where
  distinct : DistinctKeys m
  texts : ∀ e ∈ m, ∃ key value, e = (.text key, .text value)

namespace Value

variable {m : Mapping}

theorem isTexts_nil : IsTexts [] := ⟨.nil, nofun⟩

theorem IsTexts.insert (h : IsTexts m) (key value : String) :
    IsTexts (insert (.text key) (.text value) m) where
  distinct := h.distinct.insert _ _
  texts e he := by
    rcases (mem_insert_text_iff h.distinct).1 he with rfl | ⟨he, -⟩
    · exact ⟨key, value, rfl⟩
    · exact h.texts e he

theorem IsTexts.erase (h : IsTexts m) (key : String) : IsTexts (erase (.text key) m) where
  distinct := h.distinct.erase _
  texts e he := h.texts e (List.mem_of_mem_filter he)

/-- JSON can tell a mapping of texts. -/
theorem IsTexts.isJson (h : IsTexts m) : (Value.mapping m).IsJson := by
  obtain ⟨fields, rfl⟩ : ∃ fields : List (String × String),
      m = fields.map fun f => (.text f.1, .text f.2) := by
    have htexts := h.texts
    clear h
    induction m with
    | nil => exact ⟨[], rfl⟩
    | cons e rest ih =>
      obtain ⟨⟨key, value, rfl⟩, hrest⟩ := List.forall_mem_cons.1 htexts
      obtain ⟨fields, rfl⟩ := ih hrest
      exact ⟨(key, value) :: fields, rfl⟩
  have hnames : (fields.map (·.1)).Nodup := by
    have hdistinct := h.distinct
    rw [DistinctKeys, List.pairwise_map] at hdistinct
    rw [List.Nodup, List.pairwise_map]
    refine hdistinct.imp fun {f g} hne heq => ?_
    rw [heq, sameKey_text_self] at hne
    cases hne
  have hjson : IsJson (record (fields.map fun f => (f.1, .text f.2))) :=
    .record (by simpa [Function.comp_def] using hnames) fun f hf => by
      obtain ⟨g, -, rfl⟩ := List.mem_map.1 hf
      exact .text _
  simpa [record, Function.comp_def] using hjson

/-- An object of texts: its names are texts, and no two are the same. -/
theorem isTexts_of_writesText {cs : List Char} (h : Json.WritesText cs (.mapping m))
    (htexts : ∀ e ∈ m, ∃ value, e.2 = .text value) : IsTexts m := by
  obtain ⟨ms, -, rfl⟩ := Json.decode_eq_mapping_iff.1 (Json.decode_eq_ok_iff.2 h)
  refine ⟨distinctKeys_ofEntries _, fun e he => ?_⟩
  obtain ⟨f, hf, hkey⟩ := key_of_mem_ofEntries he
  obtain ⟨member, -, rfl⟩ := List.mem_map.1 hf
  obtain ⟨value, hvalue⟩ := htexts e he
  exact ⟨member.name, value, Prod.ext hkey.symm hvalue⟩

end Value

/-- The text of a file that is there. -/
theorem Host.readText_of_look {h : Host} {file : String} {bytes : List UInt8}
    (hlook : h.files.look file = .ok (some (.file bytes))) : Host.readText file h =
      ((match Utf8.decode bytes with
        | .ok cs => .ok (String.ofList (unifyLineEnds cs))
        | .error e => .error (.value (.undecodable e))), h) := by
  have hbytes : h.files.readBytes file = .ok bytes := FileSystem.readBytes_of_look hlook
  have hrun : Host.readBytes file h = (.ok bytes, h) := by
    rw [Host.readBytes_apply, hbytes]
    rfl
  rw [Host.readText, bind_of_ok hrun]
  rcases Utf8.decode bytes with e | cs <;> rfl

/-- What a step on the host that looks around leaves as it is. -/
theorem Action.Surveys.host_spec {ε α : Type} {P : String → Prop} {x : Action Host ε α} {h : Host}
    (hx : x.Surveys P h) : (x h).2.files = h.files ∧ h.SameHomes (x h).2 :=
  ⟨hx.files_eq, hx.homes⟩

theorem Action.eq_of_fst {σ ε α : Type} {x : Action σ ε α} {s : σ} {r : Except ε α}
    (h : (x s).1 = r) : x s = (r, (x s).2) := Prod.ext h rfl

namespace Preferences

open Host

variable {h h' : Host} {m : Mapping} {node? : Option Node}

/-! ## Reading -/

/-- What the preferences are, by what is at the end of their path. -/
def ofNode : Option Node → Except Failure Value
  | some (.file bytes) =>
    match Utf8.decode bytes with
    | .error e => .error (.value (.undecodable e))
    | .ok cs =>
      match Json.decode (unifyLineEnds cs) with
      | .ok v => .ok v
      | .error (.tooLong digits) => .error (.value (.json (.tooLong digits)))
      | .error (.syntaxError ..) => .ok (.mapping [])
  | _ => .ok (.mapping [])

/-- **What is read** depends on the look at the file alone. -/
theorem load_fst (hlook : h.files.look (path h) = .ok node?) : (load h).1 = ofNode node? := by
  have hthere : isThere (path h) h = (.ok node?.isSome, h) := by
    rw [isThere_apply, hlook]
    rfl
  rw [load, bind_of_ok (read_apply path h), bind_of_ok hthere]
  rcases node? with _ | _ | bytes
  · rfl
  · have hbytes : readBytes (path h) h = (.error (.file (.isDirectory (path h))), h) := by
      rw [readBytes_apply, FileSystem.readBytes_of_look hlook]
      rfl
    have hread : readText (path h) h = (.error (.file (.isDirectory (path h))), h) :=
      bind_of_error hbytes
    rw [Option.isSome_some, if_pos rfl, resume_apply, hread]
    rfl
  · rw [Option.isSome_some, if_pos rfl, resume_apply, readText_of_look hlook, ofNode]
    rcases Utf8.decode bytes with e | cs
    · rfl
    · dsimp only
      rw [String.toList_ofList]
      rcases Json.decode (unifyLineEnds cs) with ⟨_ | _⟩ | v <;> rfl

theorem load_snd (h : Host) : (load h).2.files = h.files ∧ h.SameHomes (load h).2 :=
  (load_surveys (P := fun _ => True) trivial).host_spec

theorem get_fst (key : String) (hload : (load h).1 = .ok (.mapping m)) :
    (get (.text key) h).1 = .ok (Value.field key m) := by
  have hrun : load h = (.ok (.mapping m), (load h).2) := eq_of_fst hload
  rw [get, bind_of_ok hrun]
  rfl

/-! ## Writing -/

/-- The files with the directory of the preferences, which is made if it is missing. -/
def directoryMade (h : Host) : Except FileProblem FileSystem :=
  let directory := settingsDirectory h.home
  h.files.makeDirectories (Path.root directory)
    ((Path.names directory).filter (· ≠ "")).reverse

/-- The preferences file can be written: its directory is there or can be made, and a file is at its
place there, or nothing. -/
def CanBeKept (h : Host) : Prop := ∃ fs, directoryMade h = .ok fs ∧ fs.Accepts (path h)

theorem path_congr (hhome : h'.home = h.home) : path h' = path h := by
  rw [path, path, hhome]

theorem CanBeKept.congr (hkept : CanBeKept h) (hfiles : h'.files = h.files)
    (hhome : h'.home = h.home) : CanBeKept h' := by
  rw [CanBeKept, directoryMade, path_congr hhome, hfiles, hhome]
  exact hkept

/-- The directory of the preferences has a name of its own. -/
theorem exists_names_settingsDirectory (home : String) : ∃ above,
    ((Path.names (settingsDirectory home)).filter (· ≠ "")).reverse = "gcs-provision" :: above := by
  have hname : Path.names "gcs-provision" = ["gcs-provision"] := by decide
  have hlast : ∃ before, Path.names (settingsDirectory home) = before ++ ["gcs-provision"] := by
    rw [settingsDirectory]
    generalize Path.inside (Path.normalise home) ".config" = directory
    rw [Path.inside]
    split_ifs
    · exact ⟨[""], by decide⟩
    · exact ⟨[], hname⟩
    · exact ⟨Path.names directory, by rw [Path.names_append, hname]⟩
  obtain ⟨before, hbefore⟩ := hlast
  refine ⟨(before.filter (· ≠ "")).reverse, ?_⟩
  rw [hbefore, List.filter_append, List.reverse_append]
  rfl

/-- The preferences are read as a mapping of texts, and can be written. -/
structure Holds (h : Host) (m : Mapping) : Prop where
  texts : Value.IsTexts m
  loaded : (load h).1 = .ok (.mapping m)
  canBeKept : CanBeKept h

theorem writeText_of_writeBytes {file : String} {text : List Char} {fs : FileSystem}
    (hfits : Path.Fits file) (hwrite : h.files.writeBytes file (Utf8.encode text) = .ok fs) :
    writeText file text h = (.ok (), { h with files := fs }) := by
  have hnull : ¬ file.toList.contains '\x00' = true := (not_or.1 hfits.proper).2
  rw [writeText, if_neg hnull]
  dsimp only
  rw [bind_of_ok (read_apply _ h), hwrite]
  rfl

theorem save_of_made {v : Value} {text : List Char} {made fs : FileSystem}
    (hmade : directoryMade h = .ok made) (htext : Json.encode (.indented 2) v = .ok text)
    (hfits : Path.Fits (path h)) (hwrite : made.writeBytes (path h) (Utf8.encode text) = .ok fs) :
    save v h = (.ok (), { h with files := fs }) := by
  have hwritten : writeText (path h) text { h with files := made } =
      (.ok (), { h with files := fs }) := writeText_of_writeBytes hfits hwrite
  rw [directoryMade] at hmade
  simp only [save, bind_apply, read_apply, modify_apply, hmade, htext]
  exact hwritten

/-- **Writing.** What is written is there from then on, and can be written again. -/
theorem save_holds (hkept : CanBeKept h) (hm : Value.IsTexts m) :
    ∃ fs, save (.mapping m) h = (.ok (), { h with files := fs }) ∧
      fs.directory = h.files.directory ∧
      ∀ h', h'.files = fs → h'.home = h.home → Holds h' m := by
  obtain ⟨made, hmade, haccepts⟩ := hkept
  obtain ⟨text, htext⟩ : ∃ text, Json.encode (.indented 2) (.mapping m) = .ok text :=
    ⟨_, Json.encode_of_isJson hm.isJson _⟩
  obtain ⟨fs, hwrite⟩ := haccepts.exists_writeBytes (Utf8.encode text)
  have hwrote := FileSystem.wrote_of_writeBytes hwrite
  refine ⟨fs, save_of_made hmade htext haccepts.reaches.fits hwrite,
    hwrote.directory.trans (FileSystem.directory_of_makeDirectories hmade),
    fun h' hfiles hhome => ⟨hm, ?_, ?_⟩⟩
  · have hlook : h'.files.look (path h') = .ok (some (.file (Utf8.encode text))) := by
      rw [path_congr hhome, hfiles]
      exact hwrote.look_eq
    obtain ⟨hplain, hdecode⟩ := Json.of_encode hm.isJson htext
    rw [load_fst hlook, ofNode, Utf8.decode_encode]
    dsimp only
    rw [unifyLineEnds_eq_self hplain, hdecode]
  · obtain ⟨above, habove⟩ := exists_names_settingsDirectory h.home
    rw [directoryMade, habove] at hmade
    have hthere := FileSystem.isDirectory_of_writeBytes hwrite
      (FileSystem.isDirectory_of_makeDirectories hmade)
    have hfile : fs.Accepts (path h') := by
      rw [path_congr hhome]
      exact Or.inr ⟨_, _, hwrote.place_eq⟩
    refine ⟨fs, ?_, hfile⟩
    rw [directoryMade, hfiles, hhome, habove]
    exact FileSystem.makeDirectories_of_isDirectory hthere

/-! ## Edits -/

/-- A change of the preferences. -/
inductive Edit where
  | set (key value : String)
  | clear (key : String)
  deriving DecidableEq

namespace Edit

/-- The key that is set or cleared. -/
def key : Edit → String
  | .set key _ => key
  | .clear key => key

/-- What lies under the key afterwards. -/
def leaves : Edit → Value
  | .set _ value => .text value
  | .clear _ => .null

/-- The step that makes the change. -/
def run : Edit → Action Host Failure Unit
  | .set key value => Preferences.set (.text key) (.text value)
  | .clear key => Preferences.clear (.text key)

/-- The mapping after the change. -/
def apply (m : Mapping) : Edit → Mapping
  | .set key value => Value.insert (.text key) (.text value) m
  | .clear key => Value.erase (.text key) m

theorem field_apply (e : Edit) (key : String) (m : Mapping) :
    Value.field key (e.apply m) = if e.key = key then e.leaves else Value.field key m := by
  cases e with
  | set k value =>
    rw [apply, Value.field, Value.field?_insert]
    by_cases hk : k = key <;> simp [Edit.key, leaves, Value.field, hk]
  | clear k =>
    rw [apply, Value.field, Value.field?_erase]
    by_cases hk : k = key <;> simp [Edit.key, leaves, Value.field, hk]

theorem isTexts_apply (e : Edit) (hm : Value.IsTexts m) : Value.IsTexts (e.apply m) := by
  cases e with
  | set key value => exact hm.insert key value
  | clear key => exact hm.erase key

end Edit

/-- A key that is not there need not be taken away. -/
theorem erase_of_field?_eq_none {key : String} (h : Value.field? key m = none) :
    Value.erase (.text key) m = m := by
  rw [Value.erase, List.filter_eq_self]
  intro e he
  rw [Value.lookup?_eq_none_iff.1 h e he]
  rfl

/-- What is read is found again where only messages were logged. -/
theorem Holds.congr (hm : Holds h m) (hfiles : h'.files = h.files) (hhome : h'.home = h.home) :
    Holds h' m where
  texts := hm.texts
  loaded := by
    have hloaded := hm.loaded
    obtain ⟨fs, -, haccepts⟩ := hm.canBeKept
    obtain ⟨node?, hlook⟩ :=
      FileSystem.exists_look_of_fits haccepts.reaches.fits h.files
    have hlook' : h'.files.look (path h') = .ok node? := by
      rw [path_congr hhome, hfiles]
      exact hlook
    rw [load_fst hlook']
    rw [load_fst hlook] at hloaded
    exact hloaded
  canBeKept := hm.canBeKept.congr hfiles hhome

theorem Holds.exists_load (hm : Holds h m) :
    ∃ b, load h = (.ok (.mapping m), b) ∧ b.files = h.files ∧ h.SameHomes b :=
  ⟨(load h).2, eq_of_fst hm.loaded, load_snd h⟩

/-- Logging a message changes nothing but the log. -/
theorem exists_note (level : Level) (message : String) (h : Host) :
    ∃ h', (inSession (Session.note level message) : Action Host Failure Unit) h = (.ok (), h') ∧
      h'.files = h.files ∧ h.SameHomes h' :=
  ⟨_, rfl, rfl, rfl, rfl, rfl⟩

/-- Clearing a key that is not there writes nothing. -/
theorem clear_absent {key : String} (hm : Holds h m) (habsent : Value.field? key m = none) :
    ∃ h', clear (.text key) h = (.ok (), h') ∧ h'.files = h.files ∧ h.SameHomes h' := by
  obtain ⟨b, hrun, hfiles, hhomes⟩ := hm.exists_load
  obtain ⟨h', hnote, hfiles', hhomes'⟩ := exists_note .debug
    s!"Preference '{(Value.text key).display}' not found, nothing to clear" b
  have hholds : (Value.mapping m).holds (.text key) = .ok false := by
    have hnone : Value.lookup? (.text key) m = none := habsent
    rw [Value.holds, hnone]
    rfl
  refine ⟨h', ?_, hfiles'.trans hfiles, hhomes.trans hhomes'⟩
  rw [clear, bind_of_ok hrun, hholds]
  exact hnote

/-- **An edit** changes the mapping as it says, and the file holds the changed mapping. -/
theorem Edit.run_holds (hm : Holds h m) (e : Edit) :
    ∃ h', e.run h = (.ok (), h') ∧ Holds h' (e.apply m) ∧
      h'.files.directory = h.files.directory ∧ h.SameHomes h' := by
  obtain ⟨b, hrun, hfiles, hhomes⟩ := hm.exists_load
  have hkept : CanBeKept b := hm.canBeKept.congr hfiles hhomes.start
  obtain ⟨fs, hsave, hdirectory, hholds⟩ := save_holds hkept (e.isTexts_apply hm.texts)
  -- the file is written, and then a message is logged
  have hend : ∀ message, ∃ h', (do
      save (.mapping (e.apply m))
      inSession (Session.info message) : Action Host Failure Unit) b = (.ok (), h') ∧
        Holds h' (e.apply m) ∧ h'.files.directory = h.files.directory ∧ h.SameHomes h' := by
    intro message
    obtain ⟨h', hnote, hfiles', hhomes'⟩ := exists_note .info message { b with files := fs }
    refine ⟨h', (bind_of_ok hsave).trans hnote, hholds h' hfiles' hhomes'.start, ?_,
      hhomes.trans ⟨hhomes'.start, hhomes'.account, hhomes'.current⟩⟩
    rw [hfiles', hdirectory, hfiles]
  cases e with
  | set key value =>
    have hput : put (.mapping m) (.text key) (.text value) =
        .ok (.mapping ((Edit.set key value).apply m)) := rfl
    rw [run, Preferences.set, bind_of_ok hrun, hput, bind_of_ok (ofExcept_apply _ b)]
    exact hend _
  | clear key =>
    rcases habsent : Value.field? key m with _ | v
    · obtain ⟨h', hclear, hfiles', hhomes'⟩ := clear_absent hm habsent
      rw [apply, erase_of_field?_eq_none habsent]
      exact ⟨h', hclear, hm.congr hfiles' hhomes'.start,
        congrArg FileSystem.directory hfiles', hhomes'⟩
    · have hholds : (Value.mapping m).holds (.text key) = .ok true := by
        have hsome : Value.lookup? (.text key) m = some v := habsent
        rw [Value.holds, hsome]
        rfl
      have hdrop : drop (.mapping m) (.text key) =
          .ok (.mapping ((Edit.clear key).apply m)) := rfl
      rw [run, Preferences.clear, bind_of_ok hrun, hholds, bind_of_ok (ofExcept_apply _ b),
        if_pos rfl, hdrop, bind_of_ok (ofExcept_apply _ b)]
      exact hend _

/-- Edits, one after the other. -/
def editAll : List Edit → Action Host Failure Unit
  | [] => pure ()
  | e :: es => do
    e.run
    editAll es

/-- **A sequence of edits.** -/
theorem editAll_holds (hm : Holds h m) (es : List Edit) :
    ∃ h', editAll es h = (.ok (), h') ∧ Holds h' (es.foldl Edit.apply m) := by
  induction es generalizing h m with
  | nil => exact ⟨h, rfl, hm⟩
  | cons e es ih =>
    obtain ⟨b, hrun, hb, -, -⟩ := e.run_holds hm
    obtain ⟨h', hrest, hh'⟩ := ih hb
    exact ⟨h', (bind_of_ok hrun).trans hrest, hh'⟩

/-- What lies under a key after edits: what the last edit of the key left, or what was there before
if none was of this key. -/
def valueAfter (es : List Edit) (m : Mapping) (key : String) : Value :=
  match (es.filter fun e => e.key = key).getLast? with
  | some e => e.leaves
  | none => Value.field key m

/-- The last edit of a key counts. -/
theorem field_foldl_apply (es : List Edit) (m : Mapping) (key : String) :
    Value.field key (es.foldl Edit.apply m) = valueAfter es m key := by
  induction es generalizing m with
  | nil => rfl
  | cons e es ih =>
    rw [List.foldl_cons, ih, valueAfter, valueAfter, e.field_apply]
    by_cases hkey : e.key = key
    · rw [List.filter_cons_of_pos (by simp [hkey]), List.getLast?_cons, if_pos hkey]
      generalize (List.filter _ es).getLast? = last?
      cases last? <;> rfl
    · rw [List.filter_cons_of_neg (by simp [hkey]), if_neg hkey]

/-! ## Files that the preferences may start from -/

/-- What the preferences say at the start, where their file is missing, is no JSON text, or is an
object of texts. -/
inductive Says : Option Node → Mapping → Prop
  | missing : Says none []
  | noJson {bytes : List UInt8} {cs : List Char} {problem : Json.Problem} {line column offset : Nat}
    (hbytes : Utf8.decode bytes = .ok cs)
    (hjson : Json.decode (unifyLineEnds cs) = .error (.syntaxError problem line column offset)) :
    Says (some (.file bytes)) []
  | object {bytes : List UInt8} {cs : List Char} {m : Mapping} (hbytes : Utf8.decode bytes = .ok cs)
    (hjson : Json.WritesText (unifyLineEnds cs) (.mapping m))
    (htexts : ∀ e ∈ m, ∃ value, e.2 = .text value) : Says (some (.file bytes)) m

/-- A file with which every use of the preferences fails: its bytes are those of no text, or a
number in it is too long to be read. -/
inductive Breaks : Option Node → Failure → Prop
  | undecodable {bytes : List UInt8} {e : Utf8.Malformed} (hbytes : Utf8.decode bytes = .error e) :
    Breaks (some (.file bytes)) (.value (.undecodable e))
  | tooLong {bytes : List UInt8} {cs : List Char} {digits : Nat}
    (hbytes : Utf8.decode bytes = .ok cs)
    (hjson : Json.decode (unifyLineEnds cs) = .error (.tooLong digits)) :
    Breaks (some (.file bytes)) (.value (.json (.tooLong digits)))

/-- The bytes of a file are those of no JSON text. -/
def IsNoJson (bytes : List UInt8) : Prop :=
  ∀ cs v, Utf8.decode bytes = .ok cs → ¬ Json.WritesText (unifyLineEnds cs) v

/-- A file that is no JSON text counts as empty, or cannot be used at all. -/
theorem says_or_breaks {bytes : List UInt8} (h : IsNoJson bytes) :
    Says (some (.file bytes)) [] ∨ ∃ f, Breaks (some (.file bytes)) f := by
  rcases hbytes : Utf8.decode bytes with e | cs
  · exact Or.inr ⟨_, .undecodable hbytes⟩
  · rcases hjson : Json.decode (unifyLineEnds cs) with (_ | digits) | v
    · exact Or.inl (.noJson hbytes hjson)
    · exact Or.inr ⟨_, .tooLong hbytes hjson⟩
    · exact absurd (Json.decode_eq_ok_iff.1 hjson) (h cs v hbytes)

theorem holds_of_said (hlook : h.files.look (path h) = .ok node?) (hsaid : Says node? m)
    (hkept : CanBeKept h) : Holds h m := by
  refine ⟨?_, ?_, hkept⟩
  · cases hsaid with
    | missing => exact Value.isTexts_nil
    | noJson => exact Value.isTexts_nil
    | object hbytes hjson htexts => exact Value.isTexts_of_writesText hjson htexts
  · rw [load_fst hlook]
    cases hsaid with
    | missing => rfl
    | noJson hbytes hjson => simp only [ofNode, hbytes, hjson]
    | object hbytes hjson htexts => simp only [ofNode, hbytes, Json.decode_eq_ok_iff.2 hjson]

theorem Breaks.ofNode_eq {f : Failure} (hbreaks : Breaks node? f) : ofNode node? = .error f := by
  cases hbreaks with
  | undecodable hbytes => simp only [ofNode, hbytes]
  | tooLong hbytes hjson => simp only [ofNode, hbytes, hjson]

theorem load_of_breaks {f : Failure} (hlook : h.files.look (path h) = .ok node?)
    (hbreaks : Breaks node? f) : ∃ b, load h = (.error f, b) ∧ b.files = h.files := by
  have hload : (load h).1 = .error f := by
    rw [load_fst hlook, hbreaks.ofNode_eq]
  exact ⟨(load h).2, eq_of_fst hload, (load_snd h).1⟩

theorem get_of_breaks {f : Failure} (hlook : h.files.look (path h) = .ok node?)
    (hbreaks : Breaks node? f) (key : Value) : (get key h).1 = .error f := by
  obtain ⟨b, hload, -⟩ := load_of_breaks hlook hbreaks
  rw [get, bind_of_error hload]

theorem isNoJson_of_breaks {f : Failure} {bytes : List UInt8}
    (h : Breaks (some (.file bytes)) f) : IsNoJson bytes := by
  intro cs v hcs hwrites
  cases h with
  | undecodable hbytes =>
    rw [hbytes] at hcs
    cases hcs
  | tooLong hbytes hjson =>
    rw [hbytes] at hcs
    cases hcs
    rw [Json.decode_eq_ok_iff.2 hwrites] at hjson
    cases hjson

/-- **Preferences are a map.** From a file that is missing, is no JSON text or is an object of
texts, every sequence of edits succeeds and leaves under every key what its last edit says, or what
was there; an edit does not change other keys, and clearing a key that is not there writes nothing.
A file that is no JSON text is such a file, unless its bytes are those of no text or a number in it
is too long; then every step fails, and the files stay as they are. -/
theorem preferences_are_map (hlook : h.files.look (path h) = .ok node?) (hkept : CanBeKept h) :
    (∀ m, Says node? m → ∀ es, ∃ h', editAll es h = (.ok (), h') ∧
      (∀ key, (get (.text key) h').1 = .ok (valueAfter es m key)) ∧
      (∀ e : Edit, ∃ h'', e.run h' = (.ok (), h'') ∧
        ∀ key, key ≠ e.key → (get (.text key) h'').1 = (get (.text key) h').1) ∧
      ∀ key, valueAfter es m key = .null → (clear (.text key) h').2.files = h'.files) ∧
    (∀ bytes, node? = some (.file bytes) → IsNoJson bytes →
      Says node? [] ∨ ∃ f, Breaks node? f) ∧
    ∀ f, Breaks node? f → (∀ key, (get (.text key) h).1 = .error f) ∧
      ∀ e : Edit, (e.run h).1 = .error f ∧ (e.run h).2.files = h.files := by
  refine ⟨fun m hsaid es => ?_, ?_, fun f hbreaks => ?_⟩
  · obtain ⟨h', hrun, hh'⟩ := editAll_holds (holds_of_said hlook hsaid hkept) es
    have hget : ∀ key, (get (.text key) h').1 = .ok (valueAfter es m key) := by
      intro key
      rw [get_fst _ hh'.loaded, field_foldl_apply]
    refine ⟨h', hrun, hget, fun e => ?_, fun key hnull => ?_⟩
    · obtain ⟨h'', hrun', hh'', -, -⟩ := e.run_holds hh'
      refine ⟨h'', hrun', fun key hne => ?_⟩
      rw [get_fst _ hh''.loaded, get_fst _ hh'.loaded, e.field_apply, if_neg (Ne.symm hne)]
    · -- a value that is there is a text, hence not null
      have habsent : Value.field? key (es.foldl Edit.apply m) = none := by
        rw [← field_foldl_apply, Value.field] at hnull
        rcases hfound : Value.field? key (es.foldl Edit.apply m) with _ | v
        · rfl
        · obtain ⟨k, hmem, -⟩ := Value.mem_of_lookup? hfound
          obtain ⟨_, s, heq⟩ := hh'.texts.texts _ hmem
          rw [hfound, (Prod.mk.inj heq).2] at hnull
          cases hnull
      obtain ⟨h'', hclear, hfiles, -⟩ := clear_absent hh' habsent
      rw [hclear]
      exact hfiles
  · rintro bytes rfl hno
    exact says_or_breaks hno
  · obtain ⟨b, hload, hfiles⟩ := load_of_breaks hlook hbreaks
    refine ⟨fun key => get_of_breaks hlook hbreaks _, fun e => ?_⟩
    cases e with
    | set key value =>
      rw [Edit.run, Preferences.set, bind_of_error hload]
      exact ⟨rfl, hfiles⟩
    | clear key =>
      rw [Edit.run, Preferences.clear, bind_of_error hload]
      exact ⟨rfl, hfiles⟩

/-- A host whose preferences file has these bytes. -/
def hostWith (bytes : List UInt8) : Host where
  session := { vault := { kind := .environment } }
  home := "/root"
  files := {
    nodes := [
      (["root"], .directory), (["root", ".config"], .directory),
      (["root", ".config", "gcs-provision"], .directory),
      (["root", ".config", "gcs-provision", "preferences.json"], .file bytes)] }

theorem place_hostWith (bytes : List UInt8) :
    (hostWith bytes).files.place (path (hostWith bytes)) =
      .found ["root", ".config", "gcs-provision", "preferences.json"] (.file bytes) := by
  have hpath : Path.inside (settingsDirectory "/root") "preferences.json" =
      "/root/.config/gcs-provision/preferences.json" := by decide +kernel
  have hnames : Path.names "/root/.config/gcs-provision/preferences.json" =
      ["", "root", ".config", "gcs-provision", "preferences.json"] := by decide +kernel
  have habsolute : Path.isAbsolute "/root/.config/gcs-provision/preferences.json" = true := by
    decide +kernel
  have hfits : Path.Fits "/root/.config/gcs-provision/preferences.json" :=
    ⟨by decide +kernel, by decide +kernel, by rw [hnames]; decide +kernel⟩
  have hhost : path (hostWith bytes) = "/root/.config/gcs-provision/preferences.json" := hpath
  rw [hhost, hfits.place_eq, hnames, habsolute]
  simp [FileSystem.walk, FileSystem.node?, hostWith, Path.longestName]
  rfl

theorem look_hostWith (bytes : List UInt8) :
    (hostWith bytes).files.look (path (hostWith bytes)) = .ok (some (.file bytes)) := by
  rw [FileSystem.look, place_hostWith]

/-- One key is set twice and another, which the file had, is cleared. -/
theorem preferences_are_map_edited :
    let text := "\x7b\"theme\": \"dark\"\x7d".toList
    let h := hostWith (Utf8.encode text)
    let es : List Edit := [.set "language" "de", .clear "theme", .set "language" "en"]
    h.files.look (path h) = .ok (some (.file (Utf8.encode text))) ∧ CanBeKept h ∧
      ∃ h', editAll es h = (.ok (), h') ∧ (get (.text "language") h').1 = .ok (.text "en") ∧
        (get (.text "theme") h').1 = .ok .null ∧
        (clear (.text "theme") h').2.files = h'.files := by
  intro text h es
  have hlook : h.files.look (path h) = .ok (some (.file (Utf8.encode text))) := look_hostWith _
  have hmade : directoryMade h = .ok h.files := by decide +kernel
  have hkept : CanBeKept h := ⟨h.files, hmade, Or.inr ⟨_, _, place_hostWith _⟩⟩
  have hsaid : Says (some (.file (Utf8.encode text))) [(.text "theme", .text "dark")] := by
    refine .object (Utf8.decode_encode text) (Json.decode_eq_ok_iff.1 (by decide +kernel)) ?_
    simp
  have hlanguage : valueAfter es [(.text "theme", .text "dark")] "language" = .text "en" := by
    decide +kernel
  have htheme : valueAfter es [(.text "theme", .text "dark")] "theme" = .null := by decide +kernel
  obtain ⟨h', hrun, hget, -, hclear⟩ := (preferences_are_map hlook hkept).1 _ hsaid es
  exact ⟨hlook, hkept, h', hrun, (hget "language").trans (congrArg _ hlanguage),
    (hget "theme").trans (congrArg _ htheme), hclear "theme" htheme⟩

/-- A file that is no JSON text need not count as empty: bytes of no text, and a number with too
many digits before something else, make every use of the preferences fail. -/
theorem unusable_preferences_break :
    let h := hostWith [0xff]
    let text := List.replicate 4301 '1' ++ [' ', 'x']
    let h' := hostWith (Utf8.encode text)
    (IsNoJson [0xff] ∧ ∃ e, (get (.text "theme") h).1 = .error (.value (.undecodable e))) ∧
      IsNoJson (Utf8.encode text) ∧
      (get (.text "theme") h').1 = .error (.value (.json (.tooLong 4301))) := by
  intro h text h'
  obtain ⟨e, hbytes⟩ : ∃ e, Utf8.decode [0xff] = .error e := ⟨_, rfl⟩
  have hjson : Json.decode (unifyLineEnds text) = .error (.tooLong 4301) := by decide +kernel
  have hbreaks : Breaks (some (.file [0xff])) (.value (.undecodable e)) := .undecodable hbytes
  have hbreaks' : Breaks (some (.file (Utf8.encode text))) (.value (.json (.tooLong 4301))) :=
    .tooLong (Utf8.decode_encode text) hjson
  have hget : (get (.text "theme") h).1 = .error (.value (.undecodable e)) :=
    get_of_breaks (look_hostWith _) hbreaks _
  have hget' : (get (.text "theme") h').1 = .error (.value (.json (.tooLong 4301))) :=
    get_of_breaks (look_hostWith _) hbreaks' _
  exact ⟨⟨isNoJson_of_breaks hbreaks, e, hget⟩, isNoJson_of_breaks hbreaks', hget'⟩

end Preferences

end TransferBucket
