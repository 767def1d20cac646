import TransferBucket.Proofs.Encoding
import TransferBucket.Proofs.JsonRoundTrip
import TransferBucket.Proofs.Surveying

/-!
# Files that are written

**Writing a file** (`FileSystem.Wrote`). Where writing succeeds, one file has new bytes or is new
itself. Its path leads to it from then on, and every path that resolves to another place looks as
before: a path that goes on from the place of the file led nowhere, and still does.

**JSON in files** (`Host.readText_of_wrote`). A JSON text that is written is read again as it was,
because it has no carriage return in it (`Json.return_notMem_render`), so that reading, which
unifies the ends of lines, changes nothing.
-/

namespace TransferBucket

/-! ## Putting files into the tree -/

/-- The place that one more name leads to. -/
def Path.step (here : List String) (name : String) : List String :=
  if name = "" ∨ name = "." then here
  else if name = ".." then here.dropLast
  else here ++ [name]

theorem Path.resolve_eq (directory : List String) (path : String) : resolve directory path =
    (names path).foldl step (if isAbsolute path then [] else directory) := rfl

namespace FileSystem

variable {fs fs' : FileSystem} {parts here names : List String} {node : Node}
  {bytes : List UInt8} {path : String}

theorem node?_put_self (h : parts ≠ []) : (fs.put parts node).node? parts = some node := by
  simp [node?, put, h]

theorem node?_put_of_ne (h : here ≠ parts) : (fs.put parts node).node? here = fs.node? here := by
  simp only [node?, put, List.find?_cons, decide_eq_false (Ne.symm h), List.find?_filter]
  congr 3
  funext n
  by_cases hn : n.1 = here <;> simp [hn, h]

/-- A file can be put at a place: a file is there, or nothing. -/
structure TakesFile (fs : FileSystem) (parts : List String) : Prop where
  ne_root : parts ≠ []
  not_directory : fs.node? parts ≠ some .directory

/-- Where a walk that ends at a place leads, and what is there. -/
theorem walk_spec (fs : FileSystem) (here names : List String) :
    match fs.walk here names with
    | .found parts node => names.foldl Path.step here = parts ∧ fs.node? parts = some node
    | .free parts => names.foldl Path.step here = parts ∧ fs.TakesFile parts
    | _ => True := by
  fun_induction FileSystem.walk fs here names with
  | case1 here node hnode => exact ⟨rfl, hnode⟩
  | case3 here name rest hnode hstay ih =>
    simpa only [List.foldl_cons, Path.step, if_pos hstay] using ih
  | case4 here rest hnode hstay ih =>
    simpa only [List.foldl_cons, Path.step, if_neg hstay, if_true] using ih
  | case6 here name rest hnode hstay hup hshort node hnext ih =>
    simpa only [List.foldl_cons, Path.step, if_neg hstay, if_neg hup] using ih
  | case7 here name rest hnode hstay hup hshort hnext hlast =>
    rw [List.isEmpty_iff.1 hlast]
    refine ⟨?_, ?_, ?_⟩
    · simp only [List.foldl_cons, List.foldl_nil, Path.step, if_neg hstay, if_neg hup]
    · simp
    · simp [hnext]
  | _ => trivial

/-- A place where a node was put, and every other place, as they are after it. -/
theorem TakesFile.node?_put (htakes : fs.TakesFile parts) (here : List String) :
    (fs.put parts node).node? here = if here = parts then some node else fs.node? here := by
  split
  · next h => rw [h, node?_put_self htakes.ne_root]
  · next h => exact node?_put_of_ne h

/-- Directories stay. -/
theorem TakesFile.keeps_directory (htakes : fs.TakesFile parts)
    (h : fs.node? here = some .directory) :
    (fs.put parts node).node? here = some .directory := by
  rw [htakes.node?_put, if_neg, h]
  rintro rfl
  exact htakes.not_directory h

/-- A walk to a place where a file can be put leads there once a node is put. -/
theorem walk_put_self (htakes : fs.TakesFile parts) (h : fs.walk here names = .free parts ∨
    ∃ old, fs.walk here names = .found parts (.file old)) :
    (fs.put parts node).walk here names = .found parts node := by
  fun_induction FileSystem.walk fs here names with
  | case1 here node hnode =>
    obtain ⟨old, hfound⟩ := h.resolve_left (by simp)
    cases hfound
    simp [walk, htakes.node?_put]
  | case3 here name rest hnode hstay ih =>
    simp only [walk, htakes.keeps_directory hnode, if_pos hstay]
    exact ih h
  | case4 here rest hnode hstay ih =>
    simp only [walk, htakes.keeps_directory hnode, if_neg hstay, if_true]
    exact ih h
  | case6 here name rest hnode hstay hup hshort node hnext ih =>
    simp only [walk, htakes.keeps_directory hnode, htakes.node?_put, if_neg hstay, if_neg hup,
      if_neg hshort, hnext]
    by_cases hparts : here ++ [name] = parts
    · simp only [if_pos hparts]
      exact ih h
    · simp only [if_neg hparts]
      exact ih h
  | case7 here name rest hnode hstay hup hshort hnext hlast =>
    obtain rfl : here ++ [name] = parts := by simpa using h
    simp only [walk, htakes.keeps_directory hnode, htakes.node?_put, if_neg hstay, if_neg hup,
      if_neg hshort, if_true, List.isEmpty_iff.1 hlast]
  | _ => simp at h

/-- What a look along a path shows, by where the path leads. -/
def seen (path : String) : Place → Except FileProblem (Option Node)
  | .found _ node => .ok (some node)
  | .tooLong => .error (.tooLong path)
  | _ => .ok none

theorem look_eq_seen (fs : FileSystem) (path : String) :
    fs.look path = seen path (fs.place path) := rfl

/-- A walk that resolves to another place shows what it showed before a file was put: one that goes
on from the place of the file showed nothing, and shows nothing now. -/
theorem seen_walk_put_of_ne (htakes : fs.TakesFile parts)
    (hne : names.foldl Path.step here ≠ parts) (path : String) :
    seen path ((fs.put parts (.file bytes)).walk here names) = seen path (fs.walk here names) := by
  fun_induction FileSystem.walk fs here names with
  | case1 here node hnode =>
    have hhere : here ≠ parts := hne
    simp [walk, htakes.node?_put, hhere, hnode]
  | case2 here hnode =>
    have hhere : here ≠ parts := hne
    simp [walk, htakes.node?_put, hhere, hnode]
  | case3 here name rest hnode hstay ih =>
    simp only [walk, htakes.keeps_directory hnode, if_pos hstay]
    exact ih (by simpa only [List.foldl_cons, Path.step, if_pos hstay] using hne)
  | case4 here rest hnode hstay ih =>
    simp only [walk, htakes.keeps_directory hnode, if_neg hstay, if_true]
    exact ih (by simpa only [List.foldl_cons, Path.step, if_neg hstay, if_true] using hne)
  | case5 here name rest hnode hstay hup hlong =>
    simp only [walk, htakes.keeps_directory hnode, if_neg hstay, if_neg hup, if_pos hlong]
  | case6 here name rest hnode hstay hup hshort node hnext ih =>
    simp only [walk, htakes.keeps_directory hnode, htakes.node?_put, if_neg hstay, if_neg hup,
      if_neg hshort, hnext]
    have hrest := ih
      (by simpa only [List.foldl_cons, Path.step, if_neg hstay, if_neg hup] using hne)
    by_cases hparts : here ++ [name] = parts
    · simp only [if_pos hparts]
      exact hrest
    · simp only [if_neg hparts]
      exact hrest
  | case7 here name rest hnode hstay hup hshort hnext hlast =>
    have hparts : here ++ [name] ≠ parts := by
      simpa only [List.isEmpty_iff.1 hlast, List.foldl_cons, List.foldl_nil, Path.step,
        if_neg hstay, if_neg hup] using hne
    simp only [walk, htakes.keeps_directory hnode, htakes.node?_put, if_neg hparts, hnext,
      if_neg hstay, if_neg hup, if_neg hshort, if_pos hlast]
  | case8 here name rest hnode hstay hup hshort hnext hmore =>
    simp only [walk, htakes.keeps_directory hnode, htakes.node?_put, hnext, if_neg hstay,
      if_neg hup, if_neg hshort]
    by_cases hparts : here ++ [name] = parts
    · obtain ⟨other, rest, rfl⟩ := List.exists_cons_of_ne_nil (mt List.isEmpty_iff.2 hmore)
      simp only [if_pos hparts, walk, htakes.node?_put, seen]
    · simp only [if_neg hparts, if_neg hmore]
  | case9 here name rest old hnode =>
    by_cases hparts : here = parts <;> simp [walk, htakes.node?_put, hparts, hnode]
  | case10 here name rest hnode =>
    by_cases hparts : here = parts <;> simp [walk, htakes.node?_put, hparts, hnode, seen]

/-- What writing a file does to the tree. -/
structure Wrote (fs : FileSystem) (path : String) (bytes : List UInt8) (fs' : FileSystem) :
    Prop where
  directory : fs'.directory = fs.directory
  place_eq : fs'.place path = .found (Path.resolve fs.directory path) (.file bytes)
  agreesOn : fs.AgreesOn
    (fun other => Path.resolve fs.directory other ≠ Path.resolve fs.directory path) fs'

/-- A path that arrives somewhere is none of those that are refused as they stand. -/
theorem admitted_of_place (h : (∃ parts, fs.place path = .free parts) ∨
    ∃ parts node, fs.place path = .found parts node) :
    ¬ (path = "" ∨ path.toList.contains '\x00') ∧ ¬ Path.longest < path.utf8ByteSize := by
  have hproper : ¬ (path = "" ∨ path.toList.contains '\x00') := fun hproper => by
    rw [place, if_pos hproper] at h
    simp at h
  refine ⟨hproper, fun hlong => ?_⟩
  rw [place, if_neg hproper, if_pos hlong] at h
  simp at h

/-- Putting a file where a path leads is writing the file. -/
theorem wrote_put (hplace : fs.place path = .free parts ∨
    ∃ old, fs.place path = .found parts (.file old)) :
    fs.Wrote path bytes (fs.put parts (.file bytes)) := by
  obtain ⟨hproper, hshort⟩ := admitted_of_place
    (hplace.imp (fun h => ⟨parts, h⟩) fun ⟨old, h⟩ => ⟨parts, .file old, h⟩)
  rw [place, if_neg hproper, if_neg hshort] at hplace
  have hspec := walk_spec fs (if Path.isAbsolute path then [] else fs.directory) (Path.names path)
  obtain ⟨hparts, htakes⟩ : Path.resolve fs.directory path = parts ∧ fs.TakesFile parts := by
    rw [Path.resolve_eq]
    rcases hplace with hfree | ⟨old, hfound⟩
    · rw [hfree] at hspec
      exact hspec
    · rw [hfound] at hspec
      refine ⟨hspec.1, ?_, ?_⟩
      · rintro rfl
        exact absurd hspec.2 (by simp [node?])
      · simp [hspec.2]
  refine ⟨rfl, ?_, fun other hother => ?_⟩
  · rw [hparts, place, if_neg hproper, if_neg hshort]
    exact walk_put_self htakes hplace
  · rw [hparts] at hother
    rw [look_eq_seen, look_eq_seen, place, place]
    by_cases hproper' : other = "" ∨ other.toList.contains '\x00'
    · rw [if_pos hproper', if_pos hproper']
    · rw [if_neg hproper', if_neg hproper']
      by_cases hshort' : Path.longest < other.utf8ByteSize
      · rw [if_pos hshort', if_pos hshort']
      · rw [if_neg hshort', if_neg hshort']
        exact seen_walk_put_of_ne htakes hother other

/-- **Writing a file.** -/
theorem wrote_of_writeBytes (h : fs.writeBytes path bytes = .ok fs') : fs.Wrote path bytes fs' := by
  unfold writeBytes at h
  rcases hplace : fs.place path with ⟨parts, _ | old⟩ | parts | _ | _ | _ <;> rw [hplace] at h <;>
    cases h
  · exact wrote_put (Or.inr ⟨old, hplace⟩)
  · exact wrote_put (Or.inl hplace)

theorem Wrote.look_eq (h : fs.Wrote path bytes fs') : fs'.look path = .ok (some (.file bytes)) := by
  rw [look_eq_seen, h.place_eq]
  rfl

end FileSystem

/-! ## Texts in files -/

theorem unifyLineEnds_eq_self {cs : List Char} (h : '\r' ∉ cs) : unifyLineEnds cs = cs := by
  fun_induction unifyLineEnds cs with
  | case1 => rfl
  | case2 rest ih => simp at h
  | case3 c rest hne ih =>
    rw [List.mem_cons, not_or] at h
    rw [if_neg (Ne.symm h.1), ih h.2]

namespace Json

theorem return_notMem_natDigits (n : Nat) : '\r' ∉ natDigits n := fun h => by
  have hdigit := isDigit_natDigits h
  revert hdigit
  decide

theorem return_notMem_writeInt (n : Int) : '\r' ∉ writeInt n := by
  unfold writeInt
  split_ifs <;> simp [return_notMem_natDigits]

theorem return_notMem_unitEscape {n : Nat} (h : n < 0x10000) : '\r' ∉ unitEscape n := by
  have hdigit : ∀ d < 16, '\r' ≠ Nat.digitChar d := by decide
  rw [unitEscape, fourDigits_eq h]
  simp [hdigit (n / 0x1000) (by omega), hdigit (n / 0x100 % 16) (by omega),
    hdigit (n / 0x10 % 16) (by omega), hdigit (n % 16) (by omega)]

theorem return_notMem_charEscape (c : Char) : '\r' ∉ charEscape c := by
  have hc : c.toNat < 0xd800 ∨ 0xdfff < c.toNat ∧ c.toNat < 0x110000 := c.valid
  unfold charEscape
  dsimp only
  split_ifs with h
  · exact return_notMem_unitEscape h
  · rw [List.mem_append, not_or]
    exact ⟨return_notMem_unitEscape (by omega), return_notMem_unitEscape (by omega)⟩

theorem return_notMem_writeString (s : List Char) : '\r' ∉ writeString s := by
  have hchar : ∀ c ∈ s, '\r' ∉ writeChar c := by
    intro c _
    unfold writeChar
    split
    case h_8 =>
      split_ifs with h
      · rw [List.mem_singleton]
        rintro rfl
        revert h
        decide
      · exact return_notMem_charEscape c
    all_goals decide
  simpa [writeString] using hchar

theorem return_notMem_break (l : Layout) (level : Nat) : '\r' ∉ l.break level := by
  cases l with
  | line => simp [Layout.break]
  | indented step => simp [Layout.break, List.mem_replicate]

theorem return_notMem_separator (l : Layout) (level : Nat) : '\r' ∉ l.separator level := by
  cases l with
  | line => simp [Layout.separator]
  | indented step => simp [Layout.separator, return_notMem_break]

/-- No text of a value has a carriage return in it. -/
theorem return_notMem_render {v : Value} (h : v.IsJson) (l : Layout) (level : Nat) :
    '\r' ∉ render l level v := by
  induction h generalizing level with
  | null => simp [render]
  | bool b => cases b <;> simp [render]
  | int h => exact return_notMem_writeInt _
  | text s => exact return_notMem_writeString _
  | @list vs h ih =>
    have hitems : ∀ (ws : List Value) (level : Nat), (∀ v ∈ ws, ∀ level, '\r' ∉ render l level v) →
        '\r' ∉ renderItems l level ws := by
      intro ws level hws
      induction ws with
      | nil => simp [renderItems]
      | cons w ws ihws =>
        rw [List.forall_mem_cons] at hws
        simp [renderItems, return_notMem_separator, hws.1, ihws hws.2]
    cases vs with
    | nil => simp [render]
    | cons v vs =>
      rw [List.forall_mem_cons] at ih
      simp [render, return_notMem_break, ih.1, hitems vs _ ih.2]
  | @record fields hnames h ih =>
    have hentries : ∀ (es : List (String × Value)) (level : Nat),
        (∀ e ∈ es, ∀ level, '\r' ∉ render l level e.2) →
        '\r' ∉ renderEntries l level (es.map fun e => (.text e.1, e.2)) := by
      intro es level hes
      induction es with
      | nil => simp [renderEntries]
      | cons e es ihes =>
        rw [List.forall_mem_cons] at hes
        simp [renderEntries, return_notMem_separator, return_notMem_writeString, hes.1, ihes hes.2]
    rw [Value.record]
    cases fields with
    | nil => simp [render]
    | cons f fields =>
      rw [List.forall_mem_cons] at ih
      simp [render, return_notMem_break, return_notMem_writeString, ih.1, hentries fields _ ih.2]

/-- The text of a value has no carriage return in it, and is read as the value. -/
theorem of_encode {v : Value} (h : v.IsJson) {l : Layout} {text : List Char}
    (htext : encode l v = .ok text) : '\r' ∉ text ∧ decode text = .ok v := by
  rw [encode_of_isJson h] at htext
  obtain rfl := Except.ok.inj htext
  exact ⟨return_notMem_render h l 0, decode_render h l⟩

end Json

/-- A JSON text that was written to a file is read from it. -/
theorem Host.readText_of_wrote {v : Value} (hv : v.IsJson) {text : List Char} {l : Json.Layout}
    (htext : Json.encode l v = .ok text) {h : Host} {fs : FileSystem} {path : String}
    (hwrote : fs.Wrote path (Utf8.encode text) h.files) :
    Host.readText path h = (.ok (String.ofList text), h) := by
  have hbytes : h.files.readBytes path = .ok (Utf8.encode text) :=
    FileSystem.readBytes_of_look hwrote.look_eq
  have hrun : Host.readBytes path h = (.ok (Utf8.encode text), h) := by
    rw [readBytes_apply, hbytes]
    rfl
  have hplain : unifyLineEnds text = text := unifyLineEnds_eq_self (Json.of_encode hv htext).1
  rw [readText, Action.bind_of_ok hrun, Utf8.decode_encode]
  dsimp only
  rw [hplain]
  rfl

end TransferBucket
