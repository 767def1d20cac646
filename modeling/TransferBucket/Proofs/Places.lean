import TransferBucket.Proofs.Filing

/-!
# Paths that fit, and directories that are made

**Names of a path.** The names of a path are those before a slash and those behind it
(`Path.names_append`). A path that is written out from names that can be names is split into these
again, and is written as it is (`Path.normalise_absolute`).

**Paths that fit** (`Path.Fits`). A path that leads to a node, or to a free place, in one tree fits
into all: neither it nor one of its names is too long, so a look along it is refused nowhere
(`FileSystem.exists_look_of_fits`).

**Making directories** (`FileSystem.isDirectory_of_makeDirectories`). Where a directory is made with
those above it, it is there, and it is not made again as long as it is there
(`FileSystem.makeDirectories_of_isDirectory`).
-/

namespace TransferBucket

/-! ## Names of a path -/

namespace Path

/-- Put a character before a path that is split: a slash begins a new name. -/
def split (c : Char) (parts : List (List Char)) : List (List Char) :=
  if c = '/' then [] :: parts
  else match parts with
    | p :: rest => (c :: p) :: rest
    | [] => [[c]]

theorem names_eq (path : String) :
    names path = (path.toList.foldr split [[]]).map String.ofList := rfl

theorem split_slash (parts : List (List Char)) : split '/' parts = [] :: parts := rfl

theorem split_cons {c : Char} (h : c ≠ '/') (p : List Char) (rest : List (List Char)) :
    split c (p :: rest) = (c :: p) :: rest := if_neg h

theorem exists_foldr_split (cs : List Char) : ∃ p rest, cs.foldr split [[]] = p :: rest := by
  induction cs with
  | nil => exact ⟨_, _, rfl⟩
  | cons c cs ih =>
    obtain ⟨p, rest, hcs⟩ := ih
    rw [List.foldr_cons, hcs]
    by_cases h : c = '/'
    · rw [h]
      exact ⟨_, _, split_slash _⟩
    · exact ⟨_, _, split_cons h p rest⟩

theorem foldr_split_append (cs : List Char) (parts : List (List Char)) :
    cs.foldr split ([] :: parts) = cs.foldr split [[]] ++ parts := by
  induction cs with
  | nil => rfl
  | cons c cs ih =>
    obtain ⟨p, rest, hcs⟩ := exists_foldr_split cs
    rw [List.foldr_cons, List.foldr_cons, ih, hcs]
    by_cases h : c = '/'
    · rw [h]
      rfl
    · rw [List.cons_append, split_cons h, split_cons h, List.cons_append]

theorem names_append (s t : String) : names (s ++ "/" ++ t) = names s ++ names t := by
  have hslash : ("/" : String).toList = ['/'] := rfl
  rw [names_eq, names_eq, names_eq, String.toList_append, String.toList_append, hslash,
    List.append_assoc, List.foldr_append, List.singleton_append, List.foldr_cons, split_slash,
    foldr_split_append, List.map_append]

/-- A name without slashes is split no further. -/
theorem names_of_notMem {s : String} (h : '/' ∉ s.toList) : names s = [s] := by
  have hgo : ∀ cs : List Char, '/' ∉ cs → cs.foldr split [[]] = [cs] := by
    intro cs hcs
    induction cs with
    | nil => rfl
    | cons c cs ih =>
      rw [List.mem_cons, not_or] at hcs
      rw [List.foldr_cons, ih hcs.2, split_cons (Ne.symm hcs.1)]
  rw [names_eq, hgo _ h, List.map_singleton, String.ofList_toList]

/-- What can be the name of a node. -/
structure IsName (name : String) : Prop where
  nonempty : name ≠ ""
  notHere : name ≠ "."
  notUp : name ≠ ".."
  noSlash : '/' ∉ name.toList

variable {parts : List String}

theorem noSlash_of_mem_names {path name : String} (h : name ∈ names path) :
    '/' ∉ name.toList := by
  have hgo : ∀ cs : List Char, ∀ p ∈ cs.foldr split [[]], '/' ∉ p := by
    intro cs
    induction cs with
    | nil => simp
    | cons c cs ih =>
      obtain ⟨p, rest, hcs⟩ := exists_foldr_split cs
      rw [List.foldr_cons, hcs]
      rw [hcs, List.forall_mem_cons] at ih
      by_cases hc : c = '/'
      · rw [hc, split_slash, List.forall_mem_cons, List.forall_mem_cons]
        exact ⟨List.not_mem_nil, ih⟩
      · rw [split_cons hc, List.forall_mem_cons, List.mem_cons, not_or]
        exact ⟨⟨Ne.symm hc, ih.1⟩, ih.2⟩
  rw [names_eq, List.mem_map] at h
  obtain ⟨cs, hcs, rfl⟩ := h
  rw [String.toList_ofList]
  exact hgo _ cs hcs

/-- A path resolves to names, if it starts from names. -/
theorem isName_of_mem_resolve {directory : List String} (h : ∀ n ∈ directory, IsName n)
    (path : String) : ∀ n ∈ resolve directory path, IsName n := by
  have hgo : ∀ ns here : List String, (∀ n ∈ ns, '/' ∉ n.toList) → (∀ n ∈ here, IsName n) →
      ∀ n ∈ ns.foldl step here, IsName n := by
    intro ns
    induction ns with
    | nil => exact fun here _ hhere => hhere
    | cons name ns ih =>
      intro here hns hhere
      rw [List.forall_mem_cons] at hns
      refine ih _ hns.2 ?_
      rw [step]
      split_ifs with hstay hup
      · exact hhere
      · exact fun n hn => hhere n (List.dropLast_subset _ hn)
      · rw [not_or] at hstay
        intro n hn
        rcases List.mem_append.1 hn with hn | hn
        · exact hhere n hn
        · rw [List.mem_singleton.1 hn]
          exact ⟨hstay.1, hstay.2, hup, hns.1⟩
  rw [resolve_eq]
  refine hgo _ _ (fun n => noSlash_of_mem_names) ?_
  split_ifs
  · exact fun n hn => absurd hn List.not_mem_nil
  · exact h

theorem names_intercalate (h : ∀ n ∈ parts, '/' ∉ n.toList) (hne : parts ≠ []) :
    names ("/".intercalate parts) = parts := by
  induction parts with
  | nil => exact absurd rfl hne
  | cons p rest ih =>
    obtain ⟨hp, hrest⟩ := List.forall_mem_cons.1 h
    cases rest with
    | nil => rw [String.intercalate_singleton, names_of_notMem hp]
    | cons q rest =>
      rw [String.intercalate_cons_cons, names_append, names_of_notMem hp,
        ih hrest (List.cons_ne_nil _ _), List.singleton_append]

theorem names_absolute (h : ∀ n ∈ parts, IsName n) :
    (names (absolute parts)).filter (fun n => n ≠ "" ∧ n ≠ ".") = parts := by
  have hparts : parts.filter (fun n => n ≠ "" ∧ n ≠ ".") = parts := by
    rw [List.filter_eq_self]
    intro n hn
    simp [(h n hn).nonempty, (h n hn).notHere]
  have hnames : names (absolute parts) = "" :: names ("/".intercalate parts) := by
    have happend := names_append "" ("/".intercalate parts)
    rwa [String.empty_append] at happend
  rw [hnames]
  cases parts with
  | nil => rfl
  | cons p rest =>
    rw [names_intercalate (fun n hn => (h n hn).noSlash) (List.cons_ne_nil _ _),
      List.filter_cons_of_neg (by simp), hparts]

theorem root_absolute (h : ∀ n ∈ parts, IsName n) : root (absolute parts) = "/" := by
  have hslash : ("/" : String).toList = ['/'] := rfl
  have hlist : (absolute parts).toList = '/' :: ("/".intercalate parts).toList := by
    rw [absolute, String.toList_append, hslash]
    rfl
  cases parts with
  | nil => rfl
  | cons p rest =>
    obtain ⟨hp, -⟩ := List.forall_mem_cons.1 h
    -- the first name is not empty, and begins with no slash
    obtain ⟨c, cs, hcs⟩ : ∃ c cs, p.toList = c :: cs :=
      List.exists_cons_of_ne_nil fun hnil => hp.nonempty (String.toList_eq_nil_iff.1 hnil)
    have hc : c ≠ '/' := fun heq => hp.noSlash (by rw [hcs, heq]; exact List.mem_cons_self)
    obtain ⟨more, hmore⟩ : ∃ more, ("/".intercalate (p :: rest)).toList = c :: more := by
      cases rest with
      | nil => exact ⟨cs, by rw [String.intercalate_singleton, hcs]⟩
      | cons q rest =>
        rw [String.intercalate_cons_cons, String.toList_append, String.toList_append, hcs]
        exact ⟨_, rfl⟩
    rw [root, hlist, hmore]
    split <;> simp_all

/-- A path that is written out from names is written as it is. -/
theorem normalise_absolute (h : ∀ n ∈ parts, IsName n) :
    normalise (absolute parts) = absolute parts := by
  have hne : absolute parts ≠ "" := by
    intro heq
    have hlength := congrArg String.length heq
    simp [absolute] at hlength
  rw [normalise, names_absolute h, root_absolute h]
  exact if_neg hne

/-! ## Paths that fit -/

/-- A path along which one can look in every tree: it is not empty, has no null character, and
neither it nor a name has too many bytes. -/
structure Fits (path : String) : Prop where
  proper : ¬ (path = "" ∨ path.toList.contains '\x00')
  short : ¬ longest < path.utf8ByteSize
  names_short : ∀ n ∈ names path, n.utf8ByteSize ≤ longestName

theorem Fits.place_eq {path : String} (h : Fits path) (fs : FileSystem) :
    fs.place path = fs.walk (if isAbsolute path then [] else fs.directory) (names path) := by
  rw [FileSystem.place, if_neg h.proper, if_neg h.short]

/-- Another file in the same directory, whose name is not longer. -/
theorem Fits.sibling {directory name other : String} (h : Fits (directory ++ "/" ++ name))
    (hname : '/' ∉ name.toList) (hother : '/' ∉ other.toList) (hnull : '\x00' ∉ other.toList)
    (hle : other.utf8ByteSize ≤ name.utf8ByteSize) : Fits (directory ++ "/" ++ other) where
  proper := by
    obtain ⟨-, hproper⟩ := not_or.1 h.proper
    simp only [String.toList_append, List.contains_eq_mem, List.mem_append, decide_eq_true_eq,
      not_or] at hproper
    rw [not_or]
    constructor
    · intro heq
      have hlength := congrArg String.length heq
      simp at hlength
    · simp only [String.toList_append, List.contains_eq_mem, List.mem_append, decide_eq_true_eq,
        not_or]
      exact ⟨hproper.1, hnull⟩
  short := by
    have hshort := h.short
    simp only [String.utf8ByteSize_append] at hshort ⊢
    omega
  names_short := by
    have hnames := h.names_short
    rw [names_append, names_of_notMem hname] at hnames
    rw [names_append, names_of_notMem hother]
    intro n hn
    rcases List.mem_append.1 hn with hn | hn
    · exact hnames n (List.mem_append_left _ hn)
    · rw [List.mem_singleton.1 hn]
      exact le_trans hle (hnames name (by simp))

end Path

namespace FileSystem

variable {fs fs' : FileSystem} {parts here names : List String} {path root last : String}
  {above : List String}

/-- The path leads to a node, or to a free place. -/
def Reaches (fs : FileSystem) (path : String) : Prop :=
  (∃ parts, fs.place path = .free parts) ∨ ∃ parts node, fs.place path = .found parts node

/-- A file can be written at the end of a path: one is there, or nothing. -/
def Accepts (fs : FileSystem) (path : String) : Prop :=
  (∃ parts, fs.place path = .free parts) ∨ ∃ parts bytes, fs.place path = .found parts (.file bytes)

theorem Accepts.reaches (h : fs.Accepts path) : fs.Reaches path :=
  h.imp_right fun ⟨parts, _, hplace⟩ => ⟨parts, _, hplace⟩

theorem reaches_of_look {node : Node} (h : fs.look path = .ok (some node)) : fs.Reaches path := by
  rw [look] at h
  split at h
  · next hplace => exact Or.inr ⟨_, _, hplace⟩
  · cases h
  · cases h

/-- No name of a walk that arrives has too many bytes. -/
theorem names_short_of_walk (h : (∃ parts, fs.walk here names = .free parts) ∨
    ∃ parts node, fs.walk here names = .found parts node) :
    ∀ n ∈ names, n.utf8ByteSize ≤ Path.longestName := by
  fun_induction FileSystem.walk fs here names with
  | case1 | case2 => exact fun n hn => absurd hn List.not_mem_nil
  | case3 here name rest hnode hstay ih =>
    refine List.forall_mem_cons.2 ⟨?_, ih h⟩
    rcases hstay with rfl | rfl <;> decide
  | case4 here rest hnode hstay ih => exact List.forall_mem_cons.2 ⟨by decide, ih h⟩
  | case6 here name rest hnode hstay hup hshort node hnext ih =>
    exact List.forall_mem_cons.2 ⟨Nat.le_of_not_lt hshort, ih h⟩
  | case7 here name rest hnode hstay hup hshort hnext hlast =>
    rw [List.isEmpty_iff.1 hlast]
    exact List.forall_mem_cons.2 ⟨Nat.le_of_not_lt hshort, fun n hn => absurd hn List.not_mem_nil⟩
  | _ => simp at h

/-- A path that arrives somewhere fits. -/
theorem Reaches.fits (h : fs.Reaches path) : Path.Fits path := by
  obtain ⟨hproper, hshort⟩ := admitted_of_place h
  rw [Reaches, place, if_neg hproper, if_neg hshort] at h
  exact ⟨hproper, hshort, names_short_of_walk h⟩

theorem walk_ne_tooLong (h : ∀ n ∈ names, n.utf8ByteSize ≤ Path.longestName) :
    fs.walk here names ≠ .tooLong := by
  fun_induction FileSystem.walk fs here names with
  | case3 here name rest hnode hstay ih => exact ih (List.forall_mem_cons.1 h).2
  | case4 here rest hnode hstay ih => exact ih (List.forall_mem_cons.1 h).2
  | case5 here name rest hnode hstay hup hlong =>
    exact absurd (List.forall_mem_cons.1 h).1 (Nat.not_le_of_lt hlong)
  | case6 here name rest hnode hstay hup hshort node hnext ih =>
    exact ih (List.forall_mem_cons.1 h).2
  | _ => simp

/-- No look along a path that fits is refused. -/
theorem exists_look_of_fits (h : Path.Fits path) (fs : FileSystem) :
    ∃ node?, fs.look path = .ok node? := by
  have hplace : fs.place path ≠ .tooLong := by
    rw [h.place_eq]
    exact walk_ne_tooLong h.names_short
  rw [look]
  split
  · exact ⟨_, rfl⟩
  · next htooLong => exact absurd htooLong hplace
  · exact ⟨_, rfl⟩

/-- Where a path leads is what it resolves to. -/
theorem place_spec (fs : FileSystem) (path : String) :
    match fs.place path with
    | .found parts node => Path.resolve fs.directory path = parts ∧ fs.node? parts = some node
    | .free parts => Path.resolve fs.directory path = parts ∧ fs.TakesFile parts
    | _ => True := by
  rw [Path.resolve_eq, place]
  by_cases hproper : path = "" ∨ path.toList.contains '\x00'
  · rw [if_pos hproper]
    trivial
  · rw [if_neg hproper]
    by_cases hshort : Path.longest < path.utf8ByteSize
    · rw [if_pos hshort]
      trivial
    · rw [if_neg hshort]
      exact walk_spec fs _ _

/-- Writing a file leaves every directory where it is. -/
theorem isDirectory_of_writeBytes {bytes : List UInt8} {other : String}
    (hwrite : fs.writeBytes path bytes = .ok fs') (h : fs.isDirectory other) :
    fs'.isDirectory other := by
  have hother := place_spec fs other
  rw [isDirectory] at h
  split at h
  · next parts hplace =>
    rw [hplace] at hother
    obtain ⟨hresolve, hnode⟩ := hother
    -- the path of the directory does not resolve to the place of the file
    have hne : Path.resolve fs.directory other ≠ Path.resolve fs.directory path := by
      intro heq
      have hpath := place_spec fs path
      unfold writeBytes at hwrite
      split at hwrite <;> cases hwrite
      · next hfound =>
        rw [hfound] at hpath
        rw [← hresolve, heq, hpath.1, hpath.2] at hnode
        cases hnode
      · next hfree =>
        rw [hfree] at hpath
        rw [← hresolve, heq, hpath.1] at hnode
        exact hpath.2.not_directory hnode
    have hlook : fs'.look other = .ok (some .directory) := by
      rw [(wrote_of_writeBytes hwrite).agreesOn other hne, look, hplace]
    rw [look] at hlook
    split at hlook <;> cases hlook
    next hplace' => rw [isDirectory, hplace']
  · cases h

theorem Accepts.exists_writeBytes (h : fs.Accepts path) (bytes : List UInt8) :
    ∃ fs', fs.writeBytes path bytes = .ok fs' := by
  rw [writeBytes]
  rcases h with ⟨parts, hplace⟩ | ⟨parts, _, hplace⟩ <;> rw [hplace] <;> exact ⟨_, rfl⟩

/-! ## Directories that are made -/

theorem isDirectory_of_makeDirectory (h : fs.makeDirectory path = .ok fs') :
    fs'.isDirectory path := by
  rw [makeDirectory] at h
  rcases hplace : fs.place path with ⟨parts, found⟩ | parts | _ | _ | _ <;> rw [hplace] at h <;>
    cases h
  have hfits : Path.Fits path := Reaches.fits (Or.inl ⟨parts, hplace⟩)
  rw [hfits.place_eq] at hplace
  have hspec := walk_spec fs (if Path.isAbsolute path then [] else fs.directory) (Path.names path)
  rw [hplace] at hspec
  have hplace' : (fs.put parts .directory).place path = .found parts .directory := by
    rw [hfits.place_eq]
    exact walk_put_self hspec.2 (Or.inl hplace)
  rw [isDirectory, hplace']

theorem directory_of_makeDirectory (h : fs.makeDirectory path = .ok fs') :
    fs'.directory = fs.directory := by
  rw [makeDirectory] at h
  split at h <;> cases h
  rfl

/-- Making directories is no step to another working directory. -/
theorem directory_of_makeDirectories {names : List String}
    (h : fs.makeDirectories root names = .ok fs') : fs'.directory = fs.directory := by
  induction names generalizing fs' with
  | nil =>
    cases h
    rfl
  | cons last above ih =>
    have hthere : ∀ (gs : FileSystem) (path : String) (e : FileProblem),
        (if gs.isDirectory path then Except.ok gs else .error e) = .ok fs' → fs' = gs := by
      intro gs path e hok
      split at hok <;> cases hok
      rfl
    rw [makeDirectories] at h
    split at h
    · next hmade =>
      cases h
      exact directory_of_makeDirectory hmade
    · split at h
      · next habove =>
        split at h
        · next hmade =>
          cases h
          exact (directory_of_makeDirectory hmade).trans (ih habove)
        · rw [hthere _ _ _ h]
          exact ih habove
      · cases h
    · rw [hthere _ _ _ h]

/-- A directory that is there is not made. -/
theorem makeDirectories_of_isDirectory
    (h : fs.isDirectory (root ++ "/".intercalate (last :: above).reverse)) :
    fs.makeDirectories root (last :: above) = .ok fs := by
  have hexists : ∃ e, fs.makeDirectory (root ++ "/".intercalate (last :: above).reverse) =
      .error (.exists e) := by
    rw [isDirectory] at h
    rw [makeDirectory]
    split at h
    · next hplace => exact ⟨_, by rw [hplace]⟩
    · cases h
  obtain ⟨e, hexists⟩ := hexists
  rw [makeDirectories, hexists]
  exact if_pos h

/-- **Making directories.** Where it succeeds, the directory is there. -/
theorem isDirectory_of_makeDirectories (h : fs.makeDirectories root (last :: above) = .ok fs') :
    fs'.isDirectory (root ++ "/".intercalate (last :: above).reverse) := by
  rw [makeDirectories] at h
  -- a directory that cannot be made is there nevertheless, or else the whole fails
  have hthere : ∀ (gs : FileSystem) (path : String) (e : FileProblem),
      (if gs.isDirectory path then Except.ok gs else .error e) = .ok fs' →
        fs'.isDirectory path := by
    intro gs path e hok
    split at hok
    · next hdirectory =>
      cases hok
      exact hdirectory
    · cases hok
  split at h
  · next hmade =>
    cases h
    exact isDirectory_of_makeDirectory hmade
  · split at h
    · split at h
      · next hmade =>
        cases h
        exact isDirectory_of_makeDirectory hmade
      · exact hthere _ _ _ h
    · cases h
  · exact hthere _ _ _ h

end FileSystem

end TransferBucket
