import Mathlib.Data.String.Basic
import TransferBucket.Proofs.Places

/-!
# Directories that are there

**Theorem (`FileSystem.makeDirectories_of_look`).** A directory in which something is found is not
made again: making it with those above it changes nothing.

A directory is made by a path that is written anew, with one slash between two names
(`Path.rewritten`). That path leads where the first one leads, because empty names lead nowhere else
(`FileSystem.walk_filter`), and it fits, because it is the first one without some of its slashes
(`Path.rewritten_sublist`).
-/

namespace TransferBucket

/-! ## Paths that are written anew -/

namespace Path

/-- The names of a path that are not empty. -/
def properNames (path : String) : List String := (names path).filter (· ≠ "")

/-- A path with one slash between two names, and none at the end. -/
def rewritten (path : String) : String := root path ++ "/".intercalate (properNames path)

/-- Names that are not empty, each behind a slash. -/
def behindSlashes (parts : List (List Char)) : List Char :=
  (parts.filter (· ≠ [])).flatMap ('/' :: ·)

theorem intercalate_cons (part : List Char) (parts : List (List Char)) :
    ['/'].intercalate (part :: parts) = part ++ parts.flatMap ('/' :: ·) := by
  induction parts generalizing part with
  | nil => simp
  | cons q parts ih =>
    rw [List.intercalate_cons_cons, ih, List.flatMap_cons]
    simp

/-- The first name and those behind it are found in the text in this order. -/
theorem append_behindSlashes_sublist {cs p : List Char} {rest : List (List Char)}
    (h : cs.foldr split [[]] = p :: rest) : (p ++ behindSlashes rest).Sublist cs := by
  induction cs generalizing p rest with
  | nil =>
    cases h
    exact .slnil
  | cons c cs ih =>
    obtain ⟨q, more, hcs⟩ := exists_foldr_split cs
    have hmore := ih hcs
    rw [List.foldr_cons, hcs] at h
    by_cases hc : c = '/'
    · rw [hc, split_slash] at h
      cases h
      rw [hc, List.nil_append, behindSlashes]
      by_cases hq : q = []
      · rw [List.filter_cons_of_neg (by simp [hq])]
        rw [hq] at hmore
        exact hmore.cons _
      · rw [List.filter_cons_of_pos (by simp [hq]), List.flatMap_cons]
        exact hmore.cons_cons _
    · rw [split_cons hc] at h
      cases h
      exact hmore.cons_cons _

theorem intercalate_names_sublist (cs : List Char) :
    (['/'].intercalate ((cs.foldr split [[]]).filter (· ≠ []))).Sublist cs := by
  obtain ⟨p, rest, hcs⟩ := exists_foldr_split cs
  have hsublist := append_behindSlashes_sublist hcs
  rw [hcs]
  by_cases hp : p = []
  · rw [List.filter_cons_of_neg (by simp [hp])]
    rw [hp, List.nil_append, behindSlashes] at hsublist
    rcases hrest : rest.filter (· ≠ []) with _ | ⟨q, more⟩
    · exact List.nil_sublist _
    · rw [hrest, List.flatMap_cons] at hsublist
      rw [intercalate_cons]
      exact (List.sublist_cons_self _ _).trans hsublist
  · rw [List.filter_cons_of_pos (by simp [hp]), intercalate_cons]
    exact hsublist

theorem toList_intercalate_properNames (path : String) :
    ("/".intercalate (properNames path)).toList =
      ['/'].intercalate ((path.toList.foldr split [[]]).filter (· ≠ [])) := by
  have hslash : ("/" : String).toList = ['/'] := rfl
  rw [String.toList_intercalate, hslash, properNames, names_eq]
  congr 1
  induction path.toList.foldr split [[]] with
  | nil => rfl
  | cons p rest ih =>
    rw [List.map_cons]
    by_cases hp : p = []
    · rw [List.filter_cons_of_neg (by simp [hp]), List.filter_cons_of_neg (by simp [hp]), ih]
    · have hne : String.ofList p ≠ "" := by
        intro heq
        exact hp (String.ofList_eq_empty_iff.1 heq)
      rw [List.filter_cons_of_pos (by simpa using hne), List.filter_cons_of_pos (by simpa using hp),
        List.map_cons, ih, String.toList_ofList]

theorem names_slash (path : String) : names ("/" ++ path) = "" :: names path := by
  have happend := names_append "" path
  rwa [String.empty_append] at happend

theorem properNames_slash (path : String) : properNames ("/" ++ path) = properNames path := by
  rw [properNames, names_slash, List.filter_cons_of_neg (by simp)]
  rfl

theorem isAbsolute_slash (path : String) : isAbsolute ("/" ++ path) = true := by
  simp [isAbsolute]

theorem root_cases (path : String) :
    (root path = "" ∧ isAbsolute path = false) ∨
    (∃ rest, path = "/" ++ rest ∧ root path = "/") ∨
    ∃ rest, path = "/" ++ ("/" ++ rest) ∧ root path = "//" := by
  have hpath : ∀ cs, path.toList = '/' :: cs → path = "/" ++ String.ofList cs := by
    intro cs hcs
    rw [← String.toList_inj, hcs, String.toList_append, String.toList_ofList]
    simp
  rw [root]
  split
  · next hcs => exact Or.inr (Or.inl ⟨_, hpath _ hcs, rfl⟩)
  · next cs _ hcs =>
    refine Or.inr (Or.inr ⟨String.ofList cs, ?_, rfl⟩)
    rw [hpath _ hcs, ← String.toList_inj]
    simp
  · next hcs => exact Or.inr (Or.inl ⟨_, hpath _ hcs, rfl⟩)
  · next hother =>
    refine Or.inl ⟨rfl, ?_⟩
    rw [isAbsolute]
    rcases hcs : path.toList with _ | ⟨c, cs⟩
    · rfl
    · have hc : c ≠ '/' := fun heq => hother cs (heq ▸ hcs)
      simp [hc]

theorem intercalate_properNames_sublist (path : String) :
    ("/".intercalate (properNames path)).toList.Sublist path.toList := by
  rw [toList_intercalate_properNames]
  exact intercalate_names_sublist _

/-- A path that is written anew is the path without some of its slashes. -/
theorem rewritten_sublist (path : String) : (rewritten path).toList.Sublist path.toList := by
  have hslash : ("/" : String).toList = ['/'] := rfl
  rw [rewritten]
  rcases root_cases path with ⟨hroot, -⟩ | ⟨rest, hpath, hroot⟩ | ⟨rest, hpath, hroot⟩ <;>
    rw [hroot]
  · rw [String.empty_append]
    exact intercalate_properNames_sublist path
  · rw [hpath, properNames_slash, String.toList_append, String.toList_append]
    exact (intercalate_properNames_sublist rest).append_left _
  · have hslashes : ("//" : String).toList = ['/'] ++ ['/'] := rfl
    rw [hpath, properNames_slash, properNames_slash, String.toList_append, String.toList_append,
      String.toList_append, hslashes, List.append_assoc]
    exact ((intercalate_properNames_sublist rest).append_left _).append_left _

theorem noSlash_of_mem_properNames {path name : String} (h : name ∈ properNames path) :
    '/' ∉ name.toList := noSlash_of_mem_names (List.mem_of_mem_filter h)

/-- Writing a path anew keeps its names, but for the empty ones. -/
theorem properNames_rewritten (path : String) :
    properNames (rewritten path) = properNames path := by
  have hnames : properNames ("/".intercalate (properNames path)) = properNames path := by
    by_cases hne : properNames path = []
    · rw [hne]
      rfl
    · rw [properNames, names_intercalate (fun _ => noSlash_of_mem_properNames) hne,
        properNames, List.filter_filter]
      simp
  rw [rewritten]
  rcases root_cases path with ⟨hroot, -⟩ | ⟨rest, -, hroot⟩ | ⟨rest, -, hroot⟩ <;> rw [hroot]
  · rw [String.empty_append, hnames]
  · rw [properNames_slash, hnames]
  · have hslashes : "//" ++ "/".intercalate (properNames path) =
        "/" ++ ("/" ++ "/".intercalate (properNames path)) := by
      rw [← String.append_assoc]
      rfl
    rw [hslashes, properNames_slash, properNames_slash, hnames]

/-- A path with a name that is written anew starts at the root if it did. -/
theorem isAbsolute_rewritten {path : String} (hne : properNames path ≠ []) :
    isAbsolute (rewritten path) = isAbsolute path := by
  have hnames : names ("/".intercalate (properNames path)) = properNames path :=
    names_intercalate (fun _ => noSlash_of_mem_properNames) hne
  have hempty : ∀ rest, "/".intercalate (properNames path) ≠ "/" ++ rest := by
    intro rest heq
    rw [heq, names_slash] at hnames
    have hmem : "" ∈ properNames path := hnames ▸ List.mem_cons_self
    simp [properNames] at hmem
  rw [rewritten]
  rcases root_cases path with ⟨hroot, habsolute⟩ | ⟨rest, hpath, hroot⟩ | ⟨rest, hpath, hroot⟩ <;>
    rw [hroot]
  · rw [String.empty_append, habsolute]
    rcases root_cases ("/".intercalate (properNames path)) with
      ⟨-, hnot⟩ | ⟨rest, heq, -⟩ | ⟨rest, heq, -⟩
    · exact hnot
    · exact absurd heq (hempty _)
    · exact absurd heq (hempty _)
  · rw [isAbsolute_slash, hpath, isAbsolute_slash]
  · rw [hpath, isAbsolute_slash]
    simp [isAbsolute]

/-- **A path that is written anew fits** where the path does. -/
theorem fits_rewritten {path : String} (h : Fits path) (hne : properNames path ≠ []) :
    Fits (rewritten path) where
  proper := by
    obtain ⟨-, hnull⟩ := not_or.1 h.proper
    rw [not_or]
    constructor
    · intro hempty
      rw [← properNames_rewritten, hempty] at hne
      exact hne rfl
    · intro hcontains
      rw [List.contains_iff_mem] at hcontains hnull
      exact hnull ((rewritten_sublist path).subset hcontains)
  short := by
    have hle := String.utf8Len_le_of_sublist (rewritten_sublist path)
    rw [String.utf8Len_toList, String.utf8Len_toList] at hle
    exact fun hlong => h.short (lt_of_lt_of_le hlong hle)
  names_short := by
    intro n hn
    by_cases hn' : n = ""
    · rw [hn']
      decide
    · have hmem : n ∈ properNames (rewritten path) := List.mem_filter.2 ⟨hn, by simpa using hn'⟩
      rw [properNames_rewritten] at hmem
      exact h.names_short n (List.mem_of_mem_filter hmem)

theorem ne_empty_of_properNames {path : String} (hne : properNames path ≠ []) : path ≠ "" := by
  rintro rfl
  exact hne rfl

theorem isAbsolute_append {path : String} (hne : path ≠ "") (more : String) :
    isAbsolute (path ++ more) = isAbsolute path := by
  obtain ⟨c, cs, hcs⟩ : ∃ c cs, path.toList = c :: cs :=
    List.exists_cons_of_ne_nil fun hnil => hne (String.toList_eq_nil_iff.1 hnil)
  simp [isAbsolute, hcs]

theorem Fits.directory {directory name : String} (h : Fits (directory ++ "/" ++ name))
    (hne : directory ≠ "") : Fits directory where
  proper := by
    obtain ⟨-, hnull⟩ := not_or.1 h.proper
    rw [not_or]
    refine ⟨hne, fun hcontains => hnull ?_⟩
    rw [List.contains_iff_mem] at hcontains ⊢
    rw [String.toList_append, String.toList_append]
    exact List.mem_append_left _ (List.mem_append_left _ hcontains)
  short := by
    have hshort := h.short
    rw [String.utf8ByteSize_append, String.utf8ByteSize_append] at hshort
    omega
  names_short := by
    intro n hn
    refine h.names_short n ?_
    rw [names_append]
    exact List.mem_append_left _ hn

end Path

/-! ## Walks -/

namespace FileSystem

variable {fs : FileSystem} {here names parts : List String} {name : String} {node : Node}

/-- A walk goes on behind a name: it is in a directory, and the name leads to a node there, if it is
none that stays or goes up. -/
structure Enters (fs : FileSystem) (here : List String) (name : String) : Prop where
  directory : fs.node? here = some .directory
  next : ¬ (name = "" ∨ name = ".") → name ≠ ".." →
    ¬ Path.longestName < name.utf8ByteSize ∧ (fs.node? (here ++ [name])).isSome

theorem walk_cons_eq_found_iff : fs.walk here (name :: names) = .found parts node ↔
    fs.Enters here name ∧ fs.walk (Path.step here name) names = .found parts node := by
  rcases hnode : fs.node? here with _ | _ | bytes
  · rw [walk, hnode]
    exact iff_of_false (by simp) fun h => by simp [h.1.directory] at hnode
  · rw [walk, hnode, Path.step]
    dsimp only
    by_cases hstay : name = "" ∨ name = "."
    · rw [if_pos hstay, if_pos hstay]
      exact ⟨fun h => ⟨⟨hnode, fun hnot => absurd hstay hnot⟩, h⟩, fun h => h.2⟩
    rw [if_neg hstay, if_neg hstay]
    by_cases hup : name = ".."
    · rw [if_pos hup, if_pos hup]
      exact ⟨fun h => ⟨⟨hnode, fun _ hnot => absurd hup hnot⟩, h⟩, fun h => h.2⟩
    rw [if_neg hup, if_neg hup]
    by_cases hlong : Path.longestName < name.utf8ByteSize
    · rw [if_pos hlong]
      exact iff_of_false (by simp) fun h => (h.1.next hstay hup).1 hlong
    rw [if_neg hlong]
    rcases hnext : fs.node? (here ++ [name]) with _ | node'
    · refine iff_of_false ?_ fun h => by simpa [hnext] using (h.1.next hstay hup).2
      dsimp only
      split_ifs <;> simp
    · exact ⟨fun h => ⟨⟨hnode, fun _ _ => ⟨hlong, by simp [hnext]⟩⟩, h⟩, fun h => h.2⟩
  · rw [walk, hnode]
    exact iff_of_false (by simp) fun h => by simp [h.1.directory] at hnode

/-- A walk that arrives behind a further name has come to a directory before it. -/
theorem exists_walk_of_concat (h : fs.walk here (names ++ [name]) = .found parts node) :
    ∃ p, fs.walk here names = .found p .directory := by
  induction names generalizing here with
  | nil =>
    obtain ⟨henters, -⟩ := walk_cons_eq_found_iff.1 h
    exact ⟨here, by rw [walk, henters.directory]⟩
  | cons n rest ih =>
    obtain ⟨henters, hrest⟩ := walk_cons_eq_found_iff.1 h
    obtain ⟨p, hp⟩ := ih hrest
    exact ⟨p, walk_cons_eq_found_iff.2 ⟨henters, hp⟩⟩

theorem node?_of_walk (h : fs.walk here names = .found parts .directory) :
    fs.node? here = some .directory := by
  cases names with
  | nil =>
    rw [walk] at h
    split at h
    · next hnode =>
      cases h
      exact hnode
    · cases h
  | cons n rest => exact (walk_cons_eq_found_iff.1 h).1.directory

theorem walk_filter_iff : fs.walk here (names.filter (· ≠ "")) = .found parts .directory ↔
    fs.walk here names = .found parts .directory := by
  induction names generalizing here with
  | nil => rfl
  | cons n rest ih =>
    by_cases hn : n = ""
    · rw [List.filter_cons_of_neg (by simpa using hn), ih, walk_cons_eq_found_iff, hn]
      exact ⟨fun h => ⟨⟨node?_of_walk h, fun hnot => absurd (Or.inl rfl) hnot⟩, h⟩, fun h => h.2⟩
    · rw [List.filter_cons_of_pos (by simpa using hn), walk_cons_eq_found_iff,
        walk_cons_eq_found_iff, ih]

theorem isDirectory_rewritten {directory : String} (hne : Path.properNames directory ≠ [])
    (hname : '/' ∉ name.toList) (hlook : fs.look (directory ++ "/" ++ name) = .ok (some node)) :
    fs.isDirectory (Path.rewritten directory) := by
  have hfits := (reaches_of_look hlook).fits
  have hempty : directory ≠ "" := Path.ne_empty_of_properNames hne
  obtain ⟨parts, hplace⟩ : ∃ parts, fs.place (directory ++ "/" ++ name) = .found parts node := by
    rw [look] at hlook
    split at hlook <;> cases hlook
    exact ⟨_, by assumption⟩
  have habsolute : Path.isAbsolute (directory ++ "/" ++ name) = Path.isAbsolute directory := by
    rw [String.append_assoc]
    exact Path.isAbsolute_append hempty _
  rw [hfits.place_eq, habsolute, Path.names_append, Path.names_of_notMem hname] at hplace
  obtain ⟨p, hwalk⟩ := exists_walk_of_concat hplace
  rw [← walk_filter_iff] at hwalk
  have hrewritten : fs.place (Path.rewritten directory) = .found p .directory := by
    rw [(Path.fits_rewritten (hfits.directory hempty) hne).place_eq, Path.isAbsolute_rewritten hne,
      ← walk_filter_iff]
    have hnames := Path.properNames_rewritten directory
    rw [Path.properNames] at hnames
    rw [hnames]
    exact hwalk
  rw [isDirectory, hrewritten]

/-- **A directory in which something is found is not made again.** -/
theorem makeDirectories_of_look {directory : String} (hname : '/' ∉ name.toList)
    (hlook : fs.look (directory ++ "/" ++ name) = .ok (some node)) :
    fs.makeDirectories (Path.root directory)
      ((Path.names directory).filter (· ≠ "")).reverse = .ok fs := by
  rcases hnames : ((Path.names directory).filter (· ≠ "")).reverse with _ | ⟨last, above⟩
  · rfl
  · have hproper : (last :: above).reverse = Path.properNames directory := by
      rw [← hnames, List.reverse_reverse]
      rfl
    refine makeDirectories_of_isDirectory ?_
    rw [hproper]
    refine isDirectory_rewritten ?_ hname hlook
    rw [← hproper]
    simp

end FileSystem

end TransferBucket
