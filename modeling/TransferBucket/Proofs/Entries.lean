import Mathlib.Data.List.Induction
import TransferBucket.Value

/-!
# The entries of mappings

**One value for a key** (`Value.DistinctKeys`). The entries of a mapping have different keys.
Putting a value under a key keeps it so, whatever the key means: a key that is there keeps its
place, and one that comes new is the same as none before it. Taking a key away keeps it so too.

**Putting** (`Value.mem_insert_iff`). An entry that was put into a mapping is there, with all others
that have not the same key, and nothing else is there. This needs that a key is put in the form in
which it is there already, as texts always are.

**Filling up** (`Value.mem_foldl_insert_iff`). When entries are put into a mapping one by one, all
of them are there in the end, with those of the mapping that have none of their keys.
-/

namespace TransferBucket.Value

variable {m given : Mapping} {key value : Value} {name : String}

/-! ## Keys that are texts -/

theorem sameKey_text_self (name : String) : sameKey (.text name) (.text name) = true := by
  rw [sameKey_text, beq_self_eq_true]

theorem eq_text_of_sameKey_text {k : Value} (h : sameKey (.text name) k) : k = .text name := by
  cases k with
  | text s => exact congrArg _ (beq_iff_eq.1 h).symm
  | float x => simp [sameKey, wholeNumber?] at h
  | _ => simp [sameKey, wholeNumber?] at h

theorem equals_text_iff {v : Value} : v.equals (.text name) ↔ v = .text name := by
  cases v <;> simp [equals, sameKey, wholeNumber?]

theorem field?_insert (key name : String) (v : Value) (m : Mapping) :
    field? name (insert (.text key) v m) = if key = name then some v else field? name m := by
  by_cases hkey : key = name
  · rw [if_pos hkey, hkey, field?_insert_self]
  rw [if_neg hkey, field?, field?]
  induction m with
  | nil => simp [insert, lookup?_cons, hkey]
  | cons e rest ih =>
    obtain ⟨k, w⟩ := e
    rw [insert]
    split
    · rename_i hsame
      rw [eq_text_of_sameKey hsame]
      simp [lookup?_cons, hkey]
    · rw [lookup?_cons, lookup?_cons, ih]

theorem field?_erase (key name : String) (m : Mapping) :
    field? name (erase (.text key) m) = if key = name then none else field? name m := by
  induction m with
  | nil => simp [erase, field?]
  | cons e rest ih =>
    obtain ⟨k, v⟩ := e
    simp only [erase, field?] at ih
    rw [erase, List.filter_cons, field?, field?]
    by_cases hkey : sameKey k (.text key)
    · rw [eq_text_of_sameKey hkey, lookup?_cons]
      by_cases hname : key = name
      · rw [if_pos hname] at ih
        simp [hname, hname ▸ ih]
      · rw [if_neg hname] at ih
        simp [hname, ih]
    · by_cases hname : sameKey k (.text name)
      · have hne : key ≠ name := by
          rintro rfl
          exact hkey hname
        simp [hkey, lookup?_cons, hname, hne]
      · simp [hkey, lookup?_cons, hname, ih]

/-! ## Distinct keys -/

/-- No two entries have the same key. -/
def DistinctKeys (m : Mapping) : Prop := m.Pairwise fun e f => sameKey e.1 f.1 = false

/-- What stands under a key was there before, or was put there, perhaps in the place of another. -/
theorem key_of_mem_insert {e : Value × Value} (h : e ∈ insert key value m) :
    e.1 = key ∨ ∃ f ∈ m, f.1 = e.1 := by
  induction m with
  | nil =>
    rw [insert, List.mem_singleton] at h
    exact Or.inl (congrArg Prod.fst h)
  | cons f rest ih =>
    obtain ⟨k, w⟩ := f
    rw [insert] at h
    split at h
    · rcases List.mem_cons.1 h with rfl | h
      · exact Or.inr ⟨(k, w), List.mem_cons_self, rfl⟩
      · exact Or.inr ⟨e, List.mem_cons_of_mem _ h, rfl⟩
    · rcases List.mem_cons.1 h with rfl | h
      · exact Or.inr ⟨(k, w), List.mem_cons_self, rfl⟩
      · rcases ih h with hkey | ⟨f, hf, hkey⟩
        · exact Or.inl hkey
        · exact Or.inr ⟨f, List.mem_cons_of_mem _ hf, hkey⟩

theorem DistinctKeys.insert (h : DistinctKeys m) (key value : Value) :
    DistinctKeys (insert key value m) := by
  induction m with
  | nil => exact List.pairwise_singleton _ _
  | cons e rest ih =>
    obtain ⟨k, w⟩ := e
    obtain ⟨hfirst, hrest⟩ := List.pairwise_cons.1 h
    rw [Value.insert]
    split
    · exact List.pairwise_cons.2 ⟨hfirst, hrest⟩
    · rename_i hne
      refine List.pairwise_cons.2 ⟨fun f hf => ?_, ih hrest⟩
      rcases key_of_mem_insert hf with hkey | ⟨g, hg, hkey⟩
      · dsimp only
        rw [hkey, Bool.eq_false_iff]
        exact hne
      · dsimp only
        rw [← hkey]
        exact hfirst g hg

theorem DistinctKeys.erase (h : DistinctKeys m) (key : Value) : DistinctKeys (erase key m) :=
  h.filter _

theorem distinctKeys_foldl_insert (h : DistinctKeys m) (given : Mapping) :
    DistinctKeys (given.foldl (fun m e => Value.insert e.1 e.2 m) m) := by
  induction given generalizing m with
  | nil => exact h
  | cons e rest ih => exact ih (h.insert e.1 e.2)

theorem distinctKeys_ofEntries (entries : Mapping) : DistinctKeys (ofEntries entries) :=
  distinctKeys_foldl_insert .nil entries

theorem key_of_mem_ofEntries {entries : Mapping} {e : Value × Value} (h : e ∈ ofEntries entries) :
    ∃ f ∈ entries, f.1 = e.1 := by
  induction entries using List.reverseRecOn generalizing e with
  | nil => cases h
  | append_singleton entries last ih =>
    rw [ofEntries, List.foldl_append, List.foldl_cons, List.foldl_nil] at h
    rcases key_of_mem_insert h with hkey | ⟨f, hf, hkey⟩
    · exact ⟨last, List.mem_append_right _ List.mem_cons_self, hkey.symm⟩
    · obtain ⟨g, hg, hsame⟩ := ih hf
      exact ⟨g, List.mem_append_left _ hg, hsame.trans hkey⟩

theorem DistinctKeys.eq_of_mem (h : DistinctKeys m) {v w : Value} (hv : (.text name, v) ∈ m)
    (hw : (.text name, w) ∈ m) : v = w := by
  induction m with
  | nil => cases hv
  | cons e rest ih =>
    obtain ⟨hfirst, hrest⟩ := List.pairwise_cons.1 h
    rcases List.mem_cons.1 hv with rfl | hv'
    · rcases List.mem_cons.1 hw with heq | hw'
      · exact (Prod.mk.inj heq).2.symm
      · have hne := hfirst _ hw'
        rw [sameKey_text_self] at hne
        cases hne
    · rcases List.mem_cons.1 hw with rfl | hw'
      · have hne := hfirst _ hv'
        rw [sameKey_text_self] at hne
        cases hne
      · exact ih hrest hv' hw'

/-- What is found under a text is the entry with that text. -/
theorem DistinctKeys.field?_eq_some_iff (h : DistinctKeys m) :
    field? name m = some value ↔ (.text name, value) ∈ m := by
  constructor
  · intro hfound
    obtain ⟨k, hmem, hsame⟩ := mem_of_lookup? hfound
    rwa [eq_text_of_sameKey hsame] at hmem
  · intro hmem
    rcases hfound : field? name m with _ | w
    · have hnone := lookup?_eq_none_iff.1 hfound _ hmem
      rw [sameKey_text_self] at hnone
      cases hnone
    · obtain ⟨k, hmem', hsame⟩ := mem_of_lookup? hfound
      rw [eq_text_of_sameKey hsame] at hmem'
      rw [h.eq_of_mem hmem hmem']

/-! ## Putting entries into mappings -/

/-- **Putting an entry.** -/
theorem mem_insert_iff (h : DistinctKeys m) (hkey : ∀ e ∈ m, sameKey e.1 key → e.1 = key)
    {e : Value × Value} :
    e ∈ insert key value m ↔ e = (key, value) ∨ e ∈ m ∧ sameKey e.1 key = false := by
  induction m with
  | nil => simp [insert]
  | cons f rest ih =>
    obtain ⟨k, w⟩ := f
    obtain ⟨hfirst, hrest⟩ := List.pairwise_cons.1 h
    obtain ⟨hk, hkeys⟩ := List.forall_mem_cons.1 hkey
    rw [insert]
    by_cases hsame : sameKey k key
    · -- the entry with the key is replaced, and none of the others has the key
      obtain rfl : k = key := hk hsame
      have hothers : ∀ e ∈ rest, sameKey e.1 k = false := by
        intro e he
        rw [Bool.eq_false_iff]
        intro heq
        have hne := hfirst e he
        rw [hkeys e he heq, hsame] at hne
        cases hne
      rw [if_pos hsame, List.mem_cons, List.mem_cons]
      constructor
      · exact Or.imp_right fun he => ⟨Or.inr he, hothers e he⟩
      · rintro (he | ⟨rfl | he, hne⟩)
        · exact Or.inl he
        · rw [hsame] at hne
          cases hne
        · exact Or.inr he
    · rw [if_neg hsame, List.mem_cons, ih hrest hkeys, List.mem_cons]
      rw [Bool.not_eq_true] at hsame
      constructor
      · rintro (rfl | he | ⟨he, hne⟩)
        · exact Or.inr ⟨Or.inl rfl, hsame⟩
        · exact Or.inl he
        · exact Or.inr ⟨Or.inr he, hne⟩
      · rintro (he | ⟨rfl | he, hne⟩)
        · exact Or.inr (Or.inl he)
        · exact Or.inl rfl
        · exact Or.inr (Or.inr ⟨he, hne⟩)

/-- Putting a value under a text. -/
theorem mem_insert_text_iff (h : DistinctKeys m) {e : Value × Value} :
    e ∈ insert (.text name) value m ↔ e = (.text name, value) ∨ e ∈ m ∧ e.1 ≠ .text name := by
  rw [mem_insert_iff h fun e _ => eq_text_of_sameKey]
  refine or_congr_right (and_congr_right fun _ => ?_)
  rw [Bool.eq_false_iff]
  refine not_congr ⟨eq_text_of_sameKey, fun heq => ?_⟩
  rw [heq, sameKey_text_self]

/-- **Filling up.** The entries that are put into a mapping are there in the end, and those of the
mapping that have other keys. -/
theorem mem_foldl_insert_iff (h : DistinctKeys m) (hgiven : DistinctKeys given)
    (hkeys : ∀ e ∈ m, ∀ g ∈ given, sameKey e.1 g.1 → e.1 = g.1) {e : Value × Value} :
    e ∈ given.foldl (fun m e => insert e.1 e.2 m) m ↔
      e ∈ given ∨ e ∈ m ∧ ∀ g ∈ given, sameKey e.1 g.1 = false := by
  induction given generalizing m with
  | nil => simp
  | cons g rest ih =>
    obtain ⟨hfirst, hrest⟩ := List.pairwise_cons.1 hgiven
    have hg : ∀ e ∈ m, sameKey e.1 g.1 → e.1 = g.1 := fun e he => hkeys e he g List.mem_cons_self
    have hmem {f : Value × Value} :
        f ∈ insert g.1 g.2 m ↔ f = (g.1, g.2) ∨ f ∈ m ∧ sameKey f.1 g.1 = false :=
      mem_insert_iff h hg
    have hkeys' : ∀ e ∈ insert g.1 g.2 m, ∀ f ∈ rest, sameKey e.1 f.1 → e.1 = f.1 := by
      intro e he f hf hsame
      rcases hmem.1 he with rfl | ⟨he, -⟩
      · rw [hfirst f hf] at hsame
        cases hsame
      · exact hkeys e he f (List.mem_cons_of_mem _ hf) hsame
    rw [List.foldl_cons, ih (h.insert g.1 g.2) hrest hkeys', hmem, List.mem_cons,
      List.forall_mem_cons]
    constructor
    · rintro (he | ⟨rfl | ⟨he, hne⟩, hothers⟩)
      · exact Or.inl (Or.inr he)
      · exact Or.inl (Or.inl rfl)
      · exact Or.inr ⟨he, hne, hothers⟩
    · rintro ((rfl | he) | ⟨he, hne, hothers⟩)
      · exact Or.inr ⟨Or.inl rfl, hfirst⟩
      · exact Or.inl he
      · exact Or.inr ⟨Or.inr ⟨he, hne⟩, hothers⟩

end TransferBucket.Value
