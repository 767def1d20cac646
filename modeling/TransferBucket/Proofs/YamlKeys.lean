import TransferBucket.Proofs.Entries
import TransferBucket.Yaml.Document

/-!
# Keys of YAML mappings

**Theorem (`Yaml.keysApart_of_decode`).** In the value of a YAML text no mapping, at any depth, has
two entries with the same key.

**What nodes are made into** (`Yaml.Made.IsProper`). Scalars are made into values that can be keys,
and the members of a mapping are put in one by one, so that a key that is there already gets the
value. Every step that makes values leaves all that has been made proper (`Yaml.Make.Keeps`); this
is an induction on the work that waits. Nothing is asked of the graph, whatever its merge keys do.

**Unfolding** keeps the keys as they are; this is an induction on the fuel.
-/

namespace TransferBucket

/-! ## Outcomes -/

theorem Except.bind_eq_ok_iff {ε α β : Type} {x : Except ε α} {f : α → Except ε β} {b : β} :
    (x >>= f) = .ok b ↔ ∃ a, x = .ok a ∧ f a = .ok b := by
  rcases x with e | a
  · exact iff_of_false nofun fun ⟨_, h, _⟩ => nomatch h
  · constructor
    · exact fun h => ⟨a, rfl, h⟩
    · rintro ⟨_, ⟨⟩, hf⟩
      exact hf

theorem Except.bind_of_ok {ε α β : Type} {x : Except ε α} {f : α → Except ε β} {a : α}
    (h : x = .ok a) : (x >>= f) = f a := by
  rw [h]
  rfl

theorem Except.bind_of_error {ε α β : Type} {x : Except ε α} {f : α → Except ε β} {e : ε}
    (h : x = .error e) : (x >>= f) = .error e := by
  rw [h]
  rfl

theorem Except.bind_eq_error_iff {ε α β : Type} {x : Except ε α} {f : α → Except ε β} {e : ε} :
    (x >>= f) = .error e ↔ x = .error e ∨ ∃ a, x = .ok a ∧ f a = .error e := by
  rcases x with e' | a
  · rw [Except.bind_of_error rfl, Except.error.injEq, Except.error.injEq]
    exact ⟨Or.inl, fun h => h.elim id nofun⟩
  · constructor
    · exact fun h => Or.inr ⟨a, rfl, h⟩
    · rintro (⟨⟨⟩⟩ | ⟨_, ⟨⟩, hf⟩)
      exact hf

namespace Value

/-! ## Values without repeated keys -/

/-- The values that a value holds, keys aside. -/
def parts : Value → List Value
  | .list items => items
  | .pair first second => [first, second]
  | .set members => members
  | .mapping entries => entries.map Prod.snd
  | _ => []

/-- No mapping in a value has two entries with the same key. -/
inductive KeysApart : Value → Prop
  | intro {v : Value} (keys : ∀ m, v = .mapping m → DistinctKeys m)
      (inside : ∀ w ∈ v.parts, KeysApart w) : KeysApart v

theorem KeysApart.distinctKeys {m : Mapping} (h : KeysApart (.mapping m)) : DistinctKeys m := by
  cases h with
  | intro keys inside => exact keys m rfl

/-- What stands under a name has no repeated keys either. -/
theorem KeysApart.field? {m : Mapping} {name : String} {v : Value} (h : KeysApart (.mapping m))
    (hv : field? name m = some v) : KeysApart v := by
  cases h with
  | intro keys inside =>
    obtain ⟨k, hmem, -⟩ := mem_of_lookup? hv
    exact inside v (List.mem_map_of_mem hmem)

/-- A value that can be a key holds no others. -/
theorem keysApart_of_isKey {v : Value} (h : v.isKey) : KeysApart v := by
  refine ⟨?_, ?_⟩
  · rintro m rfl
    cases h
  · cases v with
    | list | pair | set | mapping => cases h
    | _ => exact nofun

theorem KeysApart.singleton {v : Value} (h : KeysApart v) (k : Value) :
    KeysApart (.mapping [(k, v)]) := by
  refine ⟨?_, fun w hw => List.mem_singleton.1 hw ▸ h⟩
  rintro m ⟨⟩
  exact List.pairwise_singleton _ _

theorem isKey_of_mem_setOrder {members : List Value} (h : ∀ v ∈ members, v.isKey) {v : Value}
    (hv : v ∈ setOrder members) : v.isKey := by
  rw [setOrder, List.mem_append, List.mem_append] at hv
  rcases hv with (hv | hv) | hv
  · obtain ⟨s, -, rfl⟩ := List.mem_map.1 hv
    rfl
  · obtain ⟨n, -, rfl⟩ := List.mem_map.1 hv
    rfl
  · exact h v (List.mem_filter.1 hv).1

end Value

namespace Yaml

/-! ## Scalars -/

theorem isKey_of_bind {α : Type} {x : Except Problem α} {f : α → Value} {v : Value}
    (hf : ∀ a, (f a).isKey) (h : (x >>= fun a => pure (f a)) = .ok v) : v.isKey := by
  obtain ⟨a, -, h⟩ := Except.bind_eq_ok_iff.1 h
  cases h
  exact hf a

/-- A scalar is read as a value that can be a key. -/
theorem Tag.isKey_of_read {tag : Tag} {text : String} {v : Value} (h : tag.read text = .ok v) :
    v.isKey := by
  cases tag with
  | null => cases h; rfl
  | text => cases h; rfl
  | bool =>
    rw [Tag.read, readBool] at h
    split at h <;> cases h
    rfl
  | int =>
    rw [Tag.read, readInt] at h
    obtain ⟨⟨negative, cs⟩, -, h⟩ := Except.bind_eq_ok_iff.1 h
    dsimp only at h
    split at h
    case h_6 => split at h <;> exact isKey_of_bind (fun _ => rfl) h
    all_goals exact isKey_of_bind (fun _ => rfl) h
  | float =>
    rw [Tag.read, readFloat] at h
    obtain ⟨⟨negative, cs⟩, -, h⟩ := Except.bind_eq_ok_iff.1 h
    dsimp only at h
    split_ifs at h <;> exact isKey_of_bind (fun _ => rfl) h
  | timestamp =>
    simp only [Tag.read, readTimestamp] at h
    split at h
    · cases h
    · split at h <;> cases h
      rfl
    · split at h
      · cases h
      · split at h <;> cases h
        rfl
  | binary =>
    rw [Tag.read, readBinary] at h
    split at h
    · split at h <;> cases h
      rfl
    · cases h
  | _ => cases h

/-! ## What nodes are made into -/

/-- The members of a mapping or set: their keys can be keys, and no two have the same one. -/
structure AreMembers (members : List Member) : Prop where
  keys : ∀ m ∈ members, m.key.isKey
  apart : members.Pairwise fun a b => Value.sameKey a.key b.key = false

/-- What a node may be made into. -/
inductive Made.IsProper : Made → Prop
  | value {v : Value} (h : v.isKey) : IsProper (.value v)
  | list (items : List Nat) : IsProper (.list items)
  | pairs (items : List Entry) : IsProper (.pairs items)
  | set {members : List Value} (h : ∀ v ∈ members, v.isKey) : IsProper (.set members)
  | mapping {members : List Member} (h : AreMembers members) : IsProper (.mapping members)

/-- All that has been made is proper. -/
def AllProper (made : Array (Option Made)) : Prop := ∀ m, some m ∈ made → m.IsProper

theorem AllProper.of_getD {made : Array (Option Made)} (h : AllProper made) {i : Nat} {m : Made}
    (hm : made.getD i none = some m) : m.IsProper := by
  rw [Array.getD_eq_getD_getElem?] at hm
  rcases hget : made[i]? with _ | m?
  · rw [hget] at hm
    cases hm
  · rw [hget, Option.getD_some] at hm
    exact h m (hm ▸ Array.mem_of_getElem? hget)

namespace Make

variable {α β : Type} {P Q : α → Prop} {R : β → Prop}

/-! ## Steps that make values -/

/-- A step leaves all that has been made proper, and what it ends in has a property. -/
def Keeps (Q : α → Prop) (x : Make α) : Prop :=
  ∀ s : Making, AllProper s.made → AllProper (x s).2.made ∧ ∀ a, (x s).1 = .ok a → Q a

theorem keeps_of_made {x : Make α} (hmade : ∀ s, (x s).2.made = s.made)
    (hvalue : ∀ s, AllProper s.made → ∀ a, (x s).1 = .ok a → Q a) : Keeps Q x :=
  fun s hs => ⟨(hmade s).symm ▸ hs, hvalue s hs⟩

theorem keeps_pure {a : α} (h : Q a) : Keeps Q (pure a) :=
  keeps_of_made (fun _ => rfl) fun _ _ _ heq => Except.ok.inj heq ▸ h

theorem keeps_fail (p : Problem) : Keeps Q (.fail p) := keeps_of_made (fun _ => rfl) nofun

theorem keeps_read (f : Making → α) : Keeps (fun _ => True) (.read f) :=
  keeps_of_made (fun _ => rfl) fun _ _ _ _ => trivial

theorem keeps_modify {f : Making → Making} (h : ∀ s, (f s).made = s.made) :
    Keeps (fun _ => True) (.modify f) :=
  keeps_of_made h fun _ _ _ _ => trivial

theorem Keeps.bind {x : Make α} {f : α → Make β} (hx : Keeps P x)
    (hf : ∀ a, P a → Keeps R (f a)) : Keeps R (x >>= f) := by
  intro s hs
  obtain ⟨hmade, hvalue⟩ := hx s hs
  rcases hrun : x s with ⟨e | a, t⟩ <;> rw [hrun] at hmade hvalue
  · rw [Action.bind_of_error hrun]
    exact ⟨hmade, nofun⟩
  · rw [Action.bind_of_ok hrun]
    exact hf a (hvalue a rfl) t hmade

theorem Keeps.map {x : Make α} {f : α → β} (hx : Keeps P x) (hf : ∀ a, P a → R (f a)) :
    Keeps R (f <$> x) :=
  hx.bind fun a ha => keeps_pure (hf a ha)

theorem keeps_record (i : Nat) {m : Made} (hm : m.IsProper) : Keeps Made.IsProper (record i m) := by
  refine Keeps.bind (P := fun _ => True) (fun s hs => ⟨fun n hn => ?_, fun _ _ => trivial⟩)
    fun _ _ => keeps_pure hm
  rcases Array.mem_or_eq_of_mem_setIfInBounds hn with hn | heq
  · exact hs n hn
  · exact Option.some.inj heq ▸ hm

theorem keeps_begin (i : Nat) {m : Made} (hm : m.IsProper) : Keeps Made.IsProper (begin i m) :=
  (keeps_modify fun _ => rfl).bind fun _ _ => keeps_record i hm

theorem areMembers_nil : AreMembers [] := ⟨nofun, .nil⟩

theorem isKey_of_scalar {g : Graph} {i : Nat} {v : Value} (h : scalar g i = .ok v) : v.isKey := by
  simp only [scalar] at h
  split at h
  · split at h
    · cases h
    · cases h
    · exact Tag.isKey_of_read h
  · cases h

theorem keeps_meet (i : Nat) : Keeps Made.IsProper (meet i) := by
  intro s hs
  rw [meet, Action.bind_apply, Action.get_apply]
  dsimp only
  rcases hget : s.made.getD i none with _ | m
  · dsimp only
    refine (?_ : Keeps Made.IsProper _) s hs
    split
    · exact keeps_begin i (.list _)
    · exact keeps_begin i (.pairs _)
    · exact keeps_begin i (.set nofun)
    · exact keeps_begin i (.mapping areMembers_nil)
    · exact Keeps.bind (P := fun v => v.isKey)
        (keeps_of_made (fun _ => rfl) fun _ _ _ hv => isKey_of_scalar hv)
        fun v hv => keeps_record i (.value hv)
  · exact keeps_pure (hs.of_getD hget) s hs

theorem keeps_meetAll (items : List Nat) : Keeps (fun _ => True) (meetAll items) := by
  induction items with
  | nil => exact keeps_pure trivial
  | cons i rest ih => exact (keeps_meet i).bind fun _ _ => ih

theorem keeps_meetPairs (items : List Nat) : Keeps (fun _ => True) (meetPairs items) := by
  induction items with
  | nil => exact keeps_pure trivial
  | cons i rest ih =>
    refine (keeps_read _).bind fun content _ => ?_
    split
    · exact (keeps_meet _).bind fun _ _ => (keeps_meet _).bind fun _ _ =>
        ih.bind fun _ _ => keeps_pure trivial
    · exact keeps_fail _

/-! ## Members -/

/-- What is among the members after one is put in has the key of one before, or of this one. -/
theorem key_of_mem_insert {m n : Member} {members : List Member} (h : n ∈ insert m members) :
    n.key = m.key ∨ ∃ a ∈ members, a.key = n.key := by
  induction members with
  | nil => exact Or.inl (congrArg _ (List.mem_singleton.1 h))
  | cons a rest ih =>
    rw [insert] at h
    split at h
    · rcases List.mem_cons.1 h with rfl | h
      · exact Or.inr ⟨a, List.mem_cons_self, rfl⟩
      · exact Or.inr ⟨n, List.mem_cons_of_mem _ h, rfl⟩
    · rcases List.mem_cons.1 h with rfl | h
      · exact Or.inr ⟨n, List.mem_cons_self, rfl⟩
      · rcases ih h with hkey | ⟨b, hb, hkey⟩
        · exact Or.inl hkey
        · exact Or.inr ⟨b, List.mem_cons_of_mem _ hb, hkey⟩

theorem pairwise_insert (m : Member) {members : List Member}
    (h : members.Pairwise fun a b => Value.sameKey a.key b.key = false) :
    (insert m members).Pairwise fun a b => Value.sameKey a.key b.key = false := by
  induction members with
  | nil => exact List.pairwise_singleton _ _
  | cons a rest ih =>
    obtain ⟨hfirst, hrest⟩ := List.pairwise_cons.1 h
    rw [insert]
    split
    · exact List.pairwise_cons.2 ⟨hfirst, hrest⟩
    · -- the member goes on past `a`, because it has another key
      rename_i hne
      have hkey : Value.sameKey a.key m.key = false := by
        rw [sameMember, Bool.not_eq_true, Bool.or_eq_false_iff, Bool.or_eq_false_iff] at hne
        exact hne.1.2
      refine List.pairwise_cons.2 ⟨fun n hn => ?_, ih hrest⟩
      rcases key_of_mem_insert hn with heq | ⟨b, hb, heq⟩
      · rw [heq, hkey]
      · rw [← heq, hfirst b hb]

theorem AreMembers.insert {m : Member} {members : List Member} (h : AreMembers members)
    (hm : m.key.isKey) : AreMembers (insert m members) where
  keys n hn := by
    rcases key_of_mem_insert hn with heq | ⟨a, ha, heq⟩
    · rwa [heq]
    · rw [← heq]
      exact h.keys a ha
  apart := pairwise_insert m h.apart

theorem keeps_meetMembers (entries : List Entry) {members : List Member}
    (h : AreMembers members) : Keeps AreMembers (meetMembers members entries) := by
  induction entries generalizing members with
  | nil => exact keeps_pure h
  | cons e rest ih =>
    refine (keeps_meet e.1).bind fun made hmade => ?_
    split
    · cases hmade with
      | value hkey =>
        exact (keeps_meet e.2).bind fun _ _ => (keeps_read _).bind fun _ _ =>
          ih (AreMembers.insert h hkey)
    · exact keeps_fail _

theorem keeps_membersOf (i : Nat) : Keeps AreMembers (membersOf i) := by
  refine Keeps.bind (P := fun _ => True) (keeps_of_made (fun _ => rfl) fun _ _ _ _ => trivial)
    fun s _ => ?_
  dsimp only
  split
  · exact (keeps_fail (Q := fun _ => False) _).bind nofun
  · split
    · exact keeps_fail _
    · exact (keeps_modify (by exact fun _ => rfl)).bind fun _ _ =>
        keeps_meetMembers _ areMembers_nil

/-! ## Filling -/

theorem keeps_fill (i : Nat) : Keeps (fun _ => True) (fill i) := by
  refine (keeps_read _).bind fun n _ => ?_
  have hrecord : ∀ m : Made, m.IsProper → Keeps (fun _ => True) (record i m >>= fun _ => pure ()) :=
    fun m hm => (keeps_record i hm).bind fun _ _ => keeps_pure trivial
  dsimp only
  split
  · exact (keeps_meetAll _).bind fun _ _ => hrecord _ (.list _)
  · exact Keeps.bind ((keeps_meetPairs _).map fun _ _ => .pairs _) hrecord
  · refine (keeps_membersOf i).bind fun members hmembers => hrecord _ (.set fun v hv => ?_)
    obtain ⟨m, hm, rfl⟩ := List.mem_map.1 hv
    exact hmembers.keys m hm
  · exact Keeps.bind ((keeps_membersOf i).map fun _ => .mapping) hrecord
  · exact (keeps_fail (Q := fun _ => False) _).bind nofun

theorem keeps_fillAll (nodes : List Nat) : Keeps (fun _ => True) (fillAll nodes) := by
  induction nodes with
  | nil => exact keeps_pure trivial
  | cons i rest ih => exact (keeps_fill i).bind fun _ _ => ih

theorem keeps_finish (fuel : Nat) : Keeps (fun _ => True) (finish fuel) := by
  induction fuel with
  | zero => exact keeps_pure trivial
  | succ fuel ih =>
    refine (keeps_read _).bind fun waiting _ => ?_
    split
    · exact (keeps_modify (by exact fun _ => rfl)).bind fun _ _ =>
        (keeps_fillAll _).bind fun _ _ => ih
    · exact keeps_pure trivial

end Make

/-! ## Unfolding -/

theorem keysApart_unfold {made : Array (Option Made)} (h : AllProper made)
    (fuel depth : Nat) (around : List Nat) (i : Nat) :
    (unfold made fuel depth around i).KeysApart := by
  -- only the fuel decreases; what lies around the node may be anything
  induction fuel generalizing depth around i with
  | zero => exact Value.keysApart_of_isKey rfl
  | succ fuel ih =>
    have hagain (e : Enclosure) : (Value.again e).KeysApart := ⟨nofun, nofun⟩
    rw [unfold]
    rcases hget : made.getD i none with _ | made
    · exact Value.keysApart_of_isKey rfl
    cases h.of_getD hget with
    | value hv => exact Value.keysApart_of_isKey hv
    | set hmembers =>
      exact ⟨nofun, fun w hw =>
        Value.keysApart_of_isKey (Value.isKey_of_mem_setOrder hmembers hw)⟩
    | list items =>
      dsimp only
      split
      · exact hagain _
      · refine ⟨nofun, fun w hw => ?_⟩
        obtain ⟨j, -, rfl⟩ := List.mem_map.1 hw
        exact ih _ _ j
    | pairs items =>
      dsimp only
      split
      · exact hagain _
      · refine ⟨nofun, fun w hw => ?_⟩
        obtain ⟨e, -, rfl⟩ := List.mem_map.1 hw
        refine ⟨nofun, fun w hw => ?_⟩
        rcases List.mem_cons.1 hw with rfl | hw
        · exact ih _ _ _
        · rw [List.mem_singleton.1 hw]
          exact ih _ _ _
    | mapping hmembers =>
      dsimp only
      split
      · exact hagain _
      · refine ⟨?_, fun w hw => ?_⟩
        · intro m hm
          cases hm
          exact List.pairwise_map.2 hmembers.apart
        · obtain ⟨e, he, rfl⟩ := List.mem_map.1 hw
          obtain ⟨m, -, rfl⟩ := List.mem_map.1 he
          exact ih _ _ m.value

theorem Graph.keysApart_of_value {g : Graph} {root : Nat} {v : Value} (h : g.value root = .ok v) :
    v.KeysApart := by
  rw [Graph.value] at h
  split at h
  · rename_i s hrun
    cases h
    have hkeeps := (Make.keeps_meet root).bind fun _ _ => Make.keeps_finish (Array.size g + 1)
    have hnone : AllProper (Array.replicate (Array.size g) none) :=
      fun m hm => nomatch (Array.mem_replicate.1 hm).2
    have hmade := (hkeeps ⟨g, g.entryCount, .replicate (Array.size g) none, []⟩ hnone).1
    rw [hrun] at hmade
    exact keysApart_unfold hmade _ _ _ _
  · cases h

/-- **No key comes twice** in a mapping of a value that is read. -/
theorem keysApart_of_decode {i : Input} {v : Value} (h : decode i = .ok v) : v.KeysApart := by
  obtain ⟨_ | ⟨g, root⟩, -, h⟩ := Except.bind_eq_ok_iff.1 h
  · cases h
    exact Value.keysApart_of_isKey rfl
  · exact Graph.keysApart_of_value h

end Yaml

end TransferBucket
