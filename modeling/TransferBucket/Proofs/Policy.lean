import Mathlib.Data.List.Sort
import Mathlib.Data.String.Basic
import TransferBucket.Proofs.Entries
import TransferBucket.Storage

/-!
# What a policy grants

A policy is read as the set of its triples: a role, the condition in force (none where there is
none or an empty one), and a member (`Policy.Holds`).

**Granting** (`Policy.Adds`). A member joins one plain binding of the role, or gets a binding of
its own at the end; every other binding stays as it is, and so the triples are the old ones and
that of the member (`Adds.holds_iff`). On policies whose bindings have a role and list texts,
granting is of this form (`adds_of_grant`).

**Granting again.** On every policy, granting twice is granting once (`grant_grant`): the binding
that took the member takes it again, and a set of members does not change when one of them is put
into it.

**Two grants.** A policy takes in two members in either order and becomes the same
(`grant_comm`): both join the same binding, and a set does not tell which was put into it first.
-/

namespace TransferBucket

/-! ## Ascending order -/

namespace Value

section Ascending

variable {α : Type} [LinearOrder α]

theorem insertAscending_sorted (a : α) {l : List α} (h : l.SortedLT) :
    (insertAscending a l).SortedLT := by
  rw [List.sortedLT_iff_pairwise] at h ⊢
  induction l with
  | nil => exact List.pairwise_singleton _ _
  | cons b rest ih =>
    obtain ⟨hb, hrest⟩ := List.pairwise_cons.1 h
    rw [insertAscending]
    split
    · exact h
    · rename_i hne
      split
      · rename_i hlt
        refine List.pairwise_cons.2 ⟨fun c hc => ?_, h⟩
        rcases List.mem_cons.1 hc with rfl | hc
        · exact hlt
        · exact lt_trans hlt (hb c hc)
      · rename_i hle
        refine List.pairwise_cons.2 ⟨fun c hc => ?_, ih hrest⟩
        rcases mem_insertAscending.1 hc with rfl | hc
        · exact lt_of_le_of_ne (not_lt.1 hle) (Ne.symm hne)
        · exact hb c hc

theorem ascending_sorted (as : List α) : (ascending as).SortedLT := by
  induction as with
  | nil => exact List.sortedLT_iff_pairwise.2 List.Pairwise.nil
  | cons a rest ih => exact insertAscending_sorted a ih

theorem ascending_congr {as bs : List α} (h : ∀ c, c ∈ as ↔ c ∈ bs) :
    ascending as = ascending bs :=
  (ascending_sorted as).eq_of_mem_iff (ascending_sorted bs) fun c => by
    rw [mem_ascending, mem_ascending, h]

end Ascending

/-! ## Sets -/

theorem text?_eq_some {v : Value} {s : String} : v.text? = some s ↔ v = .text s := by
  cases v <;> simp [text?]

theorem int?_eq_some {v : Value} {n : Int} : v.int? = some n ↔ v = .int n := by
  cases v <;> simp [int?]

theorem mem_setOrder {v : Value} {vs : List Value} : v ∈ setOrder vs ↔ v ∈ vs := by
  have htexts : v ∈ (ascending (vs.filterMap text?)).map Value.text ↔
      ∃ s, v = .text s ∧ v ∈ vs := by
    simp only [List.mem_map, mem_ascending, List.mem_filterMap, text?_eq_some]
    constructor
    · rintro ⟨s, ⟨w, hw, rfl⟩, rfl⟩
      exact ⟨s, rfl, hw⟩
    · rintro ⟨s, rfl, hv⟩
      exact ⟨s, ⟨_, hv, rfl⟩, rfl⟩
  have hints : v ∈ (ascending (vs.filterMap int?)).map Value.int ↔ ∃ n, v = .int n ∧ v ∈ vs := by
    simp only [List.mem_map, mem_ascending, List.mem_filterMap, int?_eq_some]
    constructor
    · rintro ⟨n, ⟨w, hw, rfl⟩, rfl⟩
      exact ⟨n, rfl, hw⟩
    · rintro ⟨n, rfl, hv⟩
      exact ⟨n, ⟨_, hv, rfl⟩, rfl⟩
  rw [setOrder, List.mem_append, List.mem_append, htexts, hints, List.mem_filter]
  constructor
  · rintro ((⟨_, _, hv⟩ | ⟨_, _, hv⟩) | ⟨hv, _⟩) <;> exact hv
  · intro hv
    cases v with
    | text s => exact Or.inl (Or.inl ⟨s, rfl, hv⟩)
    | int n => exact Or.inl (Or.inr ⟨n, rfl, hv⟩)
    | _ => exact Or.inr ⟨hv, rfl⟩

theorem setOrder_congr {vs ws : List Value} (h : ∀ v, v ∈ vs ↔ v ∈ ws)
    (hrest : vs.filter isOther = ws.filter isOther) : setOrder vs = setOrder ws := by
  have htexts : ascending (vs.filterMap text?) = ascending (ws.filterMap text?) :=
    ascending_congr fun s => by simp only [List.mem_filterMap, h]
  have hints : ascending (vs.filterMap int?) = ascending (ws.filterMap int?) :=
    ascending_congr fun n => by simp only [List.mem_filterMap, h]
  rw [setOrder, setOrder, htexts, hints, hrest]

theorem filter_isOther_setOrder (vs : List Value) :
    (setOrder vs).filter isOther = vs.filter isOther := by
  rw [setOrder, List.filter_append, List.filter_append, List.filter_filter]
  have htexts : ∀ ss : List String, (ss.map Value.text).filter isOther = [] := fun ss => by
    rw [List.filter_eq_nil_iff]
    rintro _ hv
    obtain ⟨s, -, rfl⟩ := List.mem_map.1 hv
    exact Bool.false_ne_true
  have hints : ∀ ns : List Int, (ns.map Value.int).filter isOther = [] := fun ns => by
    rw [List.filter_eq_nil_iff]
    rintro _ hv
    obtain ⟨n, -, rfl⟩ := List.mem_map.1 hv
    exact Bool.false_ne_true
  rw [htexts, hints, List.nil_append]
  simp only [Bool.and_self]
  rfl

/-- A written set does not change when one of its texts is put into it. -/
theorem setOrder_insert_text {vs : List Value} {s : String} (h : .text s ∈ vs) :
    setOrder (setOrder vs ++ [.text s]) = setOrder vs := by
  refine setOrder_congr (fun v => ?_) ?_
  · rw [List.mem_append, mem_setOrder, List.mem_singleton]
    constructor
    · rintro (hv | rfl)
      · exact hv
      · exact h
    · exact Or.inl
  · rw [List.filter_append, filter_isOther_setOrder]
    exact List.append_nil _

/-- Two texts are put into a written set in either order. -/
theorem setOrder_insert_comm (vs : List Value) (m m' : String) :
    setOrder (setOrder (vs ++ [.text m]) ++ [.text m']) =
      setOrder (setOrder (vs ++ [.text m']) ++ [.text m]) := by
  apply setOrder_congr
  · intro v
    simp only [List.mem_append, mem_setOrder, List.mem_singleton]
    exact or_right_comm
  · have htext : ∀ s : String, [Value.text s].filter isOther = [] := fun _ => rfl
    simp only [List.filter_append, filter_isOther_setOrder, htext, List.append_nil]

end Value

/-! ## What a policy says -/

namespace Binding

/-- A binding as it should be: it has a role, and its members, if it names any, are a list of
texts. -/
structure IsWellFormed (b : Binding) : Prop where
  role : b.role.isSome
  members : ∀ v, b.members = some v → ∃ ss : List String, v = .list (ss.map .text)

/-- A member that a binding lists. -/
def Has (b : Binding) (v : Value) : Prop := ∃ vs, b.members = some (.list vs) ∧ v ∈ vs

/-- The condition under which a binding is in force: an empty one is none. -/
def inForce (b : Binding) : Option Value := b.condition.filter Value.isTruthy

end Binding

namespace Policy

variable {m : String} {bs gs : List Binding} {b : Binding}

/-- A policy gives a role to a member under a condition, or under none. -/
def Holds (bs : List Binding) (role : Value) (condition : Option Value) (v : Value) : Prop :=
  ∃ b ∈ bs, b.role = some role ∧ b.inForce = condition ∧ b.Has v

/-- The binding that gives the role to one member. -/
def single (m : String) : Binding := ⟨some (.text objectAdmin), some (.list [.text m]), none, []⟩

/-- A policy that has taken a member in: one plain binding of the role lists it beside the members
it had, or there is one more binding. -/
inductive Adds (m : String) : List Binding → List Binding → Prop where
  | joined (before after : List Binding) {b : Binding} {vs : List Value}
      (role : b.role = some (.text objectAdmin)) (plain : b.inForce = none)
      (members : ∀ v, v ∈ vs ↔ b.Has v ∨ v = .text m) :
      Adds m (before ++ b :: after) (before ++ { b with members := some (.list vs) } :: after)
  | appended {bs : List Binding} : Adds m bs (bs ++ [single m])

theorem has_single {v : Value} : (single m).Has v ↔ v = .text m := by
  constructor
  · rintro ⟨vs, hvs, hv⟩
    cases hvs
    exact List.mem_singleton.1 hv
  · rintro rfl
    exact ⟨_, rfl, List.mem_singleton_self _⟩

/-- A member taken in is one more triple; all others are as they were. -/
theorem Adds.holds_iff (h : Adds m bs gs) (role : Value) (condition : Option Value) (v : Value) :
    Holds gs role condition v ↔ Holds bs role condition v ∨
      role = .text objectAdmin ∧ condition = none ∧ v = .text m := by
  cases h with
  | @joined before after b vs hrole hplain hmembers =>
    have hhas : Binding.Has { b with members := some (.list vs) } v ↔ b.Has v ∨ v = .text m := by
      rw [← hmembers v]
      exact ⟨fun ⟨ws, hws, hv⟩ => by cases hws; exact hv, fun hv => ⟨vs, rfl, hv⟩⟩
    constructor
    · rintro ⟨c, hc, hr, hi, hv⟩
      rcases List.mem_append.1 hc with hc | hc
      · exact Or.inl ⟨c, List.mem_append_left _ hc, hr, hi, hv⟩
      · rcases List.mem_cons.1 hc with rfl | hc
        · rcases hhas.1 hv with hv | rfl
          · exact Or.inl ⟨b, by simp, hr, hi, hv⟩
          · exact Or.inr ⟨(Option.some.inj (hrole.symm.trans hr)).symm, hi.symm.trans hplain, rfl⟩
        · exact Or.inl ⟨c, by simp [hc], hr, hi, hv⟩
    · rintro (⟨c, hc, hr, hi, hv⟩ | ⟨rfl, rfl, rfl⟩)
      · rcases List.mem_append.1 hc with hc | hc
        · exact ⟨c, List.mem_append_left _ hc, hr, hi, hv⟩
        · rcases List.mem_cons.1 hc with rfl | hc
          · exact ⟨{ c with members := some (.list vs) }, by simp, hr, hi, hhas.2 (Or.inl hv)⟩
          · exact ⟨c, by simp [hc], hr, hi, hv⟩
      · exact ⟨{ b with members := some (.list vs) }, by simp, hrole, hplain, hhas.2 (Or.inr rfl)⟩
  | appended =>
    constructor
    · rintro ⟨c, hc, hr, hi, hv⟩
      rcases List.mem_append.1 hc with hc | hc
      · exact Or.inl ⟨c, hc, hr, hi, hv⟩
      · rw [List.mem_singleton.1 hc] at hr hi hv
        exact Or.inr ⟨(Option.some.inj hr).symm, hi.symm, has_single.1 hv⟩
    · rintro (⟨c, hc, hr, hi, hv⟩ | ⟨rfl, rfl, rfl⟩)
      · exact ⟨c, List.mem_append_left _ hc, hr, hi, hv⟩
      · exact ⟨single m, by simp, rfl, rfl, has_single.2 rfl⟩

/-! ## Granting -/

theorem isPlainAdmin_eq_ok_true :
    isPlainAdmin b = .ok true ↔ b.role = some (.text objectAdmin) ∧ b.inForce = none := by
  obtain ⟨role, members, condition, other⟩ := b
  rcases role with _ | role
  · simp [isPlainAdmin]
  · simp only [isPlainAdmin, Except.ok.injEq, Bool.and_eq_true, Value.equals_text_iff,
      Option.some.injEq, Binding.inForce]
    rcases condition with _ | c
    · simp [Value.isTruthy]
    · simp [Option.filter]

theorem memberSet_eq_ok {members : Option Value} {vs : List Value} :
    memberSet members = .ok vs ↔ listed members = .ok vs ∧ ∀ v ∈ vs, v.isKey := by
  rw [memberSet]
  rcases listed members with e | items
  · simp
  · dsimp only
    rcases hf : items.find? fun v => !v.isKey with _ | v <;> rw [hf]
    · simp only [List.find?_eq_none, Bool.not_eq_true', Bool.not_eq_false] at hf
      simp only [Except.ok.injEq]
      exact ⟨fun h => ⟨h, h ▸ hf⟩, fun h => h.1⟩
    · have hv : v.isKey = false := by simpa using List.find?_some hf
      have hmem : v ∈ items := List.mem_of_find?_eq_some hf
      simp only [reduceCtorEq, Except.ok.injEq, false_iff]
      rintro ⟨rfl, hkeys⟩
      rw [hkeys v hmem] at hv
      cases hv

/-- **Granting adds.** -/
theorem adds_of_grant (hbs : ∀ b ∈ bs, b.IsWellFormed) (h : grant m bs = .ok gs) :
    Adds m bs gs := by
  induction bs generalizing gs with
  | nil =>
    cases h
    exact Adds.appended
  | cons b rest ih =>
    obtain ⟨hb, hrest⟩ := List.forall_mem_cons.1 hbs
    rw [grant] at h
    rcases hp : isPlainAdmin b with e | isPlain <;> rw [hp] at h
    · cases h
    cases isPlain with
    | true =>
      obtain ⟨hrole, hplain⟩ := isPlainAdmin_eq_ok_true.1 hp
      rcases hm : memberSet b.members with e | vs <;> rw [hm] at h <;> cases h
      refine Adds.joined [] rest hrole hplain fun v => ?_
      rw [Value.mem_setOrder, List.mem_append, List.mem_singleton]
      have hlisted := (memberSet_eq_ok.1 hm).1
      have hhas : v ∈ vs ↔ b.Has v := by
        rcases hbm : b.members with _ | w
        · rw [hbm] at hlisted
          cases hlisted
          simp [Binding.Has, hbm]
        · obtain ⟨ss, rfl⟩ := hb.members w hbm
          rw [hbm] at hlisted
          cases hlisted
          simp [Binding.Has, hbm]
      rw [hhas]
    | false =>
      rcases hg : grant m rest with e | hs <;> rw [hg] at h <;> cases h
      cases ih hrest hg with
      | @joined before after c vs hrole hplain hmembers =>
        exact Adds.joined (b :: before) after hrole hplain hmembers
      | appended => exact Adds.appended

theorem exists_memberSet (hb : b.IsWellFormed) : ∃ vs, memberSet b.members = .ok vs := by
  rcases hm : b.members with _ | v
  · exact ⟨[], rfl⟩
  · obtain ⟨ss, rfl⟩ := hb.members v hm
    refine ⟨ss.map .text, memberSet_eq_ok.2 ⟨rfl, fun v hv => ?_⟩⟩
    obtain ⟨s, -, rfl⟩ := List.mem_map.1 hv
    rfl

theorem exists_grant (hbs : ∀ b ∈ bs, b.IsWellFormed) (m : String) :
    ∃ gs, grant m bs = .ok gs := by
  induction bs with
  | nil => exact ⟨_, rfl⟩
  | cons b rest ih =>
    obtain ⟨hb, hrest⟩ := List.forall_mem_cons.1 hbs
    obtain ⟨role, hrole⟩ := Option.isSome_iff_exists.1 hb.role
    rcases hp : isPlainAdmin b with e | _ | _
    · rw [isPlainAdmin, hrole] at hp
      cases hp
    · obtain ⟨gs, hgs⟩ := ih hrest
      exact ⟨b :: gs, by rw [grant, hp, hgs]; rfl⟩
    · obtain ⟨vs, hvs⟩ := exists_memberSet hb
      exact ⟨_, by rw [grant, hp, hvs]⟩

theorem grant_ofSet {vs : List Value} (hp : isPlainAdmin b = .ok true)
    (hkeys : ∀ v ∈ vs, v.isKey) (m : String) (rest : List Binding) :
    grant m ({ b with members := some (Value.ofSet vs) } :: rest) =
      .ok ({ b with members := some (Value.ofSet (Value.setOrder vs ++ [.text m])) } :: rest) := by
  have hset : memberSet (some (Value.ofSet vs)) = .ok (Value.setOrder vs) :=
    memberSet_eq_ok.2 ⟨rfl, fun v hv => hkeys v (Value.mem_setOrder.1 hv)⟩
  have hplain : isPlainAdmin { b with members := some (Value.ofSet vs) } = .ok true := hp
  rw [grant, hplain]
  dsimp only
  rw [hset]

theorem grant_again {vs : List Value} (hp : isPlainAdmin b = .ok true) (hkeys : ∀ v ∈ vs, v.isKey)
    (hm : .text m ∈ vs) (rest : List Binding) :
    grant m ({ b with members := some (Value.ofSet vs) } :: rest) =
      .ok ({ b with members := some (Value.ofSet vs) } :: rest) := by
  rw [grant_ofSet hp hkeys, Value.ofSet, Value.setOrder_insert_text hm, Value.ofSet]

/-- **Granting again.** A member that was granted the role is granted it again by the same
policy. -/
theorem grant_grant (h : grant m bs = .ok gs) : grant m gs = .ok gs := by
  induction bs generalizing gs with
  | nil =>
    cases h
    have hplain : isPlainAdmin (single m) = .ok true := isPlainAdmin_eq_ok_true.2 ⟨rfl, rfl⟩
    have hkeys : ∀ v ∈ [Value.text m], v.isKey := fun v hv => by
      rw [List.mem_singleton.1 hv]
      rfl
    exact grant_again hplain hkeys (List.mem_singleton_self _) []
  | cons b rest ih =>
    rw [grant] at h
    rcases hp : isPlainAdmin b with e | isPlain <;> rw [hp] at h
    · cases h
    cases isPlain with
    | true =>
      rcases hm : memberSet b.members with e | vs <;> rw [hm] at h <;> cases h
      refine grant_again hp (fun v hv => ?_) (by simp) rest
      rcases List.mem_append.1 hv with hv | hv
      · exact (memberSet_eq_ok.1 hm).2 v hv
      · rw [List.mem_singleton.1 hv]
        rfl
    | false =>
      rcases hg : grant m rest with e | hs <;> rw [hg] at h <;> cases h
      rw [grant, hp]
      dsimp only
      rw [ih hg]
      rfl

/-- A plain binding of the role that one member joined takes in another one, and the other way
round it becomes the same. -/
theorem grant_joined {b : Binding} {vs : List Value} (hp : isPlainAdmin b = .ok true)
    (hkeys : ∀ v ∈ vs, v.isKey) (m m' : String) (rest : List Binding) : ∃ hs,
      grant m' ({ b with members := some (Value.ofSet (vs ++ [.text m])) } :: rest) = .ok hs ∧
        grant m ({ b with members := some (Value.ofSet (vs ++ [.text m'])) } :: rest) = .ok hs := by
  have hset : ∀ s : String, ∀ v ∈ vs ++ [Value.text s], v.isKey := by
    intro s v hv
    rcases List.mem_append.1 hv with hv | hv
    · exact hkeys v hv
    · rw [List.mem_singleton.1 hv]
      rfl
  refine ⟨_, grant_ofSet hp (hset m) m' rest, ?_⟩
  rw [grant_ofSet hp (hset m') m rest, Value.ofSet, Value.setOrder_insert_comm, ← Value.ofSet]

/-- **Two grants.** A policy that can take in either of two members takes in both, in either order
with the same policy. -/
theorem grant_comm {m m' : String} {bs gs gs' : List Binding} (h : grant m bs = .ok gs)
    (h' : grant m' bs = .ok gs') : ∃ hs, grant m' gs = .ok hs ∧ grant m gs' = .ok hs := by
  induction bs generalizing gs gs' with
  | nil =>
    cases h
    cases h'
    have hplain : isPlainAdmin (single m) = .ok true := isPlainAdmin_eq_ok_true.2 ⟨rfl, rfl⟩
    exact grant_joined hplain (List.forall_mem_nil _) m m' []
  | cons b rest ih =>
    rw [grant] at h h'
    rcases hp : isPlainAdmin b with e | isPlain <;> rw [hp] at h h'
    · cases h
    cases isPlain with
    | true =>
      rcases hm : memberSet b.members with e | vs <;> rw [hm] at h h' <;> cases h
      cases h'
      exact grant_joined hp (memberSet_eq_ok.1 hm).2 m m' rest
    | false =>
      rcases hg : grant m rest with e | ks <;> rw [hg] at h <;> cases h
      rcases hg' : grant m' rest with e | ks' <;> rw [hg'] at h' <;> cases h'
      obtain ⟨hs, hhs, hhs'⟩ := ih hg hg'
      refine ⟨b :: hs, ?_, ?_⟩
      · rw [grant, hp, hhs]
        rfl
      · rw [grant, hp, hhs']
        rfl

end Policy

end TransferBucket
