import TransferBucket.Proofs.Buckets
import TransferBucket.Proofs.Policy

/-!
# Granting adds one right

**Theorem (`granting_adds_one_right`).** Take a bucket whose bindings each have a role and list
texts, if anything; several may be for one role, and some under a condition. Where no call meets a
fault, granting stores a policy with one triple more, and without a change to any binding but one:
a plain binding of the role, which takes the account in, or a new one at the end (`Policy.Adds`).
The account is granted the right again by the same policy, and two accounts are granted it in
either order by one policy. If a call meets a fault that is recognised, granting is refused for it
and the cloud stays as it was.

**Runs and clouds** (`Storage.Grants`). What granting does depends on the cloud alone where no call
meets a fault, so it is told of clouds, for all sessions at once. Runs that follow each other need
not be of one session then: between them other things may happen to journals, plans and clients.
-/

namespace TransferBucket

open Session

namespace Storage

/-- The methods called to grant. -/
def grantMethods : List Method := [.getPolicy, .setPolicy]

/-- Granting an account the right on a bucket leads from one cloud to another, in every session in
which no call meets a fault. -/
def Grants (bucket : Value) (email : String) (c c' : Cloud) : Prop :=
  ∀ s : Session, s.cloud = c → s.IsFree grantMethods →
    ∃ t, grant bucket email s = (.ok (), t) ∧ t.cloud = c'

variable {bucket : Value} {email : String} {c : Cloud} {b : Bucket} {gs : List Binding}

theorem grants_of_grant (hb : c.bucket? bucket = some b)
    (h : Policy.grant (Policy.member email) b.bindings = .ok gs) :
    Grants bucket email c (c.setBindings bucket gs) := by
  intro s hs hfree
  subst hs
  have hget : s.fault? .getPolicy = none := hfree _ (by decide)
  have hset : s.fault? .setPolicy = none := hfree _ (by decide)
  rw [grant_apply, hget, hset, hb]
  dsimp only [Option.elim_some]
  rw [h]
  exact ⟨_, rfl, rfl⟩

theorem grant_of_fault {s : Session} {f : Fault} (hb : s.cloud.bucket? bucket = some b)
    (h : Policy.grant (Policy.member email) b.bindings = .ok gs)
    (hf : s.fault? .getPolicy = some f ∨
      s.fault? .getPolicy = none ∧ s.fault? .setPolicy = some f)
    (hrecognised : f.isRecognised) :
    (grant bucket email s).1 = .error (.provision (.grantRefused email bucket f)) ∧
      (grant bucket email s).2.cloud = s.cloud := by
  have hreport : reported (.grantRefused email bucket) f =
      .provision (.grantRefused email bucket f) := if_pos hrecognised
  rw [grant_apply]
  rcases hf with hget | ⟨hget, hset⟩
  · rw [hget]
    exact ⟨congrArg Except.error hreport, rfl⟩
  · rw [hget, hset, hb]
    dsimp only [Option.elim_some]
    rw [h]
    exact ⟨congrArg Except.error hreport, rfl⟩

/-- What granting an account the right on a bucket does in a cloud, where `gs` is the policy that it
stores. -/
structure AddsOneRight (bucket : Value) (email : String) (c : Cloud) (b : Bucket)
    (gs : List Binding) : Prop where
  /-- The policy is stored, and nothing else is done. -/
  stores : Grants bucket email c (c.setBindings bucket gs)
  stored : (c.setBindings bucket gs).bucket? bucket = some { b with bindings := gs }
  /-- Every binding stays in its place, and one at most is added. One at most gets other members,
  and it is in force under no condition. -/
  adds : Policy.Adds (Policy.member email) b.bindings gs
  /-- The triples of the policy are the old ones and that of the account. -/
  triples : ∀ role condition v, Policy.Holds gs role condition v ↔
    Policy.Holds b.bindings role condition v ∨
      role = .text Policy.objectAdmin ∧ condition = none ∧ v = .text (Policy.member email)
  /-- Granting again stores the same policy. -/
  again : Grants bucket email (c.setBindings bucket gs) (c.setBindings bucket gs)
  /-- Another account may be granted the right before or after. -/
  inEitherOrder : ∀ other, ∃ gs' hs, Grants bucket other c (c.setBindings bucket gs') ∧
    Grants bucket other (c.setBindings bucket gs) (c.setBindings bucket hs) ∧
    Grants bucket email (c.setBindings bucket gs') (c.setBindings bucket hs)
  /-- A fault that is recognised is the reason for a refusal, which changes nothing. -/
  refused : ∀ s : Session, s.cloud = c → ∀ f : Fault,
    (s.fault? .getPolicy = some f ∨ s.fault? .getPolicy = none ∧ s.fault? .setPolicy = some f) →
      f.isRecognised →
        (grant bucket email s).1 = .error (.provision (.grantRefused email bucket f)) ∧
          (grant bucket email s).2.cloud = c

/-- **Granting adds one right.** -/
theorem granting_adds_one_right (c : Cloud) (bucket : Value) (b : Bucket)
    (hb : c.bucket? bucket = some b) (hpolicy : ∀ x ∈ b.bindings, x.IsWellFormed)
    (email : String) : ∃ gs, AddsOneRight bucket email c b gs := by
  obtain ⟨gs, hgs⟩ := Policy.exists_grant hpolicy (Policy.member email)
  have hadds := Policy.adds_of_grant hpolicy hgs
  have hstored : ∀ gs, (c.setBindings bucket gs).bucket? bucket = some { b with bindings := gs } :=
    fun gs => Cloud.bucket?_setBindings_self hb gs
  -- a policy that is stored in the place of another one is stored as if that had never been
  have hnext : ∀ {account gs hs}, Policy.grant (Policy.member account) gs = .ok hs →
      Grants bucket account (c.setBindings bucket gs) (c.setBindings bucket hs) := by
    intro account gs hs h
    rw [← Cloud.setBindings_setBindings c bucket gs hs]
    exact grants_of_grant (hstored gs) h
  refine ⟨gs, grants_of_grant hb hgs, hstored gs, hadds, hadds.holds_iff,
    hnext (Policy.grant_grant hgs), ?_, ?_⟩
  · intro other
    obtain ⟨gs', hgs'⟩ := Policy.exists_grant hpolicy (Policy.member other)
    obtain ⟨hs, hhs, hhs'⟩ := Policy.grant_comm hgs hgs'
    exact ⟨gs', hs, grants_of_grant hb hgs', hnext hhs, hnext hhs'⟩
  · intro s hs f hf hrecognised
    subst hs
    exact grant_of_fault hb hgs hf hrecognised

/-- A policy with a binding of the role under a condition, one with an empty condition and no list,
and one more: the second takes the account in. -/
theorem granting_adds_one_right_unlisted :
    let role := some (Value.text Policy.objectAdmin)
    let conditional : Binding := ⟨role, some (.list [.text "user:a"]), some (.text "x"), []⟩
    let plain : Binding := ⟨role, none, some (.mapping []), []⟩
    let second : Binding := ⟨role, some (.list [.text "user:b"]), none, []⟩
    let b : Bucket := ⟨.text "b1", .text "EU", .null, [], [conditional, plain, second]⟩
    let c : Cloud := { buckets := [b] }
    let s : Session := { cloud := c, vault := { kind := .environment } }
    c.bucket? (.text "b1") = some b ∧ (∀ x ∈ b.bindings, x.IsWellFormed) ∧
      (∃ gs, AddsOneRight (.text "b1") "a@p1" c b gs) ∧
      ((grant (.text "b1") "a@p1" s).2.cloud.bucket? (.text "b1")).map Bucket.bindings =
        some [conditional, { plain with members := some (.list [.text "serviceAccount:a@p1"]) },
          second] := by
  intro role conditional plain second b c s
  have hpolicy : ∀ x ∈ b.bindings, x.IsWellFormed := by
    simp only [b, List.forall_mem_cons, List.not_mem_nil, false_implies, implies_true, and_true]
    refine ⟨⟨rfl, ?_⟩, ⟨rfl, nofun⟩, ⟨rfl, ?_⟩⟩
    · rintro _ ⟨⟩
      exact ⟨["user:a"], rfl⟩
    · rintro _ ⟨⟩
      exact ⟨["user:b"], rfl⟩
  exact ⟨by decide, hpolicy, granting_adds_one_right c (.text "b1") b (by decide) hpolicy "a@p1",
    by decide +kernel +zetaReduce⟩

end Storage

end TransferBucket
