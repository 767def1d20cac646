import TransferBucket.Proofs.Course
import TransferBucket.Proofs.Policy

/-!
# What a provisioning guarantees

**Theorem (`provision_guarantee`).** In a cloud whose policies are as they should be, whatever is
planned for the calls:

* *success*: a provisioning that succeeds leaves the bucket, the account with its description, the
  right of the account on the bucket, and one token more, which it returns with the record of all
  that (`Established`);
* *frame*: however a provisioning ends, it has added at most the account and the bucket of the
  definition, and at most one member to the policy of the bucket (`Confined`); no token is issued
  without success.

Both are read off the course of the stages: its effects are the only ones, and each stage hands
over what it has found or made to the next.
-/

namespace TransferBucket

open Session

namespace Provision

/-! ## Success -/

/-- What a successful provisioning has made of the cloud `c`, and what it returns. -/
structure Established (d : Definition) (c c' : Cloud) (p : Provisioned) (a : Account) (b : Bucket) :
    Prop where
  bucket : c'.bucket? d.targetBucket = some b
  account : a ∈ Remote.accountsOf d.project c'
  describes : a.description = accountDescription d.transferProcess d.targetBucket
  holds : Policy.Holds b.bindings (.text Policy.objectAdmin) none (.text (Policy.member a.email))
  issued : c'.tokensIssued = c.tokensIssued + 1
  token : p.token = ⟨s!"issued-{c.tokensIssued + 1}", AccessToken.expirationAt c.tokenEnd⟩
  accountEmail : p.resource.accountEmail = .text a.email
  accountName : p.resource.accountName = .text a.name
  bucketName : p.resource.bucketName = d.targetBucket
  id : p.resource.id = d.id
  definitionId : p.resource.definitionId = d.id
  transferProcess : p.resource.transferProcess = d.transferProcess
  location : p.resource.location = d.location
  project : p.resource.project = d.project
  storageClass : p.resource.storageClass = d.storageClass
  address : p.resource.address = d.address

/-! ## Frame -/

/-- The account of a definition is the only one that may have come to the cloud `c`. -/
def AccountsConfined (d : Definition) (c c' : Cloud) : Prop :=
  c'.accounts = c.accounts ∨ ∃ id, accountIdOf d.transferProcess = .ok id ∧
    c.account? (Remote.accountName d.project (Remote.accountEmail id d.project)) = none ∧
    c'.accounts = c.accounts ++ [Remote.newAccount d.project id
      (accountDescription d.transferProcess d.targetBucket)]

/-- The policy of a bucket of a definition has taken in an account of the definition, one triple and
no more. -/
def PolicyConfined (d : Definition) (c' : Cloud) (bs gs : List Binding) : Prop :=
  ∃ a ∈ Remote.accountsOf d.project c',
    a.description = accountDescription d.transferProcess d.targetBucket ∧
    Policy.Adds (Policy.member a.email) bs gs ∧
    ∀ role condition v, Policy.Holds gs role condition v ↔ Policy.Holds bs role condition v ∨
      role = .text Policy.objectAdmin ∧ condition = none ∧ v = .text (Policy.member a.email)

/-- The bucket of a definition is the only one that may have come to the cloud `c`, and the only
one whose policy may be another than in `c`. -/
def BucketsConfined (d : Definition) (c c' : Cloud) : Prop :=
  ∃ bs, (bs = c.buckets ∨ c.bucket? d.targetBucket = none ∧ bs = c.buckets ++ [newBucket d]) ∧
    (c'.buckets = bs ∨ ∃ b ∈ bs, b.name = d.targetBucket ∧ ∃ gs, PolicyConfined d c' b.bindings gs ∧
      c'.buckets = bs.map fun b => if b.name = d.targetBucket then { b with bindings := gs } else b)

/-- What a provisioning may have changed of the cloud `c`, the number of tokens apart. -/
structure Confined (d : Definition) (c c' : Cloud) : Prop where
  accounts : AccountsConfined d c c'
  buckets : BucketsConfined d c c'
  secrets : c'.secrets = c.secrets
  tokenEnd : c'.tokenEnd = c.tokenEnd

variable {d : Definition} {c c₁ c₂ c₃ : Cloud} {b : Bucket} {a : Account}

/-- What is made before the policy of the bucket is touched. -/
structure Made (d : Definition) (c c' : Cloud) : Prop where
  accounts : AccountsConfined d c c'
  buckets : c'.buckets = c.buckets ∨
    c.bucket? d.targetBucket = none ∧ c'.buckets = c.buckets ++ [newBucket d]
  secrets : c'.secrets = c.secrets
  tokenEnd : c'.tokenEnd = c.tokenEnd
  tokensIssued : c'.tokensIssued = c.tokensIssued

theorem Made.of_bucket (h : c₁ = c ∨ BucketMade d c c₁) : Made d c c₁ := by
  rcases h with rfl | ⟨hnone, rfl⟩
  · exact ⟨Or.inl rfl, Or.inl rfl, rfl, rfl, rfl⟩
  · exact ⟨Or.inl rfl, Or.inr ⟨hnone, rfl⟩, rfl, rfl, rfl⟩

theorem Made.of_account (h₁ : c₁ = c ∨ BucketMade d c c₁) (h₂ : c₂ = c₁ ∨ AccountMade d c₁ c₂) :
    Made d c c₂ := by
  have hbucket := Made.of_bucket h₁
  rcases h₂ with rfl | ⟨id, hid, hnone, rfl⟩
  · exact hbucket
  · refine { hbucket with accounts := Or.inr ⟨id, hid, ?_, ?_⟩ }
    · rcases h₁ with rfl | ⟨-, rfl⟩ <;> exact hnone
    · rcases h₁ with rfl | ⟨-, rfl⟩ <;> rfl

theorem Made.confined (h : Made d c c₁) : Confined d c c₁ :=
  ⟨h.accounts, ⟨_, h.buckets, Or.inl rfl⟩, h.secrets, h.tokenEnd⟩

theorem IdentityReady.made (h : IdentityReady d c c₂ b a) : Made d c c₂ := by
  obtain ⟨c₁, hready, haccount⟩ := h.ready
  exact .of_account hready.made haccount

/-- The policy of the bucket that is ready is as it should be: it is one of those before, or it is
empty. -/
theorem IdentityReady.isWellFormed (h : IdentityReady d c c₂ b a)
    (hpolicies : ∀ b ∈ c.buckets, ∀ x ∈ b.bindings, x.IsWellFormed) :
    ∀ x ∈ b.bindings, x.IsWellFormed := by
  obtain ⟨c₁, ⟨rfl | hmade, hthere⟩, -⟩ := h.ready
  · exact hpolicies b (Cloud.mem_of_bucket? hthere)
  · rw [hmade.bucket?] at hthere
    cases hthere
    exact fun x hx => absurd hx List.not_mem_nil

theorem IdentityReady.confined (h : IdentityReady d c c₂ b a)
    (hpolicies : ∀ b ∈ c.buckets, ∀ x ∈ b.bindings, x.IsWellFormed) (hg : Granted d b a c₂ c₃) :
    Confined d c c₃ := by
  obtain ⟨gs, hgs, rfl⟩ := hg
  have hadds := Policy.adds_of_grant (h.isWellFormed hpolicies) hgs
  have hpolicy : PolicyConfined d (c₂.setBindings d.targetBucket gs) b.bindings gs :=
    ⟨a, h.there, h.describes, hadds, hadds.holds_iff⟩
  have hb : b ∈ c₂.buckets := Cloud.mem_of_bucket? h.bucket?
  have hname : b.name = d.targetBucket := Cloud.name_of_bucket? h.bucket?
  exact ⟨h.made.accounts, ⟨_, h.made.buckets, Or.inr ⟨b, hb, hname, gs, hpolicy, rfl⟩⟩,
    h.made.secrets, h.made.tokenEnd⟩

theorem IdentityReady.tokensIssued (h : IdentityReady d c c₂ b a) (hg : Granted d b a c₂ c₃) :
    c₃.tokensIssued = c.tokensIssued := by
  obtain ⟨gs, -, rfl⟩ := hg
  exact h.made.tokensIssued

theorem Confined.issued (h : Confined d c c₃) : Confined d c (issued c₃) :=
  ⟨h.accounts, h.buckets, h.secrets, h.tokenEnd⟩

theorem IdentityReady.established (h : IdentityReady d c c₂ b a)
    (hpolicies : ∀ b ∈ c.buckets, ∀ x ∈ b.bindings, x.IsWellFormed) (hg : Granted d b a c₂ c₃) :
    ∃ b, Established d c (Provision.issued c₃) ⟨record d a, nextToken c₃⟩ a b := by
  obtain ⟨gs, hgs, rfl⟩ := hg
  have hadds := Policy.adds_of_grant (h.isWellFormed hpolicies) hgs
  refine ⟨{ b with bindings := gs }, {
    bucket := Cloud.bucket?_setBindings_self h.bucket? gs
    account := h.there
    describes := h.describes
    holds := (hadds.holds_iff _ _ _).2 (Or.inr ⟨rfl, rfl, rfl⟩)
    issued := congrArg (· + 1) h.made.tokensIssued
    token := ?_
    accountEmail := rfl
    accountName := rfl
    bucketName := rfl
    id := rfl
    definitionId := rfl
    transferProcess := rfl
    location := rfl
    project := rfl
    storageClass := rfl
    address := rfl }⟩
  have htokens : (c₂.setBindings d.targetBucket gs).tokensIssued = c.tokensIssued :=
    h.made.tokensIssued
  have hends : (c₂.setBindings d.targetBucket gs).tokenEnd = c.tokenEnd := h.made.tokenEnd
  rw [nextToken, htokens, hends]

/-! ## Courses -/

variable {c' : Cloud} {r : Except (Stage × Failure) (Account × AccessToken)}

/-- **Frame.** However a course ends, it adds the account and the bucket of its definition, and one
member to the policy of the bucket, or less. -/
theorem Course.confined (h : Course d c r c')
    (hpolicies : ∀ b ∈ c.buckets, ∀ x ∈ b.bindings, x.IsWellFormed) : Confined d c c' := by
  cases h with
  | credentials e => exact (Made.of_bucket (Or.inl rfl)).confined
  | bucket e made => exact (Made.of_bucket made).confined
  | account e ready made => exact (Made.of_account ready.made made).confined
  | grant e ready => exact ready.made.confined
  | token e ready granted => exact ready.confined hpolicies granted
  | done ready granted => exact (ready.confined hpolicies granted).issued

/-- A course that ends early issues no token. -/
theorem Course.tokensIssued {e : Stage × Failure} (h : Course d c (.error e) c') :
    c'.tokensIssued = c.tokensIssued := by
  cases h with
  | credentials e => rfl
  | bucket e made => exact (Made.of_bucket made).tokensIssued
  | account e ready made => exact (Made.of_account ready.made made).tokensIssued
  | grant e ready => exact ready.made.tokensIssued
  | token e ready granted => exact ready.tokensIssued granted

/-- **Success.** A course that comes to its end leaves all that was asked for. -/
theorem Course.established {token : AccessToken} (h : Course d c (.ok (a, token)) c')
    (hpolicies : ∀ b ∈ c.buckets, ∀ x ∈ b.bindings, x.IsWellFormed) :
    ∃ b, Established d c c' ⟨record d a, token⟩ a b := by
  cases h with
  | done ready granted => exact ready.established hpolicies granted

end Provision

/-- **What a provisioning guarantees.** -/
theorem provision_guarantee (lifetime : Value) (d : Definition) (s : Session)
    (hpolicies : ∀ b ∈ s.cloud.buckets, ∀ x ∈ b.bindings, x.IsWellFormed) :
    (∀ o, (provision lifetime d s).1 = .ok o → o.succeeded → ∃ p a b, o = .success p ∧
      Provision.Established d s.cloud (provision lifetime d s).2.cloud p a b) ∧
    ((∀ p, (provision lifetime d s).1 ≠ .ok (.success p)) →
      (provision lifetime d s).2.cloud.tokensIssued = s.cloud.tokensIssued) ∧
    Provision.Confined d s.cloud (provision lifetime d s).2.cloud := by
  obtain ⟨r, hcourse, hanswer⟩ := Provision.provision_course lifetime d s
  refine ⟨fun o ho hsucceeded => ?_, fun hnone => ?_, hcourse.confined hpolicies⟩
  · rw [hanswer] at ho
    rcases r with e | ⟨a, token⟩
    · rw [Provision.not_succeeded_of_error ho] at hsucceeded
      cases hsucceeded
    · obtain ⟨b, hestablished⟩ := hcourse.established hpolicies
      exact ⟨_, a, b, (Except.ok.inj ho).symm, hestablished⟩
  · rcases r with e | ⟨a, token⟩
    · exact hcourse.tokensIssued
    · exact absurd hanswer (hnone _)

/-- A bucket that is there, with a binding of the role, and an account that is there too but comes
to light only when it is made again. -/
theorem provision_guarantee_unlisted :
    let a := Remote.newAccount (.text "p1") (accountId "tp-1")
      (accountDescription (.text "tp-1") (.text "b1"))
    let x : Binding := ⟨some (.text Policy.objectAdmin), some (.list [.text "user:x"]), none, []⟩
    let s : Session := {
      cloud := { accounts := [a], buckets := [⟨.text "b1", .text "EU", .null, [], [x]⟩] }
      schedule := Schedule.none.append .listAccounts [some .stale]
      vault := { kind := .environment } }
    let d : Definition := {
      id := .text "b1", transferProcess := .text "tp-1", location := .text "US"
      project := .text "p1" }
    (∀ b ∈ s.cloud.buckets, ∀ x ∈ b.bindings, x.IsWellFormed) ∧
      (∃ p a b, Provision.Established d s.cloud (provision (.int 3600) d s).2.cloud p a b) ∧
      Provision.Confined d s.cloud (provision (.int 3600) d s).2.cloud := by
  intro a x s d
  have hpolicies : ∀ b ∈ s.cloud.buckets, ∀ x ∈ b.bindings, x.IsWellFormed := by
    intro b hb y hy
    rw [List.mem_singleton.1 hb] at hy
    rw [List.mem_singleton.1 hy]
    exact ⟨rfl, fun v hv => ⟨["user:x"], (Option.some.inj hv).symm⟩⟩
  obtain ⟨hsuccess, -, hconfined⟩ := provision_guarantee (.int 3600) d s hpolicies
  obtain ⟨p, a, b, -, hestablished⟩ := hsuccess _ rfl rfl
  exact ⟨hpolicies, ⟨p, a, b, hestablished⟩, hconfined⟩

end TransferBucket
