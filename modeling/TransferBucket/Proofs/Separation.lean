import Mathlib.Data.List.Infix
import TransferBucket.Proofs.Identities

/-!
# No identity serves two resources

**Theorem (`identities_unshared`).** In a project whose accounts all have their own e-mail address
and the name made from it, two provisionings that succeed for different transfer processes or
different buckets answer different e-mail addresses, whatever happens in between and whatever goes
wrong, as long as the account of the first is not deleted. And where the id made for a definition
belongs to an account with another description, while no account is described as that of the
definition, a provisioning makes nothing but perhaps an empty bucket.

Different processes may be given one id. What keeps them apart is the description: an account is
only ever given out to the definition that it describes (`Provision.Established`, `IdentityReady`),
and an account that stays keeps its description (`Registered.mem_runAll`), for an operation either
takes accounts away or adds one, and never both (`Operation.accounts_perform`).
-/

namespace TransferBucket

open Session

/-! ## Names and addresses -/

/-- The accounts of a project are told apart by their e-mail addresses, and each has the name made
from its address. -/
structure Registered (project : String) (c : Cloud) : Prop where
  emails : (c.accounts.map (·.email)).Nodup
  named : ∀ a ∈ c.accounts, a.name = Remote.accountName (.text project) a.email

namespace Registered

variable {project : String} {c c' : Cloud}

theorem of_sublist (h : Registered project c) (hc : c'.accounts.Sublist c.accounts) :
    Registered project c' where
  emails := (hc.map _).nodup h.emails
  named a ha := h.named a (hc.subset ha)

theorem eq_of_name (h : Registered project c) {a a' : Account} (ha : a ∈ c.accounts)
    (ha' : a' ∈ c.accounts) (hname : a'.name = a.name) : a' = a := by
  rw [h.named a ha, h.named a' ha'] at hname
  exact List.inj_on_of_nodup_map h.emails ha' ha (Remote.accountName_injective _ hname)

/-- The address of a new account is new, because its name is. -/
theorem after_accountMade (h : Registered project c) {d : Definition}
    (hd : d.project = .text project) (hmade : Provision.AccountMade d c c') :
    Registered project c' := by
  obtain ⟨id, -, hnone, rfl⟩ := hmade
  rw [hd] at hnone ⊢
  refine ⟨?_, fun a ha => ?_⟩
  · rw [Cloud.addAccount, List.map_append, List.nodup_append]
    refine ⟨h.emails, List.nodup_singleton _, fun e he e' he' => ?_⟩
    obtain ⟨a, ha, rfl⟩ := List.mem_map.1 he
    obtain rfl : e' = Remote.accountEmail id (.text project) := List.mem_singleton.1 he'
    intro heq
    exact Cloud.account?_eq_none_iff.1 hnone a ha (heq ▸ h.named a ha)
  · rcases List.mem_append.1 ha with hold | hnew
    · exact h.named a hold
    · rw [List.mem_singleton.1 hnew]
      rfl

theorem invariant (project : String) : AccountInvariant project (Registered project) where
  fewer hc h := h.of_sublist hc
  made hd _ _ hmade h := h.after_accountMade hd hmade

end Registered

/-! ## Accounts that stay -/

namespace Operation

variable {s : Session}

/-- An account is there throughout operations, after each of them, by its name. -/
def Stays (lifetime : Value) (s : Session) (name : Value) (os : List Operation) : Prop :=
  ∀ before, before <+: os → ∃ a ∈ (runAll lifetime s before).cloud.accounts, .text a.name = name

theorem accounts_provision (lifetime : Value) (d : Definition) (s : Session) :
    s.cloud.accounts ⊆ (TransferBucket.provision lifetime d s).2.cloud.accounts := by
  obtain ⟨r, hcourse, -⟩ := Provision.provision_course lifetime d s
  refine hcourse.keeps (P := fun c => s.cloud.accounts ⊆ c.accounts) ?_ ?_ ?_ ?_ fun _ ha => ha
  · rintro c _ ⟨-, rfl⟩ hc
    exact hc
  · rintro c _ ⟨id, -, -, rfl⟩ hc
    exact fun a ha => List.mem_append_left _ (hc ha)
  · rintro c _ b a - - - ⟨gs, -, rfl⟩ hc
    exact hc
  · intro c hc
    exact hc

theorem accounts_deprovision (r : Resource) (s : Session) :
    (TransferBucket.deprovision r s).2.cloud.accounts ⊆ s.cloud.accounts := by
  have hpermits : Permits (fun s t => t.cloud.accounts ⊆ s.cloud.accounts) Deprovision.methods :=
    ⟨fun _ _ ha => ha, fun h₁ h₂ _ ha => h₁ (h₂ ha), fun _ _ _ _ ha => ha, fun _ _ _ _ ha => ha⟩
  have hcred : (r.address.credentials Source.defaultOrder).Along fun s t =>
      t.cloud.accounts ⊆ s.cloud.accounts := fun s _ ha =>
    (Address.credentials_cloud _ _ s) ▸ ha
  exact deprovision_along hpermits hcred (fun _ _ _ ha => ha) (fun _ _ _ ha => ha)
    (fun _ _ _ ha => List.mem_of_mem_filter ha) s

/-- An operation takes accounts away or adds some, and does not do both. -/
theorem accounts_perform (lifetime : Value) (o : Operation) (s : Session) :
    s.cloud.accounts ⊆ (o.perform lifetime s).2.cloud.accounts ∨
      (o.perform lifetime s).2.cloud.accounts ⊆ s.cloud.accounts := by
  cases o with
  | provision d => exact Or.inl (accounts_provision lifetime d s)
  | deprovision r => exact Or.inr (accounts_deprovision r s)
  | event e =>
    cases e with
    | removeAccount email => exact Or.inr fun a ha => List.mem_of_mem_filter ha
    | setVariable name value => cases value <;> exact Or.inl fun a ha => ha
    | plan method plans => exact Or.inl fun a ha => ha
    | putObject bucket object => exact Or.inl fun a ha => ha
    | storeSecret name bytes => exact Or.inl fun a ha => ha
    | moveTokenEnd ends => exact Or.inl fun a ha => ha

theorem runAll_append (lifetime : Value) (s : Session) (os os' : List Operation) :
    runAll lifetime s (os ++ os') = runAll lifetime (runAll lifetime s os) os' := by
  induction os generalizing s with
  | nil => rfl
  | cons o os ih => exact ih _

end Operation

namespace Registered

variable {project : String} {s : Session} {a : Account}

/-- An account stays itself through an operation after which one has its name. -/
theorem mem_perform (h : Registered project s.cloud) (ha : a ∈ s.cloud.accounts)
    (lifetime : Value) {o : Operation}
    (hthere : ∃ a' ∈ (o.perform lifetime s).2.cloud.accounts, a'.name = a.name) :
    a ∈ (o.perform lifetime s).2.cloud.accounts := by
  -- where accounts were taken away, the one under the name is an old one
  obtain ⟨a', ha', hname⟩ := hthere
  rcases o.accounts_perform lifetime s with hmore | hfewer
  · exact hmore ha
  · rwa [h.eq_of_name ha (hfewer ha') hname] at ha'

theorem mem_runAll (h : Registered project s.cloud) (ha : a ∈ s.cloud.accounts) (lifetime : Value)
    {os : List Operation} (hos : ∀ o ∈ os, o.IsFor project)
    (hstays : Operation.Stays lifetime s (.text a.name) os) :
    a ∈ (Operation.runAll lifetime s os).cloud.accounts := by
  induction os generalizing s with
  | nil => exact ha
  | cons o os ih =>
    obtain ⟨ho, hrest⟩ := List.forall_mem_cons.1 hos
    have hnext : a ∈ (o.perform lifetime s).2.cloud.accounts := by
      obtain ⟨a', ha', hname⟩ := hstays [o] ⟨os, rfl⟩
      exact h.mem_perform ha lifetime ⟨a', ha', Value.text.inj hname⟩
    refine ih ((Registered.invariant project).after_perform lifetime ho h) hnext hrest ?_
    rintro before ⟨after, rfl⟩
    exact hstays (o :: before) ⟨after, rfl⟩

end Registered

/-! ## An id that is taken -/

namespace Provision

variable {d : Definition} {c c' : Cloud}

/-- The id made for a definition belongs to an account with another description, and no account of
the project is described as that of the definition. -/
structure Contested (d : Definition) (c : Cloud) : Prop where
  taken : ∃ id a, accountIdOf d.transferProcess = .ok id ∧
    c.account? (Remote.accountName d.project (Remote.accountEmail id d.project)) = some a ∧
    a.description ≠ accountDescription d.transferProcess d.targetBucket
  undescribed : ∀ a ∈ Remote.accountsOf d.project c,
    a.description ≠ accountDescription d.transferProcess d.targetBucket

/-- What may have changed of the cloud `c` where no account is given: an empty bucket is made. -/
structure Untouched (d : Definition) (c c' : Cloud) : Prop where
  accounts : c'.accounts = c.accounts
  tokensIssued : c'.tokensIssued = c.tokensIssued
  buckets : c'.buckets = c.buckets ∨
    c.bucket? d.targetBucket = none ∧ c'.buckets = c.buckets ++ [newBucket d]

theorem Untouched.of_bucket (h : c' = c ∨ BucketMade d c c') : Untouched d c c' := by
  rcases h with rfl | ⟨hnone, rfl⟩
  · exact ⟨rfl, rfl, Or.inl rfl⟩
  · exact ⟨rfl, rfl, Or.inr ⟨hnone, rfl⟩⟩

theorem Contested.eq_of_made (h : Contested d c) (haccounts : c'.accounts = c.accounts)
    {c'' : Cloud} (hmade : c'' = c' ∨ AccountMade d c' c'') : c'' = c' := by
  -- there is one id that it could have, and that is taken
  refine hmade.resolve_right ?_
  rintro ⟨id, hid, hnone, -⟩
  obtain ⟨id', a, hid', ha, -⟩ := h.taken
  obtain rfl : id' = id := Except.ok.inj (hid'.symm.trans hid)
  rw [Cloud.account?, haccounts, ← Cloud.account?, ha] at hnone
  cases hnone

theorem Contested.not_ready (h : Contested d c) {b : Bucket} {a : Account}
    (hready : IdentityReady d c c' b a) : False := by
  obtain ⟨c₁, hbucket, hmade⟩ := hready.ready
  have haccounts := (Untouched.of_bucket hbucket.made).accounts
  have hthere := hready.there
  rw [h.eq_of_made haccounts hmade, Remote.accountsOf, haccounts] at hthere
  exact h.undescribed a hthere hready.describes

theorem Contested.stops (h : Contested d c) {r : Except (Stage × Failure) (Account × AccessToken)}
    (hcourse : Course d c r c') : (∃ e, r = .error e) ∧ Untouched d c c' := by
  cases hcourse with
  | credentials e => exact ⟨⟨_, rfl⟩, .of_bucket (Or.inl rfl)⟩
  | bucket e made => exact ⟨⟨_, rfl⟩, .of_bucket made⟩
  | account e ready made =>
    rw [h.eq_of_made (Untouched.of_bucket ready.made).accounts made]
    exact ⟨⟨_, rfl⟩, .of_bucket ready.made⟩
  | grant e ready => exact (h.not_ready ready).elim
  | token e ready granted => exact (h.not_ready ready).elim
  | done ready granted => exact (h.not_ready ready).elim

/-- The account that a success answers is there, and has the description of its definition. -/
theorem mem_of_success {lifetime : Value} {d : Definition} {s : Session} {p : Provisioned}
    (h : (provision lifetime d s).1 = .ok (.success p)) :
    ∃ a ∈ (provision lifetime d s).2.cloud.accounts,
      p.resource.accountEmail = .text a.email ∧ p.resource.accountName = .text a.name ∧
      a.description = accountDescription d.transferProcess d.targetBucket := by
  obtain ⟨a, ha, hdescribes, hrecord⟩ := account_of_success (Prod.ext h rfl)
  rw [hrecord]
  exact ⟨a, (Remote.mem_accountsOf.1 ha).1, rfl, rfl, hdescribes⟩

end Provision

/-- **No identity serves two resources.** -/
theorem identities_unshared (project : String) (lifetime : Value) (s : Session)
    (hs : Registered project s.cloud) :
    (∀ (os₁ os₂ : List Operation) (d₁ d₂ : Definition) (t₁ t₂ b₁ b₂ : String) (p₁ p₂ : Provisioned),
      (∀ o ∈ os₁ ++ .provision d₁ :: (os₂ ++ [.provision d₂]), o.IsFor project) →
      d₁.transferProcess = .text t₁ → d₁.targetBucket = .text b₁ →
      d₂.transferProcess = .text t₂ → d₂.targetBucket = .text b₂ → (t₁, b₁) ≠ (t₂, b₂) →
      (provision lifetime d₁ (Operation.runAll lifetime s os₁)).1 = .ok (.success p₁) →
      Operation.Stays lifetime (Operation.runAll lifetime s (os₁ ++ [.provision d₁]))
        p₁.resource.accountName os₂ →
      (provision lifetime d₂ (Operation.runAll lifetime s (os₁ ++ .provision d₁ :: os₂))).1 =
        .ok (.success p₂) →
      p₁.resource.accountEmail ≠ p₂.resource.accountEmail) ∧
    ∀ (t : Session) (d : Definition), Provision.Contested d t.cloud →
      (∀ o, (provision lifetime d t).1 = .ok o → o.succeeded = false) ∧
        Provision.Untouched d t.cloud (provision lifetime d t).2.cloud := by
  refine ⟨?_, fun t d hcontested => ?_⟩
  · intro os₁ os₂ d₁ d₂ t₁ t₂ b₁ b₂ p₁ p₂ hos ht₁ hb₁ ht₂ hb₂ hne hp₁ hstays hp₂ hemail
    have hinvariant := Registered.invariant project
    obtain ⟨hos₁, hrest⟩ := List.forall_mem_append.1 hos
    obtain ⟨⟨hd₁, t, ht, hid₁⟩, hrest⟩ := List.forall_mem_cons.1 hrest
    obtain rfl : t = t₁ := Value.text.inj (ht.symm.trans ht₁)
    obtain ⟨hos₂, hlast⟩ := List.forall_mem_append.1 hrest
    obtain ⟨hd₂, t', ht', hid₂⟩ := List.forall_mem_singleton.1 hlast
    obtain rfl : t' = t₂ := Value.text.inj (ht'.symm.trans ht₂)
    have hs₁ := hinvariant.after_runAll lifetime hos₁ hs
    rw [Operation.runAll_append] at hstays hp₂
    generalize Operation.runAll lifetime s os₁ = s₁ at hs₁ hstays hp₁ hp₂
    have hs₂ := hinvariant.after_provision lifetime hd₁ ht₁ hid₁ hs₁
    -- The account of the first provisioning is still the one under its name before the second.
    obtain ⟨a₁, ha₁, hemail₁, hname₁, hdesc₁⟩ := Provision.mem_of_success hp₁
    rw [hname₁] at hstays
    have hkept := hs₂.mem_runAll ha₁ lifetime hos₂ hstays
    have hs₃ := hinvariant.after_runAll lifetime hos₂ hs₂
    obtain ⟨a₂, ha₂, hemail₂, -, hdesc₂⟩ := Provision.mem_of_success hp₂
    have hs₄ := hinvariant.after_provision lifetime hd₂ ht₂ hid₂ hs₃
    -- Both accounts are there after the second provisioning, so one address means one description.
    rw [hemail₁, hemail₂] at hemail
    have hsame : a₁ = a₂ := List.inj_on_of_nodup_map hs₄.emails
      (Operation.accounts_provision lifetime d₂ _ hkept) ha₂ (Value.text.inj hemail)
    rw [ht₁, hb₁] at hdesc₁
    rw [ht₂, hb₂, ← hsame, hdesc₁] at hdesc₂
    obtain ⟨hprocess, hbucket⟩ := accountDescription_injective hid₁ hid₂ hdesc₂
    exact hne (Prod.ext hprocess hbucket)
  · obtain ⟨r, hcourse, hanswer⟩ := Provision.provision_course lifetime d t
    obtain ⟨⟨e, rfl⟩, huntouched⟩ := hcontested.stops hcourse
    exact ⟨fun o ho => Provision.not_succeeded_of_error (hanswer.symm.trans ho), huntouched⟩

/-- Two processes with one id: while the account of the first is there, the second gets none, and a
third gets an account with an address of its own. -/
theorem identities_unshared_collapsed :
    let s : Session := {
      cloud := { buckets := [⟨.text "b1", .text "EU", .null, [], []⟩] }
      vault := { kind := .environment } }
    let d (process : String) : Definition := {
      id := .text "b1", transferProcess := .text process, location := .text "EU"
      project := .text "p1" }
    let p (id process token : String) : Provisioned := {
      resource := Provision.record (d process) (Remote.newAccount (.text "p1") id
        (accountDescription (.text process) (.text "b1")))
      token := ⟨token, 1700000000000⟩ }
    let os : List Operation := [.event (.plan .listAccounts [none, some .stale])]
    let s₁ := Operation.runAll (.int 3600) s (os ++ [.provision (d "tp-1")])
    (provision (.int 3600) (d "tp-1") (Operation.runAll (.int 3600) s os)).1 =
        .ok (.success (p "edc-tp1" "tp-1" "issued-1")) ∧
      (provision (.int 3600) (d "tp-2") (Operation.runAll (.int 3600) s
        (os ++ .provision (d "tp-1") :: [.provision (d "tp1")]))).1 =
        .ok (.success (p "edc-tp2" "tp-2" "issued-2")) ∧
      (p "edc-tp1" "tp-1" "issued-1").resource.accountEmail ≠
        (p "edc-tp2" "tp-2" "issued-2").resource.accountEmail ∧
      Provision.Contested (d "tp1") s₁.cloud ∧
      ∀ o, (provision (.int 3600) (d "tp1") s₁).1 = .ok o → o.succeeded = false := by
  intro s d p os s₁
  have hs : Registered "p1" s.cloud := ⟨List.nodup_nil, fun a ha => absurd ha List.not_mem_nil⟩
  have hfor : ∀ o ∈ os ++ .provision (d "tp-1") :: ([.provision (d "tp1")] ++
      [.provision (d "tp-2")]), o.IsFor "p1" := by
    intro o ho
    simp only [os, List.cons_append, List.nil_append, List.mem_cons, List.not_mem_nil,
      or_false] at ho
    rcases ho with rfl | rfl | rfl | rfl
    · trivial
    · exact ⟨rfl, "tp-1", rfl, ⟨by decide, List.all_eq_true.1 (by decide)⟩⟩
    · exact ⟨rfl, "tp1", rfl, ⟨by decide, List.all_eq_true.1 (by decide)⟩⟩
    · exact ⟨rfl, "tp-2", rfl, ⟨by decide, List.all_eq_true.1 (by decide)⟩⟩
  have hfirst : (provision (.int 3600) (d "tp-1") (Operation.runAll (.int 3600) s os)).1 =
      .ok (.success (p "edc-tp1" "tp-1" "issued-1")) := by
    decide +kernel +zetaReduce
  have hthere : ∀ before ∈ [Operation.provision (d "tp1")].inits,
      ∃ a ∈ (Operation.runAll (.int 3600) s₁ before).cloud.accounts,
        .text a.name = (p "edc-tp1" "tp-1" "issued-1").resource.accountName := by
    decide +kernel +zetaReduce
  have hsecond : (provision (.int 3600) (d "tp-2") (Operation.runAll (.int 3600) s
      (os ++ .provision (d "tp-1") :: [.provision (d "tp1")]))).1 =
      .ok (.success (p "edc-tp2" "tp-2" "issued-2")) := by
    decide +kernel +zetaReduce
  have hcontested : Provision.Contested (d "tp1") s₁.cloud := by
    refine ⟨⟨"edc-tp1", Remote.newAccount (.text "p1") "edc-tp1"
      (accountDescription (.text "tp-1") (.text "b1")), ?_, ?_, ?_⟩, ?_⟩ <;>
      decide +kernel +zetaReduce
  obtain ⟨hdifferent, hrefused⟩ := identities_unshared "p1" (.int 3600) s hs
  refine ⟨hfirst, hsecond, ?_, hcontested, (hrefused s₁ _ hcontested).1⟩
  exact hdifferent os [.provision (d "tp1")] (d "tp-1") (d "tp-2") "tp-1" "tp-2" "b1" "b1" _ _
    hfor rfl rfl rfl rfl (by decide) hfirst
    (fun before h => hthere before ((List.mem_inits _ _).2 h)) hsecond

end TransferBucket
