import TransferBucket.Proofs.Sources
import TransferBucket.Proofs.Buckets
import TransferBucket.Proofs.Accounts

/-!
# The course of a provisioning

**The course** (`Provision.Course`). What the five stages do to the cloud, as a relation between
the cloud before them, how they end, and the cloud after them. Each stage has at most one effect:
a bucket is made, an account is made, the policy of the bucket takes the account in, a token is
issued. A course that ends early has the effects of the stages before, and of the stage that
failed at most its one effect. Every run of the stages is a course (`stages_course`), whatever the
schedule plans.

**What a course keeps.** A property of clouds that the four effects keep is kept by every course
(`Course.keeps`), hence by every provisioning (`provision_course`).

**Journals and the rest.** A relation that permits all calls, and all changes of the cloud that
leave the secrets alone, is kept by every provisioning that searches its credentials along it
(`provision_along`).
-/

namespace TransferBucket

open Session

namespace Provision

/-! ## Courses -/

/-- The bucket of a definition is ready: it was there, or it was made. -/
structure BucketReady (d : Definition) (c c' : Cloud) (b : Bucket) : Prop where
  made : c' = c ∨ BucketMade d c c'
  there : c'.bucket? d.targetBucket = some b

/-- The account of a definition is ready too: it was there, or it was made. -/
structure IdentityReady (d : Definition) (c c' : Cloud) (b : Bucket) (a : Account) : Prop where
  ready : ∃ c₁, BucketReady d c c₁ b ∧ (c' = c₁ ∨ AccountMade d c₁ c')
  there : a ∈ Remote.accountsOf d.project c'
  describes : a.description = description d

/-- The policy of the bucket of a definition takes an account in. -/
def Granted (d : Definition) (b : Bucket) (a : Account) (c c' : Cloud) : Prop :=
  ∃ gs, Policy.grant (Policy.member a.email) b.bindings = .ok gs ∧
    c' = c.setBindings d.targetBucket gs

/-- One more token is issued. -/
def issued (c : Cloud) : Cloud := { c with tokensIssued := c.tokensIssued + 1 }

/-- The token that is issued next. -/
def nextToken (c : Cloud) : AccessToken :=
  ⟨s!"issued-{c.tokensIssued + 1}", AccessToken.expirationAt c.tokenEnd⟩

/-- What the stages of a provisioning do to the cloud, by how they end. -/
inductive Course (d : Definition) (c : Cloud) :
    Except (Stage × Failure) (Account × AccessToken) → Cloud → Prop where
  | credentials (e : Failure) : Course d c (.error (.requested, e)) c
  | bucket (e : Failure) {c₁ : Cloud} (made : c₁ = c ∨ BucketMade d c c₁) :
      Course d c (.error (.credentialsResolved, e)) c₁
  | account (e : Failure) {c₁ c₂ : Cloud} {b : Bucket} (ready : BucketReady d c c₁ b)
      (made : c₂ = c₁ ∨ AccountMade d c₁ c₂) : Course d c (.error (.bucketReady, e)) c₂
  | grant (e : Failure) {c₂ : Cloud} {b : Bucket} {a : Account} (ready : IdentityReady d c c₂ b a) :
      Course d c (.error (.identityReady, e)) c₂
  | token (e : Failure) {c₂ c₃ : Cloud} {b : Bucket} {a : Account}
      (ready : IdentityReady d c c₂ b a) (granted : Granted d b a c₂ c₃) :
      Course d c (.error (.permissionGranted, e)) c₃
  | done {c₂ c₃ : Cloud} {b : Bucket} {a : Account} (ready : IdentityReady d c c₂ b a)
      (granted : Granted d b a c₂ c₃) : Course d c (.ok (a, nextToken c₃)) (issued c₃)

theorem IdentityReady.bucket? {d : Definition} {c c' : Cloud} {b : Bucket} {a : Account}
    (h : IdentityReady d c c' b a) : c'.bucket? d.targetBucket = some b := by
  obtain ⟨c₁, hready, rfl | ⟨id, -, -, rfl⟩⟩ := h.ready
  · exact hready.there
  · exact hready.there

/-! ## Runs are courses -/

section Stage

variable {α : Type} {stage : Stage} {x : Action Session Failure α} {s t : Session}

theorem after_of_error {e : Failure} (h : x s = (.error e, t)) :
    after stage x s = (.error (stage, e), t) := by
  rw [after, Action.mapError_apply, h]
  rfl

theorem after_of_ok {a : α} (h : x s = (.ok a, t)) : after stage x s = (.ok a, t) :=
  Action.mapError_eq_ok_iff.2 h

end Stage

theorem credentials_along {R : Session → Session → Prop} {ms : List Method} (h : Permits R ms)
    {d : Definition} (hcred : (d.address.credentials Source.defaultOrder).Along R) :
    (credentials d).Along R :=
  h.bind hcred fun _ => h.bind (h.debug _) fun _ => h.pure _

theorem credentials_cloud (d : Definition) :
    (credentials d).Along fun s t => t.cloud = s.cloud :=
  credentials_along (Permits.cloud []) (Address.credentials_cloud _ _)

theorem credentials_calls (d : Definition) : (credentials d).Along (Calls Source.methods) :=
  credentials_along (Calls.permits _) (Address.credentials_calls _ _)

theorem credentials_of_found {d : Definition} {s : Session} {cr : Credentials}
    (h : (d.address.credentials Source.defaultOrder s).1 = .ok cr) :
    ∃ t, credentials d s = (.ok cr, t) := by
  rcases hx : d.address.credentials Source.defaultOrder s with ⟨r, t⟩
  rw [hx] at h
  obtain rfl : r = .ok cr := h
  exact ⟨_, Action.bind_of_ok hx⟩

theorem bucketReady_of_run {cr : Credentials} {d : Definition} {s t : Session} {b : Bucket}
    (h : emptyBucket cr d s = (.ok b, t)) : BucketReady d s.cloud t.cloud b := by
  have hmade := emptyBucket_bucketMade cr d s
  rw [h] at hmade
  exact ⟨hmade, bucket?_of_emptyBucket h⟩

theorem identityReady_of_runs {cr : Credentials} {d : Definition} {s t u : Session} {b : Bucket}
    {a : Account} (hb : emptyBucket cr d s = (.ok b, t)) (ha : account cr d t = (.ok a, u)) :
    IdentityReady d s.cloud u.cloud b a := by
  have hmade := account_accountMade cr d t
  rw [ha] at hmade
  obtain ⟨hthere, hdescribes⟩ := mem_of_account ha
  exact ⟨⟨t.cloud, bucketReady_of_run hb, hmade⟩, hthere, hdescribes⟩

/-- **Every run of the stages is a course.** -/
theorem stages_course (lifetime : Value) (d : Definition) (s : Session) :
    Course d s.cloud (stages lifetime d s).1 (stages lifetime d s).2.cloud := by
  have hcredentials := credentials_cloud d s
  rcases hx : credentials d s with ⟨e | cr, s₀⟩ <;> rw [hx] at hcredentials
  · rw [stages, Action.bind_of_error (after_of_error hx), hcredentials]
    exact .credentials e
  rw [stages, Action.bind_of_ok (after_of_ok hx), ← hcredentials]
  have hbucket := emptyBucket_bucketMade cr d s₀
  rcases hb : emptyBucket cr d s₀ with ⟨e | b, s₁⟩ <;> rw [hb] at hbucket
  · rw [Action.bind_of_error (after_of_error hb)]
    exact .bucket e hbucket
  rw [Action.bind_of_ok (after_of_ok hb)]
  have haccount := account_accountMade cr d s₁
  rcases ha : account cr d s₁ with ⟨e | a, s₂⟩ <;> rw [ha] at haccount
  · rw [Action.bind_of_error (after_of_error ha)]
    exact .account e (bucketReady_of_run hb) haccount
  rw [Action.bind_of_ok (after_of_ok ha)]
  have hidentity := identityReady_of_runs hb ha
  have hname : b.name = d.targetBucket := Cloud.name_of_bucket? hidentity.bucket?
  rcases Storage.grant_ending b.name a.email s₂ with ⟨e, s₃, hg, hsame⟩ | ⟨gs, s₃, hgs, hg, hset⟩
  · rw [Action.bind_of_error (after_of_error hg), hsame]
    exact .grant e hidentity
  rw [Action.bind_of_ok (after_of_ok hg)]
  rw [hname, hidentity.bucket?] at hgs
  rw [hname] at hset
  have hgranted : Granted d b a s₂.cloud s₃.cloud := ⟨gs, hgs, hset⟩
  rcases Identity.issueToken_ending cr lifetime a.email s₃ with ⟨e, s₄, ht, hsame⟩ | ⟨s₄, ht, hnext⟩
  · rw [Action.bind_of_error (after_of_error ht), hsame]
    exact .token e hidentity hgranted
  · rw [Action.bind_of_ok (after_of_ok ht)]
    have hdone := Course.done hidentity hgranted
    rw [issued, ← hnext] at hdone
    exact hdone

/-! ## What a course keeps -/

/-- **What the effects keep, a course keeps.** -/
theorem Course.keeps {P : Cloud → Prop} {d : Definition}
    (hbucket : ∀ {c c'}, BucketMade d c c' → P c → P c')
    (haccount : ∀ {c c'}, AccountMade d c c' → P c → P c')
    (hgrant : ∀ {c c' b a}, c.bucket? d.targetBucket = some b →
      a ∈ Remote.accountsOf d.project c → a.description = description d →
      Granted d b a c c' → P c → P c')
    (htoken : ∀ {c}, P c → P (issued c)) {c c' : Cloud}
    {r : Except (Stage × Failure) (Account × AccessToken)} (h : Course d c r c') (hc : P c) :
    P c' := by
  have hmade : ∀ {c₁}, c₁ = c ∨ BucketMade d c c₁ → P c₁ := fun h =>
    h.elim (fun h => h ▸ hc) fun h => hbucket h hc
  have hready : ∀ {c₁ c₂}, (c₁ = c ∨ BucketMade d c c₁) → (c₂ = c₁ ∨ AccountMade d c₁ c₂) → P c₂ :=
    fun h₁ h₂ => h₂.elim (fun h => h ▸ hmade h₁) fun h => haccount h (hmade h₁)
  have hidentity : ∀ {c₂ b a}, IdentityReady d c c₂ b a → P c₂ := fun h => by
    obtain ⟨c₁, h₁, h₂⟩ := h.ready
    exact hready h₁.made h₂
  have hgranted : ∀ {c₂ c₃ b a}, IdentityReady d c c₂ b a → Granted d b a c₂ c₃ → P c₃ :=
    fun h hg => hgrant h.bucket? h.there h.describes hg (hidentity h)
  cases h with
  | credentials e => exact hc
  | bucket e made => exact hmade made
  | account e ready made => exact hready ready.made made
  | grant e ready => exact hidentity ready
  | token e ready granted => exact hgranted ready granted
  | done ready granted => exact htoken (hgranted ready granted)

/-! ## Provisioning -/

/-- The session in which the stages of a provisioning begin. -/
def opened (d : Definition) (s : Session) : Session :=
  { s with
    links := {}
    log := s.log ++
      [⟨.debug, s!"GCS bucket request submitted: {d.targetBucket.display} ({d.id.display})"⟩] }

/-- What a provisioning answers to the end of its stages. -/
def answer (d : Definition) :
    Except (Stage × Failure) (Account × AccessToken) → Except Failure (Outcome Provisioned)
  | .ok (a, token) => .ok (.success ⟨record d a, token⟩)
  | .error (_, e) =>
    if e.isReported then .ok (.failure .fatalError [.text e.message]) else .error e

/-- A stage that fails answers no success. -/
theorem not_succeeded_of_error {d : Definition} {e : Stage × Failure} {o : Outcome Provisioned}
    (h : answer d (.error e) = .ok o) : o.succeeded = false := by
  obtain ⟨stage, e⟩ := e
  dsimp only [answer] at h
  split at h <;> cases h
  rfl

/-- What a provisioning logs after its stages. -/
def closing (d : Definition) : Except (Stage × Failure) (Account × AccessToken) → List LogRecord
  | .ok _ => [⟨.info, s!"Provisioned bucket {d.targetBucket.display} for transfer process {d.transferProcess.display}"⟩]
  | .error (stage, e) =>
    if e.isReported then
      [⟨.error, s!"Provisioning of {d.id.display} failed after {stage.name}: {e.message}"⟩]
    else []

/-- A provisioning is its stages; after them it only answers and logs. -/
theorem provision_eq (lifetime : Value) (d : Definition) (s : Session) :
    provision lifetime d s = (answer d (stages lifetime d (opened d s)).1,
      { (stages lifetime d (opened d s)).2 with
        log := (stages lifetime d (opened d s)).2.log ++
          closing d (stages lifetime d (opened d s)).1 }) := by
  rw [provision, Action.bind_of_ok (x := closeLinks) rfl,
    Action.bind_of_ok (x := debug _) (t := opened d s) rfl, Action.resume_apply]
  rcases stages lifetime d (opened d s) with ⟨⟨stage, e⟩ | ⟨a, token⟩, t⟩
  · dsimp only [answer, closing]
    split
    · rfl
    · rw [List.append_nil]
      rfl
  · rfl

theorem provision_apply (lifetime : Value) (d : Definition) (s : Session) :
    ∃ l, provision lifetime d s = (answer d (stages lifetime d (opened d s)).1,
      { (stages lifetime d (opened d s)).2 with log := l }) :=
  ⟨_, provision_eq lifetime d s⟩

/-- A provisioning that succeeds has run all its stages. -/
theorem stages_of_success {lifetime : Value} {d : Definition} {s t : Session} {p : Provisioned}
    (h : provision lifetime d s = (.ok (.success p), t)) :
    ∃ a token u, stages lifetime d (opened d s) = (.ok (a, token), u) ∧ p = ⟨record d a, token⟩ ∧
      t.cloud = u.cloud := by
  obtain ⟨l, hrun⟩ := provision_apply lifetime d s
  rw [hrun] at h
  obtain ⟨hanswer, rfl⟩ := Prod.mk.inj h
  rcases hstages : stages lifetime d (opened d s) with ⟨e | ⟨a, token⟩, u⟩ <;>
    rw [hstages] at hanswer
  · have hfalse : true = false := not_succeeded_of_error hanswer
    cases hfalse
  · cases hanswer
    exact ⟨a, token, u, rfl, rfl, rfl⟩

theorem found_of_stages {lifetime : Value} {d : Definition} {s t : Session}
    {r : Account × AccessToken} (h : stages lifetime d s = (.ok r, t)) :
    ∃ cr, (d.address.credentials Source.defaultOrder s).1 = .ok cr := by
  obtain ⟨cr, s₀, hcred, -⟩ := Action.bind_eq_ok_iff.1 h
  rw [after, Action.mapError_eq_ok_iff] at hcred
  obtain ⟨cr', u, hfound, -⟩ := Action.bind_eq_ok_iff.1 hcred
  exact ⟨cr', congrArg Prod.fst hfound⟩

theorem provision_course (lifetime : Value) (d : Definition) (s : Session) :
    ∃ r, Course d s.cloud r (provision lifetime d s).2.cloud ∧
      (provision lifetime d s).1 = answer d r := by
  obtain ⟨l, h⟩ := provision_apply lifetime d s
  rw [h]
  exact ⟨_, stages_course lifetime d (opened d s), rfl⟩

/-- What a success hands over is the record of an account of the project, which has the description
of the definition. -/
theorem account_of_success {lifetime : Value} {d : Definition} {s t : Session} {p : Provisioned}
    (h : provision lifetime d s = (.ok (.success p), t)) :
    ∃ a ∈ Remote.accountsOf d.project t.cloud, a.description = description d ∧
      p.resource = record d a := by
  obtain ⟨a, token, u, hstages, rfl, htu⟩ := stages_of_success h
  have hcourse := stages_course lifetime d (opened d s)
  rw [hstages] at hcourse
  rw [htu]
  generalize u.cloud = c' at hcourse
  cases hcourse with
  | done ready granted =>
    obtain ⟨gs, -, hset⟩ := granted
    refine ⟨a, ?_, ready.describes, rfl⟩
    rw [hset]
    exact ready.there

/-! ## Along a relation -/

/-- The methods called by a provisioning. -/
def methods : List Method :=
  Source.methods ++ Storage.methods ++ Identity.methods ++
    [.getPolicy, .setPolicy, .openIssuer, .issueToken]

section Along

variable {R : Session → Session → Prop} {d : Definition}

/-- The stages are along every relation that permits their calls and all changes of links and
cloud, the secrets apart, if the search for credentials is. -/
theorem stages_along (h : Permits R methods)
    (hcred : (d.address.credentials Source.defaultOrder).Along R)
    (hl : ∀ s l, R s { s with links := l })
    (hc : ∀ s c, c.secrets = s.cloud.secrets → R s { s with cloud := c }) (lifetime : Value) :
    (stages lifetime d).Along R := by
  refine h.bind ((credentials_along h hcred).mapError _) fun cr => ?_
  refine h.bind (Action.Along.mapError ?_ _) fun b => ?_
  · exact emptyBucket_along (h.mono (by decide)) hl (fun s _ => hc s _ rfl) cr
  refine h.bind (Action.Along.mapError ?_ _) fun a => ?_
  · exact account_along (h.mono (by decide)) hl (fun s _ _ _ => hc s _ rfl) cr
  refine h.bind (Action.Along.mapError ?_ _) fun _ => ?_
  · exact Storage.grant_along h (by decide) (by decide) fun s _ _ => hc s _ rfl
  refine h.bind (Action.Along.mapError ?_ _) fun token => h.pure _
  exact Identity.issueToken_along h (by decide) (by decide) hl (fun s => hc s _ rfl) cr _ _

/-- A provisioning is along every relation that its stages are along, if the log does not matter. -/
theorem provision_along (h : Permits R methods)
    (hcred : (d.address.credentials Source.defaultOrder).Along R)
    (hlog : ∀ s l, R s { s with log := l }) (hl : ∀ s l, R s { s with links := l })
    (hc : ∀ s c, c.secrets = s.cloud.secrets → R s { s with cloud := c }) (lifetime : Value) :
    (provision lifetime d).Along R := by
  intro s
  obtain ⟨l, hl'⟩ := provision_apply lifetime d s
  rw [hl']
  have hopened : R s (opened d s) := h.trans (hl s {}) (hlog _ _)
  exact h.trans hopened (h.trans (stages_along h hcred hl hc lifetime (opened d s)) (hlog _ l))

end Along

/-- The stages log no error; one is logged after them, if it is reported. -/
theorem stages_quiet (lifetime : Value) (d : Definition) : (stages lifetime d).Along Quiet :=
  stages_along (Quiet.permits _) (Address.credentials_quiet _ _) (fun _ _ => .of_eq rfl)
    (fun _ _ _ => .of_eq rfl) lifetime

theorem opened_quiet (d : Definition) (s : Session) : Quiet s (opened d s) :=
  ⟨_, rfl, by simp⟩

end Provision

/-! ## Giving up -/

namespace Deprovision

/-- The session in which giving up begins. -/
def opened (r : Resource) (s : Session) : Session :=
  { s with
    links := {}
    log := s.log ++ [⟨.debug, s!"Deprovisioning {r.id.display}: deleting {r.accountEmail.display}"⟩] }

/-- The work of giving up: credentials are found, and the account is deleted. -/
def removal (r : Resource) : Action Session Failure Unit := do
  let c ← r.address.credentials Source.defaultOrder
  Identity.delete c r.project r.accountEmail r.accountName

/-- What giving up answers to the end of its work. -/
def answer (r : Resource) : Except Failure Unit → Except Failure (Outcome Deprovisioned)
  | .ok () => .ok (.success ⟨r.id⟩)
  | .error e =>
    if e.isReported then
      .ok (.failure .fatalError [.text s!"Deprovision failed with: {e.message}"])
    else .error e

/-- What giving up logs after its work. -/
def closing (r : Resource) : Except Failure Unit → List LogRecord
  | .ok () => [⟨.info, s!"Deprovisioned {r.id.display}; bucket {r.bucketName.display} is kept"⟩]
  | .error e =>
    if e.isReported then [⟨.error, s!"Deprovisioning of {r.id.display} failed: {e.message}"⟩]
    else []

/-- Giving up is its work; after it, it only answers and logs. -/
theorem deprovision_eq (r : Resource) (s : Session) :
    deprovision r s = (answer r (removal r (opened r s)).1,
      { (removal r (opened r s)).2 with
        log := (removal r (opened r s)).2.log ++ closing r (removal r (opened r s)).1 }) := by
  rw [deprovision, Action.bind_of_ok (x := Provision.closeLinks) rfl,
    Action.bind_of_ok (x := debug _) (t := opened r s) rfl, Action.resume_apply, ← removal]
  rcases removal r (opened r s) with ⟨e | u, t⟩
  · dsimp only [answer, closing]
    split
    · rfl
    · rw [List.append_nil]
      rfl
  · rfl

/-- The methods called to give up. -/
def methods : List Method := Source.methods ++ [.openIdentity, .deleteAccount]

variable {R : Session → Session → Prop}

/-- The work of giving up is along every relation that permits its calls and that accounts with a
name are taken away, if the search for credentials is. -/
theorem removal_along (h : Permits R methods) {r : Resource}
    (hcred : (r.address.credentials Source.defaultOrder).Along R)
    (hl : ∀ s l, R s { s with links := l })
    (hd : ∀ s n, R s { s with cloud := s.cloud.dropAccount n }) : (removal r).Along R :=
  h.bind hcred fun cr => Identity.delete_along h (by decide) (by decide) hl hd cr _ _ _

theorem removal_quiet (r : Resource) : (removal r).Along Quiet :=
  removal_along (Quiet.permits _) (Address.credentials_quiet _ _) (fun _ _ => .of_eq rfl)
    fun _ _ => .of_eq rfl

theorem opened_quiet (r : Resource) (s : Session) : Quiet s (opened r s) :=
  ⟨_, rfl, by simp⟩

end Deprovision

/-- Giving up is along every relation that its work is along, if the log does not matter. -/
theorem deprovision_along {R : Session → Session → Prop} (h : Permits R Deprovision.methods)
    {r : Resource} (hcred : (r.address.credentials Source.defaultOrder).Along R)
    (hlog : ∀ s l, R s { s with log := l }) (hl : ∀ s l, R s { s with links := l })
    (hd : ∀ s n, R s { s with cloud := s.cloud.dropAccount n }) : (deprovision r).Along R := by
  intro s
  rw [Deprovision.deprovision_eq]
  have hopened : R s (Deprovision.opened r s) := h.trans (hl s {}) (hlog _ _)
  exact h.trans hopened (h.trans (Deprovision.removal_along h hcred hl hd _) (hlog _ _))

end TransferBucket
