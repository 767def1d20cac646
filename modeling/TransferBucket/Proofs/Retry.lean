import TransferBucket.Proofs.Settled

/-!
# Trying again

**Theorem (`provision_again`).** Suppose a provisioning would succeed where nothing goes wrong. Then
however often it is tried before, and whatever goes wrong at each try, it still succeeds where
nothing goes wrong, with the same record and the same cloud, the number of tokens apart.

The proof carries two facts from try to try. The cloud settles to the same
(`SettlesTo.after_course`), and the vault answers as before for the key of the definition
(`Address.credentials_sameAnswer`), so the same credentials are found again. Both together decide
the run where nothing goes wrong (`stages_of_settle`).
-/

namespace TransferBucket

open Session

namespace Provision

variable {d : Definition} {s t : Session} {lifetime : Value}

theorem settle_of_stages (hs : s.schedule = .none) {a : Account} {token : AccessToken}
    (h : stages lifetime d s = (.ok (a, token), t)) :
    (∃ cr, (d.address.credentials Source.defaultOrder s).1 = .ok cr) ∧
      (∃ n, Identity.lifetimeOf lifetime = .ok n) ∧ ∃ x, settle d s.cloud = some (a, x) ∧
        t.cloud = issued x := by
  have hfound := found_of_stages h
  obtain ⟨cr, s₀, hcred, h⟩ := Action.bind_eq_ok_iff.1 h
  obtain ⟨b, s₁, hbucket, h⟩ := Action.bind_eq_ok_iff.1 h
  obtain ⟨a', s₂, haccount, h⟩ := Action.bind_eq_ok_iff.1 h
  obtain ⟨_, s₃, hgrant, h⟩ := Action.bind_eq_ok_iff.1 h
  obtain ⟨token', s₄, htoken, h⟩ := Action.bind_eq_ok_iff.1 h
  cases h
  rw [after, Action.mapError_eq_ok_iff] at hcred hbucket haccount hgrant htoken
  have hcloud := credentials_cloud d s
  have hs₀ := (credentials_calls d s).schedule_none hs
  rw [hcred] at hcloud hs₀
  -- nothing comes to be planned, so every stage does to the cloud what it computes
  have hs₁ := (emptyBucket_computes cr d).schedule_of_run hs₀ hbucket
  have hs₂ := (account_computes cr d).schedule_of_run hs₁ haccount
  have hs₃ := (Storage.grant_computes _ _).schedule_of_run hs₂ hgrant
  have hready := (emptyBucket_computes cr d).some_of_run hs₀ hbucket
  rw [hcloud] at hready
  have hissued := (Identity.issueToken_computes cr lifetime a.email).some_of_run hs₃ htoken
  obtain ⟨n, hn⟩ : ∃ n, Identity.lifetimeOf lifetime = .ok n := by
    rcases hl : Identity.lifetimeOf lifetime with e | n
    · rw [Identity.tokenFor, hl] at hissued
      cases hissued
    · exact ⟨n, rfl⟩
  rw [Identity.tokenFor, hn] at hissued
  have hlast : t.cloud = issued s₃.cloud := (congrArg Prod.snd (Option.some.inj hissued)).symm
  exact ⟨hfound, ⟨n, hn⟩, s₃.cloud, settle_eq_some_iff.2
    ⟨b, s₁.cloud, s₂.cloud, hready, (account_computes cr d).some_of_run hs₁ haccount,
      (Storage.grant_computes _ _).some_of_run hs₂ hgrant⟩, hlast⟩

theorem stages_of_settle (hs : s.schedule = .none) {cr : Credentials}
    (hcred : (d.address.credentials Source.defaultOrder s).1 = .ok cr) {n : Int}
    (hlifetime : Identity.lifetimeOf lifetime = .ok n) {a : Account} {x : Cloud}
    (hx : settle d s.cloud = some (a, x)) :
    ∃ t, stages lifetime d s = (.ok (a, nextToken x), t) ∧ t.cloud = issued x := by
  obtain ⟨b, c₁, c₂, hb, ha, hg⟩ := settle_eq_some_iff.1 hx
  have hcloud := credentials_cloud d s
  have hs₀ := (credentials_calls d s).schedule_none hs
  obtain ⟨s₀, h₀⟩ := credentials_of_found hcred
  rw [h₀] at hcloud hs₀
  obtain ⟨s₁, h₁, rfl, hs₁⟩ := (emptyBucket_computes cr d).run_of_some hs₀ (hcloud.symm ▸ hb)
  obtain ⟨s₂, h₂, rfl, hs₂⟩ := (account_computes cr d).run_of_some hs₁ ha
  obtain ⟨s₃, h₃, rfl, hs₃⟩ := (Storage.grant_computes _ _).run_of_some hs₂ hg
  have htoken : Identity.tokenFor lifetime s₃.cloud =
      some (nextToken s₃.cloud, issued s₃.cloud) := by
    rw [Identity.tokenFor, hlifetime]
    rfl
  obtain ⟨s₄, h₄, hissued, -⟩ := (Identity.issueToken_computes cr lifetime a.email).run_of_some hs₃
    htoken
  refine ⟨s₄, ?_, hissued⟩
  rw [stages, Action.bind_of_ok (after_of_ok h₀), Action.bind_of_ok (after_of_ok h₁),
    Action.bind_of_ok (after_of_ok h₂), Action.bind_of_ok (after_of_ok h₃),
    Action.bind_of_ok (after_of_ok h₄)]
  rfl

end Provision

/-- A try: provisioning with some plans for its calls, whatever was planned before. -/
def Provision.attempt (lifetime : Value) (d : Definition) (s : Session) (plans : Schedule) :
    Session :=
  (provision lifetime d { s with schedule := plans }).2

namespace Provision

variable {d : Definition} {s t : Session} {lifetime : Value}

theorem provision_sameAnswer (lifetime : Value) (d : Definition) :
    (provision lifetime d).Along (d.address.SameAnswer Source.defaultOrder) :=
  provision_along (Address.SameAnswer.permits _ _ _) (Address.credentials_sameAnswer _ _)
    (fun _ _ => .of_eq rfl rfl rfl) (fun _ _ => .of_eq rfl rfl rfl)
    (fun _ _ hc => .of_eq rfl rfl hc) lifetime

theorem attempt_sameAnswer (lifetime : Value) (d : Definition) (s : Session) (plans : Schedule) :
    d.address.SameAnswer Source.defaultOrder s (attempt lifetime d s plans) := by
  have hplanned : d.address.SameAnswer Source.defaultOrder s { s with schedule := plans } :=
    .of_eq rfl rfl rfl
  exact (Address.SameAnswer.permits _ _ []).trans hplanned (provision_sameAnswer lifetime d _)

/-- After any number of tries the cloud settles to the same, and the vault answers as before. -/
theorem attempts_keep {a : Account} {x : Cloud} (hx : SettlesTo d a x s.cloud)
    (lifetime : Value) (plans : List Schedule) :
    SettlesTo d a x (plans.foldl (attempt lifetime d) s).cloud ∧
      d.address.SameAnswer Source.defaultOrder s (plans.foldl (attempt lifetime d) s) := by
  induction plans generalizing s with
  | nil => exact ⟨hx, (Address.SameAnswer.permits _ _ []).refl s⟩
  | cons p plans ih =>
    obtain ⟨r, hcourse, -⟩ := provision_course lifetime d { s with schedule := p }
    -- however the try ends, it is a course, and a course leads nowhere else
    have hnext : SettlesTo d a x (attempt lifetime d s p).cloud := hx.after_course hcourse
    obtain ⟨hsettles, hanswer⟩ := ih hnext
    exact ⟨hsettles, (Address.SameAnswer.permits _ _ []).trans (attempt_sameAnswer lifetime d s p)
      hanswer⟩

theorem credentials_again (h : d.address.SameAnswer Source.defaultOrder s t) :
    (d.address.credentials Source.defaultOrder).Again (opened d { s with schedule := .none })
      (opened d { t with schedule := .none }) := by
  have hpermits := Address.SameAnswer.permits d.address Source.defaultOrder []
  have hbefore : d.address.SameAnswer Source.defaultOrder
      (opened d { s with schedule := .none }) s := .of_eq rfl rfl rfl
  have hafter : d.address.SameAnswer Source.defaultOrder t
      (opened d { t with schedule := .none }) := .of_eq rfl rfl rfl
  exact Address.credentials_again (isFree_of_schedule_none rfl _)
    (hpermits.trans hbefore (hpermits.trans h hafter))

end Provision

/-- **Trying again.** -/
theorem provision_again (lifetime : Value) (d : Definition) (s t : Session) (p : Provisioned)
    (hnames : (s.cloud.accounts.map (·.name)).Nodup)
    (hdescribed : ∀ id, accountIdOf d.transferProcess = .ok id →
      ∀ a ∈ Remote.accountsOf d.project s.cloud,
        a.description = accountDescription d.transferProcess d.targetBucket →
        a.name = Remote.accountName d.project (Remote.accountEmail id d.project))
    (hcalm : provision lifetime d { s with schedule := .none } = (.ok (.success p), t))
    (plans : List Schedule) :
    ∃ p' t', provision lifetime d
        { plans.foldl (Provision.attempt lifetime d) s with schedule := .none } =
        (.ok (.success p'), t') ∧ p'.resource = p.resource ∧
      ∃ n, t'.cloud = { t.cloud with tokensIssued := n } := by
  obtain ⟨a, token, u, hstages, rfl, htu⟩ := Provision.stages_of_success hcalm
  obtain ⟨⟨cr, hcr⟩, ⟨n, hn⟩, x, hx, hu⟩ := Provision.settle_of_stages rfl hstages
  have hsettles : Provision.SettlesTo d a x s.cloud := ⟨⟨hnames, hdescribed⟩, x.tokensIssued, hx⟩
  obtain ⟨⟨-, m, hm⟩, hkept⟩ := Provision.attempts_keep hsettles lifetime plans
  generalize plans.foldl (Provision.attempt lifetime d) s = w at hm hkept
  have hcr' := Provision.credentials_again hkept cr hcr
  obtain ⟨t', hagain, ht'⟩ := Provision.stages_of_settle rfl hcr' hn hm
  obtain ⟨l, hrun⟩ := Provision.provision_apply lifetime d { w with schedule := .none }
  rw [hagain] at hrun
  refine ⟨_, _, hrun, rfl, m + 1, ?_⟩
  have hcloud : t'.cloud = { t.cloud with tokensIssued := m + 1 } := by
    rw [ht', htu, hu]
    rfl
  exact hcloud

/-- Three tries for a new bucket and an account that is there: the first stops at the list of
accounts, the second when the policy is stored, the third when the token is issued. -/
theorem provision_again_interrupted :
    let a := Remote.newAccount (.text "p1") (accountId "tp-1")
      (accountDescription (.text "tp-1") (.text "b1"))
    let s : Session := { cloud := { accounts := [a] }, vault := { kind := .environment } }
    let d : Definition := {
      id := .text "b1", transferProcess := .text "tp-1", location := .text "EU"
      project := .text "p1" }
    let f : Fault := ⟨.foreign .runtime, "stopped"⟩
    let plans : List Schedule := [
      Schedule.none.append .listAccounts [some (.raiseAfter 0 f)],
      Schedule.none.append .setPolicy [some (.raise f)],
      Schedule.none.append .issueToken [some (.raise f)]]
    ∃ p t p' t', provision (.int 3600) d { s with schedule := .none } = (.ok (.success p), t) ∧
      provision (.int 3600) d
        { plans.foldl (Provision.attempt (.int 3600) d) s with schedule := .none } =
        (.ok (.success p'), t') ∧ p'.resource = p.resource ∧
      ∃ n, t'.cloud = { t.cloud with tokensIssued := n } := by
  intro a s d f plans
  have hdescribed : ∀ id, accountIdOf d.transferProcess = .ok id →
      ∀ a' ∈ Remote.accountsOf d.project s.cloud,
        a'.description = accountDescription d.transferProcess d.targetBucket →
        a'.name = Remote.accountName d.project (Remote.accountEmail id d.project) := by
    intro id hid a' ha _
    obtain rfl : accountId "tp-1" = id := Except.ok.inj hid
    rw [List.mem_singleton.1 (Remote.mem_accountsOf.1 ha).1]
    rfl
  have hthere : a ∈ Remote.accountsOf d.project s.cloud := Remote.mem_accountsOf.2
    ⟨List.mem_singleton_self a, Remote.isPrefixOf_accountName (.text "p1") _⟩
  have hdistinct : Provision.Distinct d (s.cloud.addBucket (Provision.newBucket d)) :=
    ⟨List.nodup_singleton _, hdescribed⟩
  obtain ⟨x, hx⟩ : ∃ x, Provision.settle d s.cloud = some (a, x) :=
    ⟨_, Provision.settle_eq_some_iff.2 ⟨Provision.newBucket d, _, _, rfl,
      Provision.readyAccount_of_mem hdistinct rfl hthere rfl, rfl⟩⟩
  have hlifetime : Identity.lifetimeOf (.int 3600) = .ok 3600 := rfl
  obtain ⟨t, hstages, -⟩ := Provision.stages_of_settle
    (s := Provision.opened d { s with schedule := .none }) rfl rfl hlifetime hx
  obtain ⟨l, hcalm⟩ := Provision.provision_apply (.int 3600) d { s with schedule := .none }
  rw [hstages] at hcalm
  obtain ⟨p', t', hagain, hrecord, hcloud⟩ := provision_again (.int 3600) d s _ _
    (List.nodup_singleton _) hdescribed hcalm plans
  exact ⟨_, _, p', t', hcalm, hagain, hrecord, hcloud⟩

end TransferBucket
