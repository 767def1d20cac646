import TransferBucket.Proofs.Retry

/-!
# Giving up undoes provisioning

**Theorem (`deprovision_undoes`).** Giving up takes away the account that the record names, and
nothing else; if it ends in a failure, it takes away nothing. Giving up again changes nothing more.
Where nothing goes wrong, giving up what a provisioning made brings the accounts back as they were,
and the next provisioning gives the same record again.

An account that is not there is no error, so a fault that only says so would pass for a deletion.
The first two parts assume that none is planned for the calls that take the account away
(`Session.IsTruthful`).

*One run.* How giving up ends is read off the two calls it makes after the credentials are found
(`Identity.delete_ending`). *Two runs.* The credentials that were found once are found again
(`Address.credentials_again`), and taking the same account away twice is taking it away once
(`Cloud.without_without`). *There and back.* The cloud before a provisioning and the cloud after
giving up have the same accounts, so what was made once is made again; the bucket is there and
empty, and its policy takes the member in again (`Provision.settle_undone`).
-/

namespace TransferBucket

open Session

/-! ## Without an account -/

namespace Cloud

/-- A cloud without the accounts under a name; what is no text is the name of none. -/
def without (c : Cloud) (name : Value) : Cloud :=
  { c with accounts := c.accounts.filter fun a => Value.text a.name ≠ name }

variable {c : Cloud} {name : Value} {a : Account}

theorem without_of_some (h : name.text?.bind c.account? = some a) :
    c.without name = c.dropAccount a.name := by
  obtain ⟨n, hn, ha⟩ := Option.bind_eq_some_iff.1 h
  rw [Value.eq_text_of_text? hn, name_of_account? ha]
  simp only [without, dropAccount, ne_eq, Value.text.injEq]

theorem without_of_none (h : name.text?.bind c.account? = none) : c.without name = c := by
  have hall : ∀ a ∈ c.accounts, Value.text a.name ≠ name := by
    rintro a ha rfl
    exact account?_eq_none_iff.1 h a ha rfl
  have hkept : (c.accounts.filter fun a => Value.text a.name ≠ name) = c.accounts :=
    List.filter_eq_self.2 fun a ha => decide_eq_true (hall a ha)
  rw [without, hkept]

theorem without_without (c : Cloud) (name : Value) :
    (c.without name).without name = c.without name := by
  simp only [without, List.filter_filter, Bool.and_self]

theorem accounts_without_added {c' : Cloud} (h : c.account? a.name = none)
    (hadded : c'.accounts = c.accounts ++ [a]) :
    (c'.without (.text a.name)).accounts = c.accounts := by
  simpa [without, hadded, List.filter_append] using account?_eq_none_iff.1 h

end Cloud

/-! ## Deleting -/

namespace Identity

/-- The methods called to delete an account. -/
def deleteMethods : List Method := [.openIdentity, .deleteAccount]

/-- The two calls that delete an account end in a fault that was planned for one of them, and all is
as it was; or the account is gone, and if they do not end well, it was not there. -/
theorem deletion_ending (cr : Credentials) (name : Value) (s : Session) :
    (∃ f t, (do Remote.openIdentity cr; Remote.deleteAccount name : Remote Unit) s = (.error f, t) ∧
      t.cloud = s.cloud ∧ ∃ m ∈ deleteMethods, s.fault? m = some f) ∨
    ∃ r t, (do Remote.openIdentity cr; Remote.deleteAccount name : Remote Unit) s = (r, t) ∧
      t.cloud = s.cloud.without name ∧ ∀ f, r = .error f → f.isNotFound := by
  have hopened : (∃ f t, Remote.openIdentity cr s = (.error f, t) ∧ t.cloud = s.cloud ∧
      s.fault? .openIdentity = some f) ∨ ∃ t, Remote.openIdentity cr s = (.ok (), t) ∧
        t.cloud = s.cloud ∧ t.fault? .deleteAccount = s.fault? .deleteAccount := by
    rw [Remote.openIdentity_apply]
    split
    · exact Or.inr ⟨s, rfl, rfl, rfl⟩
    · rcases s.fault? .openIdentity with _ | f
      · exact Or.inr ⟨_, rfl, rfl, rfl⟩
      · exact Or.inl ⟨f, _, rfl, rfl, rfl⟩
  rcases hopened with ⟨f, t, hopen, hsame, hf⟩ | ⟨t, hopen, hsame, hkept⟩
  · exact Or.inl ⟨f, t, Action.bind_of_error hopen, hsame, .openIdentity, by decide, hf⟩
  · rw [Action.bind_of_ok hopen, Remote.deleteAccount_apply, hkept, hsame]
    rcases hf : s.fault? .deleteAccount with _ | f
    · refine Or.inr ?_
      rcases ha : name.text?.bind s.cloud.account? with _ | a
      · refine ⟨_, _, rfl, hsame.trans (Cloud.without_of_none ha).symm, ?_⟩
        rintro f ⟨⟩
        rfl
      · exact ⟨_, _, rfl, (Cloud.without_of_some ha).symm, nofun⟩
    · exact Or.inl ⟨f, _, rfl, hsame, .deleteAccount, by decide, hf⟩

end Identity

/-- No fault that says that something is not there is planned for the next calls of the methods
that delete an account. -/
def Session.IsTruthful (s : Session) : Prop :=
  ∀ m ∈ Identity.deleteMethods, ∀ f, s.fault? m = some f → f.isNotFound = false

theorem Session.isTruthful_of_schedule_none {s : Session} (h : s.schedule = .none) :
    s.IsTruthful := fun m _ _ hf => nomatch hf.symm.trans (fault?_of_schedule_none h m)

theorem Identity.delete_ending (cr : Credentials) (project email name : Value) {s : Session}
    (hs : s.IsTruthful) :
    (∃ t, delete cr project email name s = (.ok (), t) ∧
      t.cloud = s.cloud.without (fullName project email name)) ∨
    ∃ e t, delete cr project email name s = (.error e, t) ∧ t.cloud = s.cloud ∧
      ∃ m ∈ deleteMethods, s.fault? m ≠ none := by
  rcases deletion_ending cr (fullName project email name) s with
    ⟨f, t, hrun, hsame, m, hm, hf⟩ | ⟨r, t, hrun, hgone, habsent⟩
  · have hplanned : s.fault? m ≠ none := by
      rw [hf]
      nofun
    refine Or.inr ⟨reported (.accountNotDeleted email) f, t, ?_, hsame, m, hm, hplanned⟩
    rw [delete, Action.resume_apply, hrun]
    dsimp only
    rw [if_neg (by simp [hs m hm f hf])]
    rfl
  · refine Or.inl ?_
    rw [delete, Action.resume_apply, hrun]
    rcases r with f | _
    · dsimp only
      rw [if_pos (habsent f rfl)]
      exact ⟨_, rfl, hgone⟩
    · exact ⟨_, rfl, hgone⟩

/-! ## Giving up -/

namespace Deprovision

variable {r : Resource} {s t : Session}

/-- The full name of the account that a record names. -/
def target (r : Resource) : Value := Identity.fullName r.project r.accountEmail r.accountName

/-- What giving up does to the cloud, by what it answers: the account of the record is gone, or
everything is as it was. -/
inductive Effect (r : Resource) (c : Cloud) :
    Except Failure (Outcome Deprovisioned) → Cloud → Prop where
  | gone : Effect r c (.ok (.success ⟨r.id⟩)) (c.without (target r))
  | failed (messages : List Value) : Effect r c (.ok (.failure .fatalError messages)) c
  | raised (e : Failure) : Effect r c (.error e) c

theorem Effect.of_success {c c' : Cloud} {x : Deprovisioned}
    (h : Effect r c (.ok (.success x)) c') : x = ⟨r.id⟩ ∧ c' = c.without (target r) := by
  cases h
  exact ⟨rfl, rfl⟩

theorem removal_ending (r : Resource) (hs : s.IsTruthful) :
    (∃ t, removal r s = (.ok (), t) ∧ t.cloud = s.cloud.without (target r)) ∨
    ∃ e t, removal r s = (.error e, t) ∧ t.cloud = s.cloud := by
  have hcloud := Address.credentials_cloud Source.defaultOrder r.address s
  have hcalls := Address.credentials_calls Source.defaultOrder r.address s
  rcases hcred : r.address.credentials Source.defaultOrder s with ⟨e | cr, u⟩ <;>
    rw [hcred] at hcloud hcalls
  · exact Or.inr ⟨e, u, Action.bind_of_error hcred, hcloud⟩
  · have hother : ∀ m ∈ Identity.deleteMethods, m ∉ Source.methods := by decide
    have hu : u.IsTruthful := fun m hm f hf =>
      hs m hm f ((hcalls.fault?_eq (hother m hm)).symm.trans hf)
    rw [removal, Action.bind_of_ok hcred]
    rcases Identity.delete_ending cr r.project r.accountEmail r.accountName hu with
      ⟨t, hrun, hgone⟩ | ⟨e, t, hrun, hsame, -⟩
    · exact Or.inl ⟨t, hrun, hgone.trans (congrArg (Cloud.without · _) hcloud)⟩
    · exact Or.inr ⟨e, t, hrun, hsame.trans hcloud⟩

/-- **One run.** -/
theorem effect_of_truthful (r : Resource) (hs : s.IsTruthful) :
    Effect r s.cloud (deprovision r s).1 (deprovision r s).2.cloud := by
  rw [deprovision_eq]
  have hopened : (opened r s).IsTruthful := hs
  rcases removal_ending r hopened with ⟨t, hrun, hgone⟩ | ⟨e, t, hrun, hsame⟩
  · rw [hrun]
    dsimp only
    rw [hgone]
    exact .gone
  · rw [hrun]
    dsimp only [answer]
    rw [hsame]
    split
    · exact .failed _
    · exact .raised e

theorem credentials_of_success {x : Deprovisioned} (h : deprovision r s = (.ok (.success x), t)) :
    ∃ cr, (r.address.credentials Source.defaultOrder (opened r s)).1 = .ok cr := by
  rw [deprovision_eq] at h
  rcases hrun : removal r (opened r s) with ⟨e | _, u⟩ <;> rw [hrun] at h
  · dsimp only [answer] at h
    split at h <;> cases h
  · obtain ⟨cr, v, hcred, -⟩ := Action.bind_eq_ok_iff.1 hrun
    exact ⟨cr, by rw [hcred]⟩

theorem deprovision_sameAnswer (r : Resource) :
    (deprovision r).Along (r.address.SameAnswer Source.defaultOrder) :=
  deprovision_along (Address.SameAnswer.permits _ _ _) (Address.credentials_sameAnswer _ _)
    (fun _ _ => .of_eq rfl rfl rfl) (fun _ _ => .of_eq rfl rfl rfl) fun _ _ => .of_eq rfl rfl rfl

theorem deprovision_of_found {cr : Credentials}
    (hcred : (r.address.credentials Source.defaultOrder s).1 = .ok cr)
    (h : r.address.SameAnswer Source.defaultOrder s t) :
    ∃ u, deprovision r { t with schedule := .none } = (.ok (.success ⟨r.id⟩), u) ∧
      u.cloud = t.cloud.without (target r) := by
  have hopened : r.address.SameAnswer Source.defaultOrder t
      (opened r { t with schedule := .none }) := .of_eq rfl rfl rfl
  have hagain := Address.credentials_again (isFree_of_schedule_none rfl _)
    ((Address.SameAnswer.permits _ _ []).trans h hopened) cr hcred
  have hcloud := Address.credentials_cloud Source.defaultOrder r.address
    (opened r { t with schedule := .none })
  have hplan := (Address.credentials_calls Source.defaultOrder r.address
    (opened r { t with schedule := .none })).schedule_none rfl
  rcases hfound : r.address.credentials Source.defaultOrder (opened r { t with schedule := .none })
    with ⟨c, v⟩
  rw [hfound] at hagain hcloud hplan
  obtain rfl : c = .ok cr := hagain
  rcases Identity.delete_ending cr r.project r.accountEmail r.accountName
    (isTruthful_of_schedule_none hplan) with ⟨u, hrun, hgone⟩ | ⟨e, u, -, -, m, -, hm⟩
  · have hremoval : removal r (opened r { t with schedule := .none }) = (.ok (), u) :=
      (Action.bind_of_ok hfound).trans hrun
    rw [deprovision_eq, hremoval]
    exact ⟨_, rfl, hgone.trans (congrArg (Cloud.without · _) hcloud)⟩
  · exact absurd (fault?_of_schedule_none hplan m) hm

/-- **Two runs.** -/
theorem deprovision_again (hs : s.IsTruthful) {x : Deprovisioned}
    (h : deprovision r s = (.ok (.success x), t)) :
    ∃ u, deprovision r { t with schedule := .none } = (.ok (.success x), u) ∧
      u.cloud = t.cloud := by
  obtain ⟨cr, hcred⟩ := credentials_of_success h
  have heffect := effect_of_truthful r hs
  have hsame := deprovision_sameAnswer r s
  rw [h] at heffect hsame
  have hopened : r.address.SameAnswer Source.defaultOrder (opened r s) s := .of_eq rfl rfl rfl
  obtain ⟨rfl, ht⟩ := heffect.of_success
  obtain ⟨u, hrun, hgone⟩ := deprovision_of_found hcred
    ((Address.SameAnswer.permits _ _ []).trans hopened hsame)
  exact ⟨u, hrun, by rw [hgone, ht, Cloud.without_without]⟩

end Deprovision

/-! ## There and back -/

namespace Provision

variable {d : Definition} {c c' x : Cloud} {a : Account} {b : Bucket}

theorem bucket?_of_readyBucket (h : readyBucket d c = some (b, c')) :
    c'.bucket? d.targetBucket = some b ∧ b.objects = [] ∧ c'.accounts = c.accounts := by
  rcases readyBucket_eq_some_iff.1 h with ⟨hb, ho, rfl⟩ | ⟨hnone, -, rfl, rfl⟩
  · exact ⟨hb, ho, rfl⟩
  · exact ⟨Cloud.bucket?_addBucket_self hnone, rfl, rfl⟩

theorem readyAccount_made (h : readyAccount d c = some (a, c')) (hne : c'.accounts ≠ c.accounts) :
    c' = c.addAccount a ∧ c.account? a.name = none ∧
      (∃ id, a = Remote.newAccount d.project id (description d)) ∧
      ∀ c₀ : Cloud, c₀.accounts = c.accounts → readyAccount d c₀ = some (a, c₀.addAccount a) := by
  rw [readyAccount] at h
  rcases hid : accountIdOf d.transferProcess with e | id <;> rw [hid] at h
  · cases h
  dsimp only at h
  rcases hfind : (Remote.accountsOf d.project c).find? fun a => a.description = description d with
    _ | a' <;> rw [hfind] at h <;> dsimp only at h
  · rcases hname : c.account? (Remote.accountName d.project (Remote.accountEmail id d.project)) with
      _ | a' <;> rw [hname] at h <;> cases h
    refine ⟨rfl, hname, ⟨id, rfl⟩, fun c₀ h₀ => ?_⟩
    have hlist : Remote.accountsOf d.project c₀ = Remote.accountsOf d.project c := by
      rw [Remote.accountsOf, Remote.accountsOf, h₀]
    rw [Cloud.account?, ← h₀] at hname
    simp only [readyAccount, hid, hlist, hfind, Cloud.account?, hname]
  · cases h
    exact absurd rfl hne

theorem grantTo_eq_some {name : Value} {email : String} (h : grantTo name email c = some ((), c')) :
    ∃ gs, Policy.grant (Policy.member email) ((c.bucket? name).elim [] Bucket.bindings) = .ok gs ∧
      c' = c.setBindings name gs := by
  rw [grantTo] at h
  rcases hg : Policy.grant (Policy.member email) ((c.bucket? name).elim [] Bucket.bindings) with
    e | gs <;> rw [hg] at h <;> cases h
  exact ⟨gs, rfl, rfl⟩

/-- Where a cloud settles with an account that is made, the account is added under a new name; and
once it is gone again, and the buckets stay as they are then, the cloud settles to it again. -/
theorem settle_undone (hx : settle d c = some (a, x)) (hne : x.accounts ≠ c.accounts) :
    x.accounts = c.accounts ++ [a] ∧ c.account? a.name = none ∧
      (∃ id, a = Remote.newAccount d.project id (description d)) ∧
      ∀ c' : Cloud, c'.accounts = c.accounts → c'.buckets = x.buckets →
        ∃ y, settle d c' = some (a, y) := by
  obtain ⟨b, c₁, c₂, hb, ha, hg⟩ := settle_eq_some_iff.1 hx
  obtain ⟨hthere, hempty, hsame⟩ := bucket?_of_readyBucket hb
  have hname : b.name = d.targetBucket := Cloud.name_of_bucket? hthere
  rw [hname] at hg
  obtain ⟨gs, hgs, rfl⟩ := grantTo_eq_some hg
  have hmade : c₂.accounts ≠ c₁.accounts := fun h => hne (h.trans hsame)
  obtain ⟨rfl, hnew, hid, hagain⟩ := readyAccount_made ha hmade
  have hbucket : (c₁.addAccount a).bucket? d.targetBucket = some b := hthere
  rw [hbucket, Option.elim_some] at hgs
  refine ⟨congrArg (· ++ [a]) hsame, ?_, hid, fun c' haccounts hbuckets => ?_⟩
  · rwa [Cloud.account?, hsame] at hnew
  · have hkept : c'.bucket? d.targetBucket = some { b with bindings := gs } := by
      rw [Cloud.bucket?, hbuckets]
      exact Cloud.bucket?_setBindings_self hbucket gs
    have hready : readyBucket d c' = some ({ b with bindings := gs }, c') :=
      readyBucket_eq_some_iff.2 (Or.inl ⟨hkept, hempty, rfl⟩)
    have hgranted : grantTo b.name a.email (c'.addAccount a) =
        some ((), (c'.addAccount a).setBindings d.targetBucket gs) := by
      rw [hname]
      exact grantTo_of_ok (b := { b with bindings := gs }) hkept (Policy.grant_grant hgs)
    exact ⟨_, settle_eq_some_iff.2
      ⟨_, c', _, hready, hagain c' (haccounts.trans hsame.symm), hgranted⟩⟩

theorem target_record {id : String} (h : a = Remote.newAccount d.project id (description d)) :
    Deprovision.target (record d a) = .text a.name := by
  have hname : a.name ≠ "" := by
    rw [h]
    intro hempty
    have hchars := congrArg String.toList hempty
    rw [Remote.newAccount, Remote.accountName_toList, String.toList_append] at hchars
    simp at hchars
  have htruthy : (Value.text a.name).isTruthy := by simpa [Value.isTruthy] using hname
  exact if_pos htruthy

/-- **There and back.** -/
theorem deprovision_provision {lifetime : Value} {s t : Session} {p : Provisioned}
    (h : provision lifetime d { s with schedule := .none } = (.ok (.success p), t))
    (hne : t.cloud.accounts ≠ s.cloud.accounts) :
    ∃ u, deprovision p.resource { t with schedule := .none } = (.ok (.success ⟨d.id⟩), u) ∧
      u.cloud.accounts = s.cloud.accounts ∧
      ∃ p' v, provision lifetime d { u with schedule := .none } = (.ok (.success p'), v) ∧
        p'.resource = p.resource := by
  obtain ⟨a, token, u, hstages, rfl, htu⟩ := stages_of_success h
  obtain ⟨⟨cr, hcr⟩, ⟨n, hn⟩, x, hx, hu⟩ := settle_of_stages rfl hstages
  have hsettles : settle d s.cloud = some (a, x) := hx
  have hcloud : t.cloud = issued x := htu.trans hu
  have hmade : x.accounts ≠ s.cloud.accounts := fun hsame => hne ((congrArg _ hcloud).trans hsame)
  obtain ⟨hadded, hnew, ⟨id, hid⟩, hagain⟩ := settle_undone hsettles hmade
  have hpermits := Address.SameAnswer.permits d.address Source.defaultOrder []
  have hkept : d.address.SameAnswer Source.defaultOrder s t := by
    have hrun := provision_sameAnswer lifetime d { s with schedule := .none }
    rwa [h] at hrun
  have hopened : d.address.SameAnswer Source.defaultOrder
      (opened d { s with schedule := .none }) s := .of_eq rfl rfl rfl
  obtain ⟨v, hgone, hv⟩ := Deprovision.deprovision_of_found (r := record d a) hcr
    (hpermits.trans hopened hkept)
  have hlast : d.address.SameAnswer Source.defaultOrder t v := by
    have hrun := Deprovision.deprovision_sameAnswer (record d a) { t with schedule := .none }
    rwa [hgone] at hrun
  rw [target_record hid, hcloud] at hv
  have hback : v.cloud.accounts = s.cloud.accounts := by
    rw [hv]
    exact Cloud.accounts_without_added hnew hadded
  have hbuckets : v.cloud.buckets = x.buckets := by
    rw [hv]
    rfl
  obtain ⟨y, hy⟩ := hagain v.cloud hback hbuckets
  have hcr' := credentials_again (hpermits.trans hkept hlast) cr hcr
  obtain ⟨w, hw, -⟩ := stages_of_settle rfl hcr' hn hy
  obtain ⟨l, hrun⟩ := provision_apply lifetime d { v with schedule := .none }
  rw [hw] at hrun
  exact ⟨v, hgone, hback, _, _, hrun, rfl⟩

end Provision

/-- **Giving up undoes provisioning.** The account that the record names is gone after giving up, or
everything is as it was (`Deprovision.Effect`). Once it is gone, giving up again, where nothing is
planned, answers the same and changes nothing. Where a provisioning made its account, giving up
brings the accounts back, and provisioning again gives the same record. -/
theorem deprovision_undoes :
    (∀ (r : Resource) (s : Session), s.IsTruthful →
      Deprovision.Effect r s.cloud (deprovision r s).1 (deprovision r s).2.cloud) ∧
    (∀ (r : Resource) (s t : Session) (x : Deprovisioned), s.IsTruthful →
      deprovision r s = (.ok (.success x), t) →
      ∃ u, deprovision r { t with schedule := .none } = (.ok (.success x), u) ∧
        u.cloud = t.cloud) ∧
    ∀ (lifetime : Value) (d : Definition) (s t : Session) (p : Provisioned),
      provision lifetime d { s with schedule := .none } = (.ok (.success p), t) →
      t.cloud.accounts ≠ s.cloud.accounts →
      ∃ u, deprovision p.resource { t with schedule := .none } = (.ok (.success ⟨d.id⟩), u) ∧
        u.cloud.accounts = s.cloud.accounts ∧
        ∃ p' v, provision lifetime d { u with schedule := .none } = (.ok (.success p'), v) ∧
          p'.resource = p.resource :=
  ⟨fun r _ hs => Deprovision.effect_of_truthful r hs,
    fun _ _ _ _ hs h => Deprovision.deprovision_again hs h,
    fun _ _ _ _ _ h hne => Provision.deprovision_provision h hne⟩

/-- A bucket and an account are made beside an account of another project. A deletion that is
refused takes nothing away; the next one does, and one after it changes nothing. -/
theorem deprovision_undoes_refused :
    let d : Definition := {
      id := .text "b1", transferProcess := .text "tp-1", location := .text "EU"
      project := .text "p1" }
    let other : Account := ⟨"ci@p2", "projects/p2/serviceAccounts/ci@p2", "builds"⟩
    let s : Session := { cloud := { accounts := [other] }, vault := { kind := .environment } }
    let refused := Schedule.none.append .deleteAccount
      [some (.raise ⟨.foreign .runtime, "stopped"⟩)]
    ∃ p t, provision (.int 3600) d { s with schedule := .none } = (.ok (.success p), t) ∧
      t.cloud.accounts ≠ s.cloud.accounts ∧
      Deprovision.Effect p.resource t.cloud
        (deprovision p.resource { t with schedule := refused }).1
        (deprovision p.resource { t with schedule := refused }).2.cloud ∧
      ∃ u, deprovision p.resource { t with schedule := .none } = (.ok (.success ⟨d.id⟩), u) ∧
        u.cloud.accounts = s.cloud.accounts ∧
        (∃ v, deprovision p.resource { u with schedule := .none } = (.ok (.success ⟨d.id⟩), v) ∧
          v.cloud = u.cloud) ∧
        ∃ p' v, provision (.int 3600) d { u with schedule := .none } = (.ok (.success p'), v) ∧
          p'.resource = p.resource := by
  intro d other s refused
  let a := Remote.newAccount d.project (accountId "tp-1") (Provision.description d)
  obtain ⟨x, hx, hadded⟩ : ∃ x, Provision.settle d s.cloud = some (a, x) ∧
      x.accounts = [other, a] := by
    refine ⟨_, Provision.settle_eq_some_iff.2 ⟨Provision.newBucket d, _,
      (s.cloud.addBucket (Provision.newBucket d)).addAccount a, rfl, ?_, rfl⟩, rfl⟩
    decide +kernel +zetaReduce
  obtain ⟨p, t, hmade, ht⟩ : ∃ p t,
      provision (.int 3600) d { s with schedule := .none } = (.ok (.success p), t) ∧
        t.cloud.accounts = [other, a] := by
    have hlifetime : Identity.lifetimeOf (.int 3600) = .ok 3600 := rfl
    obtain ⟨u, hstages, hu⟩ := Provision.stages_of_settle
      (s := Provision.opened d { s with schedule := .none }) rfl rfl hlifetime hx
    obtain ⟨l, hrun⟩ := Provision.provision_apply (.int 3600) d { s with schedule := .none }
    rw [hstages] at hrun
    exact ⟨_, _, hrun, (congrArg Cloud.accounts hu).trans hadded⟩
  have hne : t.cloud.accounts ≠ s.cloud.accounts := by
    rw [ht]
    nofun
  have hrefused : ({ t with schedule := refused } : Session).IsTruthful := by
    intro m hm f hf
    rcases List.mem_pair.1 hm with rfl | rfl
    · exact nomatch (show (none : Option Fault) = some f from hf)
    · obtain rfl : (⟨.foreign .runtime, "stopped"⟩ : Fault) = f := Option.some.inj hf
      rfl
  obtain ⟨hone, htwo, hback⟩ := deprovision_undoes
  obtain ⟨u, hgone, hsame, hagain⟩ := hback _ d s _ _ hmade hne
  exact ⟨p, t, hmade, hne, hone _ _ hrefused, u, hgone, hsame,
    htwo _ _ _ _ (isTruthful_of_schedule_none rfl) hgone, hagain⟩

end TransferBucket
