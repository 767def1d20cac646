import TransferBucket.Proofs.Identities
import TransferBucket.Proofs.Remembering
import TransferBucket.Proofs.Retry
import TransferBucket.Proofs.Secrecy
import TransferBucket.Proofs.Undo

/-!
# Independent provisionings commute

**Theorem (`independent_provisionings_commute`).** Two definitions of one project, for transfer
processes whose accounts have different ids, and for different buckets or for one that both ask for
alike, each succeed where nothing goes wrong. Then they succeed one after the other in either
order, with the same two records, and both orders lead to one cloud, but for the order in which
accounts and buckets were made.

**What is made** (`Settling`). The accounts and buckets that a definition adds to a cloud, and the
policy that it stores. What another definition adds is foreign to it: it is not found in place of
its own account (`readyAccount_frame`) or bucket (`readyBucket_frame`).

**The diamond** (`Settling.diamond`). Only a bucket of both is touched twice. It is made for one of
them and found for the other, and its policy takes in both members in either order
(`Policy.grant_comm`).

**Credentials.** The search of one definition changes no answer of the vault for the other, also if
both name one key (`Address.credentials_keep`).
-/

namespace TransferBucket

open Session

/-! ## Clouds but for order -/

namespace Cloud

/-- A cloud with more accounts and buckets. -/
def extend (c : Cloud) (as : List Account) (bs : List Bucket) : Cloud :=
  { c with accounts := c.accounts ++ as, buckets := c.buckets ++ bs }

/-- Two clouds hold the same, but for the order of accounts and that of buckets. -/
structure SameUpToOrder (c c' : Cloud) : Prop where
  accounts : c.accounts.Perm c'.accounts
  buckets : c.buckets.Perm c'.buckets
  secrets : c.secrets = c'.secrets
  tokensIssued : c.tokensIssued = c'.tokensIssued
  tokenEnd : c.tokenEnd = c'.tokenEnd

variable {c c' : Cloud} {as as' : List Account} {bs bs' : List Bucket} {name name' : Value}

@[simp]
theorem extend_nil (c : Cloud) : c.extend [] [] = c := by simp [extend]

@[simp]
theorem extend_extend (c : Cloud) (as as' : List Account) (bs bs' : List Bucket) :
    (c.extend as bs).extend as' bs' = c.extend (as ++ as') (bs ++ bs') := by
  simp [extend]

theorem eq_nil_of_extend_accounts (h : c.extend as [] = c) : as = [] :=
  List.append_right_eq_self.1 (congrArg Cloud.accounts h)

theorem eq_nil_of_extend_buckets (h : c.extend [] bs = c) : bs = [] :=
  List.append_right_eq_self.1 (congrArg Cloud.buckets h)

theorem extend_buckets_injective (h : c.extend as bs = c.extend as' bs') : bs = bs' :=
  List.append_cancel_left (congrArg Cloud.buckets h)

theorem setBindings_comm (h : name ≠ name') (c : Cloud) (gs gs' : List Binding) :
    (c.setBindings name gs).setBindings name' gs' =
      (c.setBindings name' gs').setBindings name gs := by
  simp only [setBindings, changeBucket, List.map_map]
  congr 2
  funext b
  by_cases hb : b.name = name
  · simp [hb, h]
  · by_cases hb' : b.name = name' <;> simp [hb, hb', Ne.symm h]

theorem extend_setBindings (hbs : ∀ b ∈ bs, b.name ≠ name) (c : Cloud) (as : List Account)
    (gs : List Binding) :
    (c.setBindings name gs).extend as bs = (c.extend as bs).setBindings name gs := by
  have hsame : (bs.map fun b => if b.name = name then { b with bindings := gs } else b) = bs := by
    rw [List.map_congr_left fun b hb => if_neg (hbs b hb), List.map_id']
  simp only [extend, setBindings, changeBucket, List.map_append, hsame]

theorem bucket?_extend (hbs : ∀ b ∈ bs, b.name ≠ name) (c : Cloud) (as : List Account) :
    (c.extend as bs).bucket? name = c.bucket? name := by
  have hnone : bs.find? (fun b => b.name = name) = none := by
    simpa using hbs
  rw [bucket?, extend, List.find?_append, hnone, Option.or_none, ← bucket?]

theorem bucket?_extend_nil (c : Cloud) (as : List Account) (name : Value) :
    (c.extend as []).bucket? name = c.bucket? name := by
  simp [bucket?, extend]

theorem bucket?_setBindings_of_ne (h : name' ≠ name) (c : Cloud) (gs : List Binding) :
    (c.setBindings name gs).bucket? name' = c.bucket? name' := by
  have hkept : ((fun b : Bucket => decide (b.name = name')) ∘
      fun b => if b.name = name then { b with bindings := gs } else b) =
        fun b => decide (b.name = name') := by
    funext b
    simp only [Function.comp_apply]
    split <;> rfl
  rw [bucket?, setBindings, changeBucket, List.find?_map, hkept, ← bucket?]
  rcases hb : c.bucket? name' with _ | b
  · rfl
  · have hother : b.name ≠ name := fun hname => h ((name_of_bucket? hb).symm.trans hname)
    rw [Option.map_some, if_neg hother]

namespace SameUpToOrder

theorem extend (has : as.Perm as') (hbs : bs.Perm bs') (c : Cloud) :
    SameUpToOrder (c.extend as bs) (c.extend as' bs') where
  accounts := has.append_left _
  buckets := hbs.append_left _
  secrets := rfl
  tokensIssued := rfl
  tokenEnd := rfl

theorem setBindings (h : SameUpToOrder c c') (name : Value) (gs : List Binding) :
    SameUpToOrder (c.setBindings name gs) (c'.setBindings name gs) :=
  { h with buckets := h.buckets.map _ }

end SameUpToOrder

end Cloud

theorem Remote.accountEmail_injective (project : Value) :
    Function.Injective fun id => accountEmail id project := by
  intro id id' h
  have hemail : ∀ id : String, (accountEmail id project).toList =
      id.toList ++ s!"@{project.display}.iam.gserviceaccount.com".toList := by
    intro id
    simp [accountEmail, String.toList_append]
    rfl
  have hchars := congrArg String.toList h
  dsimp only at hchars
  rw [hemail, hemail, List.append_cancel_right_eq] at hchars
  exact String.toList_injective hchars

namespace Provision

variable {d d' : Definition} {c c' : Cloud} {a : Account} {b : Bucket} {as others : List Account}
  {bs : List Bucket} {gs : List Binding}

/-! ## What is foreign to a definition -/

theorem readyAccount_eq_some_iff : readyAccount d c = some (a, c') ↔
    ∃ id, accountIdOf d.transferProcess = .ok id ∧
      ((Remote.accountsOf d.project c).find? (fun a => a.description = description d) = some a ∧
          c' = c ∨
        (Remote.accountsOf d.project c).find? (fun a => a.description = description d) = none ∧
          c.account? (Remote.accountName d.project (Remote.accountEmail id d.project)) = none ∧
          a = Remote.newAccount d.project id (description d) ∧ c' = c.addAccount a) := by
  simp only [readyAccount]
  rcases accountIdOf d.transferProcess with e | id
  · simp
  simp only [Except.ok.injEq, exists_eq_left']
  generalize (Remote.accountsOf d.project c).find? (fun a => a.description = description d) = found
  generalize c.account? (Remote.accountName d.project (Remote.accountEmail id d.project)) = taken
  rcases found with _ | a'
  · rcases taken with _ | a'
    · simp only [Option.some.injEq, Prod.mk.injEq, reduceCtorEq, false_and, true_and, false_or]
      constructor
      · rintro ⟨rfl, rfl⟩
        exact ⟨rfl, rfl⟩
      · rintro ⟨rfl, rfl⟩
        exact ⟨rfl, rfl⟩
    · simp
  · simp [eq_comm]

/-- An account is foreign to a definition: it has neither the description nor the name of the
account of the definition. -/
def Foreign (d : Definition) (a : Account) : Prop :=
  a.description ≠ description d ∧ ∀ id, accountIdOf d.transferProcess = .ok id →
    a.name ≠ Remote.accountName d.project (Remote.accountEmail id d.project)

theorem readyAccount_frame (h : readyAccount d c = some (a, c.extend as []))
    (hc : c'.accounts = c.accounts ++ others) (hothers : ∀ o ∈ others, Foreign d o) :
    readyAccount d c' = some (a, c'.extend as []) := by
  have hdescribed : (Remote.accountsOf d.project c').find?
      (fun a => a.description = description d) =
        (Remote.accountsOf d.project c).find? fun a => a.description = description d := by
    have hnone : (others.filter fun a =>
        (Remote.projectName d.project ++ "/serviceAccounts/").isPrefixOf a.name).find?
          (fun a => a.description = description d) = none := by
      rw [List.find?_eq_none]
      intro o ho hdesc
      exact (hothers o (List.mem_of_mem_filter ho)).1 (of_decide_eq_true hdesc)
    rw [Remote.accountsOf, hc, List.filter_append, List.find?_append, hnone, Option.or_none,
      ← Remote.accountsOf]
  obtain ⟨id, hid, hcases⟩ := readyAccount_eq_some_iff.1 h
  refine readyAccount_eq_some_iff.2 ⟨id, hid, ?_⟩
  rw [hdescribed]
  rcases hcases with ⟨hfound, hsame⟩ | ⟨hnone, hfree, hnew, hadded⟩
  · rw [Cloud.eq_nil_of_extend_accounts hsame, Cloud.extend_nil]
    exact Or.inl ⟨hfound, rfl⟩
  · have hname : c'.account? (Remote.accountName d.project (Remote.accountEmail id d.project)) =
        none := by
      rw [Cloud.account?_eq_none_iff] at hfree ⊢
      intro o ho
      rw [hc] at ho
      rcases List.mem_append.1 ho with ho | ho
      · exact hfree o ho
      · exact (hothers o ho).2 id hid
    have has : as = [a] := List.append_cancel_left (congrArg Cloud.accounts hadded)
    refine Or.inr ⟨hnone, hname, hnew, ?_⟩
    rw [has, Cloud.extend, List.append_nil, Cloud.addAccount]

/-- Only the bucket of the definition matters. -/
theorem readyBucket_frame (h : readyBucket d c = some (b, c.extend [] bs))
    (hc : c'.bucket? d.targetBucket = c.bucket? d.targetBucket) :
    readyBucket d c' = some (b, c'.extend [] bs) := by
  rw [readyBucket_eq_some_iff] at h ⊢
  rw [hc]
  rcases h with ⟨hfound, hempty, hsame⟩ | ⟨hnone, hplace, hnew, hadded⟩
  · rw [Cloud.eq_nil_of_extend_buckets hsame, Cloud.extend_nil]
    exact Or.inl ⟨hfound, hempty, rfl⟩
  · have hbs : bs = [newBucket d] := List.append_cancel_left (congrArg Cloud.buckets hadded)
    refine Or.inr ⟨hnone, hplace, hnew, ?_⟩
    rw [hbs, Cloud.extend, List.append_nil, Cloud.addBucket]

/-! ## What is made -/

/-- What a definition adds to a cloud that settles, and the policy that is stored. -/
structure Settling (d : Definition) (c : Cloud) where
  account : Account
  accounts : List Account
  bucket : Bucket
  buckets : List Bucket
  bindings : List Binding
  hasBucket : readyBucket d c = some (bucket, c.extend [] buckets)
  hasAccount : readyAccount d c = some (account, c.extend accounts [])
  grants : Policy.grant (Policy.member account.email) bucket.bindings = .ok bindings

namespace Settling

/-- The cloud that comes of it. -/
def cloud (w : Settling d c) : Cloud :=
  (c.extend w.accounts w.buckets).setBindings d.targetBucket w.bindings

theorem settles (w : Settling d c) : settle d c = some (w.account, w.cloud) := by
  obtain ⟨hthere, -, -⟩ := bucket?_of_readyBucket w.hasBucket
  have hsame : (c.extend [] w.buckets).accounts = c.accounts ++ [] := rfl
  have haccount := readyAccount_frame w.hasAccount hsame (List.forall_mem_nil _)
  have hplace : ((c.extend [] w.buckets).extend w.accounts []).bucket? d.targetBucket =
      some w.bucket := (Cloud.bucket?_extend_nil _ _ _).trans hthere
  refine settle_eq_some_iff.2 ⟨w.bucket, _, _, w.hasBucket, haccount, ?_⟩
  rw [Cloud.name_of_bucket? hthere, grantTo_of_ok hplace w.grants, Cloud.extend_extend,
    List.nil_append, List.append_nil, ← cloud]

end Settling

theorem exists_settling {x : Cloud} (h : settle d c = some (a, x)) :
    ∃ w : Settling d c, w.account = a ∧ w.cloud = x := by
  obtain ⟨b, c₁, c₂, hb, ha, hg⟩ := settle_eq_some_iff.1 h
  obtain ⟨hthere, -, -⟩ := bucket?_of_readyBucket hb
  obtain ⟨bs, rfl⟩ : ∃ bs, c₁ = c.extend [] bs := by
    rcases readyBucket_eq_some_iff.1 hb with ⟨-, -, rfl⟩ | ⟨-, -, -, rfl⟩
    · exact ⟨[], c₁.extend_nil.symm⟩
    · exact ⟨[newBucket d], by simp [Cloud.extend, Cloud.addBucket]⟩
  obtain ⟨as, rfl⟩ : ∃ as, c₂ = (c.extend [] bs).extend as [] := by
    obtain ⟨id, -, ⟨-, rfl⟩ | ⟨-, -, -, rfl⟩⟩ := readyAccount_eq_some_iff.1 ha
    · exact ⟨[], (Cloud.extend_nil _).symm⟩
    · exact ⟨[a], by simp [Cloud.extend, Cloud.addAccount]⟩
  have hsame : c.accounts = (c.extend [] bs).accounts ++ [] := by simp [Cloud.extend]
  have haccount := readyAccount_frame ha hsame (List.forall_mem_nil _)
  have hplace : ((c.extend [] bs).extend as []).bucket? d.targetBucket = some b :=
    (Cloud.bucket?_extend_nil _ _ _).trans hthere
  obtain ⟨gs, hgs, rfl⟩ := grantTo_eq_some hg
  rw [Cloud.name_of_bucket? hthere, hplace] at hgs
  refine ⟨⟨a, as, b, bs, gs, hb, haccount, hgs⟩, rfl, ?_⟩
  rw [Cloud.name_of_bucket? hthere, Cloud.extend_extend, List.nil_append, List.append_nil]
  rfl

/-! ## Independent definitions -/

/-- Two definitions of one project, with addresses as their types say, for transfer processes whose
accounts have different ids, and for different buckets or for one that both ask for alike. -/
structure Independent (d d' : Definition) : Prop where
  project : d'.project = d.project
  processes : ∃ t t', d.transferProcess = .text t ∧ d'.transferProcess = .text t' ∧
    IsProcessId t ∧ IsProcessId t' ∧ accountId t ≠ accountId t'
  bucket : d.targetBucket = d'.targetBucket →
    d.location = d'.location ∧ d.storageClass = d'.storageClass
  addresses : d.address.IsTextual ∧ d'.address.IsTextual

namespace Independent

theorem symm (h : Independent d d') : Independent d' d where
  project := h.project.symm
  processes := by
    obtain ⟨t, t', ht, ht', hproper, hproper', hne⟩ := h.processes
    exact ⟨t', t, ht', ht, hproper', hproper, hne.symm⟩
  bucket htarget := by
    obtain ⟨hlocation, hclass⟩ := h.bucket htarget.symm
    exact ⟨hlocation.symm, hclass.symm⟩
  addresses := h.addresses.symm

theorem foreign (h : Independent d d') (w : Settling d c) : ∀ o ∈ w.accounts, Foreign d' o := by
  obtain ⟨t, t', ht, ht', hproper, hproper', hne⟩ := h.processes
  obtain ⟨id, hid, ⟨-, hsame⟩ | ⟨-, -, hnew, hadded⟩⟩ := readyAccount_eq_some_iff.1 w.hasAccount
  · rw [Cloud.eq_nil_of_extend_accounts hsame]
    exact nofun
  have hone : w.accounts = [w.account] :=
    List.append_cancel_left (congrArg Cloud.accounts hadded)
  rw [ht] at hid
  obtain rfl : accountId t = id := Except.ok.inj hid
  intro o ho
  rw [hone, List.mem_singleton] at ho
  rw [ho, hnew]
  constructor
  · intro hdesc
    rw [description, description, Remote.newAccount, ht, ht'] at hdesc
    obtain ⟨rfl, -⟩ := accountDescription_injective hproper hproper' hdesc
    exact hne rfl
  · intro id' hid' hname
    rw [ht'] at hid'
    obtain rfl : accountId t' = id' := Except.ok.inj hid'
    rw [h.project] at hname
    exact hne (Remote.accountEmail_injective _ (Remote.accountName_injective _ hname))

theorem readyBucket_eq (h : Independent d d') (htarget : d.targetBucket = d'.targetBucket)
    (c : Cloud) : readyBucket d' c = readyBucket d c := by
  obtain ⟨hlocation, hclass⟩ := h.bucket htarget
  simp only [readyBucket, newBucket, htarget, hlocation, hclass]

end Independent

namespace Settling

theorem name_of_mem_buckets (w : Settling d c) : ∀ b ∈ w.buckets, b.name = d.targetBucket := by
  rcases readyBucket_eq_some_iff.1 w.hasBucket with ⟨-, -, hsame⟩ | ⟨-, -, -, hadded⟩
  · rw [Cloud.eq_nil_of_extend_buckets hsame]
    exact nofun
  · have hone : w.buckets = [newBucket d] :=
      List.append_cancel_left (congrArg Cloud.buckets hadded)
    intro b hb
    rw [hone, List.mem_singleton] at hb
    rw [hb, newBucket]

/-- What a definition adds is added after another one for a different bucket, too. -/
theorem after_of_ne (h : Independent d d') (hne : d.targetBucket ≠ d'.targetBucket)
    (w : Settling d c) (w' : Settling d' c) : ∃ v : Settling d' w.cloud,
      v.account = w'.account ∧ v.accounts = w'.accounts ∧ v.buckets = w'.buckets ∧
        v.bindings = w'.bindings := by
  have hothers : ∀ b ∈ w.buckets, b.name ≠ d'.targetBucket := by
    intro b hb
    rw [w.name_of_mem_buckets b hb]
    exact hne
  have hlook : w.cloud.bucket? d'.targetBucket = c.bucket? d'.targetBucket := by
    rw [cloud, Cloud.bucket?_setBindings_of_ne hne.symm, Cloud.bucket?_extend hothers]
  have haccounts : w.cloud.accounts = c.accounts ++ w.accounts := rfl
  exact ⟨⟨w'.account, w'.accounts, w'.bucket, w'.buckets, w'.bindings,
    readyBucket_frame w'.hasBucket hlook,
    readyAccount_frame w'.hasAccount haccounts (h.foreign w), w'.grants⟩, rfl, rfl, rfl, rfl⟩

/-- After another definition for the same bucket, the bucket is found with the policy that was
stored. -/
theorem after_of_eq (h : Independent d d') (heq : d.targetBucket = d'.targetBucket)
    (w : Settling d c) (w' : Settling d' c) {hs : List Binding}
    (hhs : Policy.grant (Policy.member w'.account.email) w.bindings = .ok hs) :
    ∃ v : Settling d' w.cloud, v.account = w'.account ∧ v.accounts = w'.accounts ∧
      v.buckets = [] ∧ v.bindings = hs := by
  obtain ⟨hthere, hempty, -⟩ := bucket?_of_readyBucket w.hasBucket
  have hmade : (c.extend w.accounts w.buckets).bucket? d.targetBucket = some w.bucket := hthere
  have hfound : w.cloud.bucket? d'.targetBucket =
      some { w.bucket with bindings := w.bindings } := by
    rw [← heq, cloud, Cloud.bucket?_setBindings_self hmade]
  have hready : readyBucket d' w.cloud =
      some ({ w.bucket with bindings := w.bindings }, w.cloud.extend [] []) :=
    readyBucket_eq_some_iff.2 (Or.inl ⟨hfound, hempty, w.cloud.extend_nil⟩)
  have haccounts : w.cloud.accounts = c.accounts ++ w.accounts := rfl
  exact ⟨⟨w'.account, w'.accounts, _, [], hs, hready,
    readyAccount_frame w'.hasAccount haccounts (h.foreign w), hhs⟩, rfl, rfl, rfl, rfl⟩

/-- **The diamond.** What either of two independent definitions makes of a cloud, the other one
makes on, with the same account, and both ways lead to the same, but for order. -/
theorem diamond (h : Independent d d') (w : Settling d c) (w' : Settling d' c) :
    ∃ (v : Settling d' w.cloud) (v' : Settling d w'.cloud),
      v.account = w'.account ∧ v'.account = w.account ∧ v.cloud.SameUpToOrder v'.cloud := by
  by_cases htarget : d.targetBucket = d'.targetBucket
  · have hsame := w'.hasBucket
    rw [h.readyBucket_eq htarget, w.hasBucket] at hsame
    obtain ⟨hbucket, hextended⟩ := Prod.mk.inj (Option.some.inj hsame)
    have hbuckets : w.buckets = w'.buckets := Cloud.extend_buckets_injective hextended
    have hgrants := w'.grants
    rw [← hbucket] at hgrants
    obtain ⟨hs, hhs, hhs'⟩ := Policy.grant_comm w.grants hgrants
    obtain ⟨v, haccount, haccounts, hnone, hpolicy⟩ := w.after_of_eq h htarget w' hhs
    obtain ⟨v', haccount', haccounts', hnone', hpolicy'⟩ :=
      w'.after_of_eq h.symm htarget.symm w hhs'
    refine ⟨v, v', haccount, haccount', ?_⟩
    have hnothing : ∀ b ∈ ([] : List Bucket), b.name ≠ d.targetBucket := List.forall_mem_nil _
    have hcloud : v.cloud =
        (c.extend (w.accounts ++ w'.accounts) w.buckets).setBindings d.targetBucket hs := by
      rw [cloud, haccounts, hnone, hpolicy, cloud, Cloud.extend_setBindings hnothing,
        Cloud.extend_extend, List.append_nil, ← htarget, Cloud.setBindings_setBindings]
    have hcloud' : v'.cloud =
        (c.extend (w'.accounts ++ w.accounts) w.buckets).setBindings d.targetBucket hs := by
      rw [cloud, haccounts', hnone', hpolicy', cloud, ← htarget,
        Cloud.extend_setBindings hnothing, Cloud.extend_extend, List.append_nil,
        Cloud.setBindings_setBindings, hbuckets]
    rw [hcloud, hcloud']
    exact (Cloud.SameUpToOrder.extend List.perm_append_comm (List.Perm.refl _) c).setBindings _ _
  · obtain ⟨v, haccount, haccounts, hbuckets, hpolicy⟩ := w.after_of_ne h htarget w'
    obtain ⟨v', haccount', haccounts', hbuckets', hpolicy'⟩ :=
      w'.after_of_ne h.symm (Ne.symm htarget) w
    refine ⟨v, v', haccount, haccount', ?_⟩
    have hothers : ∀ b ∈ w.buckets, b.name ≠ d'.targetBucket := by
      intro b hb
      rw [w.name_of_mem_buckets b hb]
      exact htarget
    have hothers' : ∀ b ∈ w'.buckets, b.name ≠ d.targetBucket := by
      intro b hb
      rw [w'.name_of_mem_buckets b hb]
      exact Ne.symm htarget
    rw [cloud, haccounts, hbuckets, hpolicy, cloud, Cloud.extend_setBindings hothers',
      Cloud.extend_extend, cloud, haccounts', hbuckets', hpolicy', cloud,
      Cloud.extend_setBindings hothers, Cloud.extend_extend, Cloud.setBindings_comm htarget]
    exact ((Cloud.SameUpToOrder.extend List.perm_append_comm List.perm_append_comm
      c).setBindings _ _).setBindings _ _

theorem exists_issued (w : Settling d c) :
    ∃ v : Settling d (issued c), v.account = w.account ∧ v.cloud = issued w.cloud :=
  exists_settling (settle_issued w.settles)

end Settling

end Provision

theorem Cloud.SameUpToOrder.issued {c c' : Cloud} (h : c.SameUpToOrder c') :
    (Provision.issued c).SameUpToOrder (Provision.issued c') :=
  { h with tokensIssued := congrArg (· + 1) h.tokensIssued }

/-! ## Credentials -/

theorem Address.given?_of_source? {a : Address} {order : List Source} {source : Source}
    {given : Value} (h : a.source? order = some (source, given)) :
    source.given? a = some given := by
  induction order with
  | nil => cases h
  | cons first rest ih =>
    rw [source?] at h
    rcases hfirst : first.given? a with _ | v <;> rw [hfirst] at h
    · exact ih h
    · cases h
      exact hfirst

/-- A question to the vault for one key changes its answer for none. -/
theorem Vault.resolve_keepsAnswer (j k : String) :
    (resolve (.text j)).Along (SameAnswer (.text k)) := by
  intro s
  by_cases hjk : j = k
  · rw [hjk]
    exact answer_resolve (.text k) s
  · obtain ⟨hcloud, henvironment, hkind⟩ := resolve_keeps (.text j) s
    simp only [SameAnswer, answer, inSecrets, hcloud, henvironment, hkind,
      remembered?_resolve_of_ne hjk]

/-- **Credentials.** The search for the credentials of one address changes no answer that another
one needs. -/
theorem Address.credentials_keep {a b : Address} (ha : a.IsTextual) (hb : b.IsTextual)
    (order : List Source) : (a.credentials order).Along (b.SameAnswer order) := by
  intro s source given hsource
  obtain ⟨k, rfl⟩ := hb.exists_text (given?_of_source? hsource)
  have hpermits := Vault.SameAnswer.permits (.text k) Source.methods
  rw [Address.credentials_eq]
  rcases hfirst : a.source? order with _ | ⟨first, v⟩
  · exact Credentials.ofSurroundings_along hpermits s
  · obtain ⟨j, rfl⟩ := ha.exists_text (given?_of_source? hfirst)
    have hrequire := Vault.require_along_of_resolve hpermits (Vault.resolve_keepsAnswer j k)
    exact Source.credentials_along hpermits (by decide) hrequire first s

/-! ## The theorem -/

namespace Provision

variable {d d' : Definition} {s t t' : Session} {lifetime : Value} {p p' : Provisioned}

theorem provision_calls (lifetime : Value) (d : Definition) :
    (provision lifetime d).Along (Calls methods) :=
  provision_along (Calls.permits _)
    (fun s => (Address.credentials_calls _ _ s).mono (by decide)) (fun _ _ => .of_eq rfl rfl)
    (fun _ _ => .of_eq rfl rfl) (fun _ _ _ => .of_eq rfl rfl) lifetime

/-- A provisioning that succeeds where nothing is planned has found credentials and a lifetime, and
has settled the cloud. -/
theorem settling_of_success (hs : s.schedule = .none)
    (h : provision lifetime d s = (.ok (.success p), t)) :
    (∃ cr, (d.address.credentials Source.defaultOrder (opened d s)).1 = .ok cr) ∧
      (∃ n, Identity.lifetimeOf lifetime = .ok n) ∧
      ∃ w : Settling d s.cloud, p.resource = record d w.account ∧ t.cloud = issued w.cloud := by
  obtain ⟨a, token, u, hstages, rfl, hcloud⟩ := stages_of_success h
  have hopened : (opened d s).schedule = .none := hs
  obtain ⟨hcr, hn, x, hx, hu⟩ := settle_of_stages hopened hstages
  have hsettles : settle d s.cloud = some (a, x) := hx
  obtain ⟨w, haccount, hw⟩ := exists_settling hsettles
  refine ⟨hcr, hn, w, ?_, ?_⟩
  · rw [haccount]
  · rw [hcloud, hu, hw]

/-- Where nothing is planned, credentials that are found, a lifetime and a cloud that settles make a
provisioning succeed. -/
theorem success_of_settling (hs : s.schedule = .none) {cr : Credentials}
    (hcr : (d.address.credentials Source.defaultOrder (opened d s)).1 = .ok cr) {n : Int}
    (hn : Identity.lifetimeOf lifetime = .ok n) {c : Cloud} (hc : s.cloud = c)
    (w : Settling d c) : ∃ p t, provision lifetime d s = (.ok (.success p), t) ∧
      p.resource = record d w.account ∧ t.cloud = issued w.cloud := by
  have hopened : (opened d s).schedule = .none := hs
  have hsettles : settle d (opened d s).cloud = some (w.account, w.cloud) := hc ▸ w.settles
  obtain ⟨u, hstages, hu⟩ := stages_of_settle hopened hcr hn hsettles
  obtain ⟨l, hrun⟩ := provision_apply lifetime d s
  rw [hstages] at hrun
  exact ⟨_, _, hrun, rfl, hu⟩

/-- After one of two provisionings that each succeed, the other one succeeds if the cloud settles
for it. -/
theorem success_after (h : Independent d d') (hs : s.schedule = .none)
    (hrun : provision lifetime d s = (.ok (.success p), t))
    (hrun' : provision lifetime d' s = (.ok (.success p'), t')) {x : Cloud}
    (hx : t.cloud = issued x) (v : Settling d' x) :
    ∃ q u, provision lifetime d' t = (.ok (.success q), u) ∧
      q.resource = record d' v.account ∧ u.cloud = issued (issued v.cloud) := by
  obtain ⟨⟨cr, hcr⟩, ⟨n, hn⟩, -⟩ := settling_of_success hs hrun'
  have ht : t.schedule = .none := by
    have hkept := (provision_calls lifetime d s).schedule_none hs
    rwa [hrun] at hkept
  have hpermits := Address.SameAnswer.permits d'.address Source.defaultOrder []
  have hkeeps : d'.address.SameAnswer Source.defaultOrder s t := by
    have halong := provision_along (d := d)
      (Address.SameAnswer.permits d'.address Source.defaultOrder methods)
      (Address.credentials_keep h.addresses.1 h.addresses.2 _) (fun _ _ => .of_eq rfl rfl rfl)
      (fun _ _ => .of_eq rfl rfl rfl) (fun _ _ hc => .of_eq rfl rfl hc) lifetime s
    rwa [hrun] at halong
  have hanswers : d'.address.SameAnswer Source.defaultOrder (opened d' s) (opened d' t) :=
    hpermits.trans (.of_eq rfl rfl rfl) (hpermits.trans hkeeps (.of_eq rfl rfl rfl))
  have hfree : (opened d' t).IsFree Source.methods := isFree_of_schedule_none ht _
  have hcr' := Address.credentials_again hfree hanswers cr hcr
  obtain ⟨w, hw, hcloud⟩ := v.exists_issued
  obtain ⟨q, u, hrun'', hrecord, hu⟩ := success_of_settling ht hcr' hn hx w
  refine ⟨q, u, hrun'', ?_, ?_⟩
  · rw [hrecord, hw]
  · rw [hu, hcloud]

end Provision

/-- **Independent provisionings commute.** -/
theorem independent_provisionings_commute (lifetime : Value) (d d' : Definition)
    (s t t' : Session) (p p' : Provisioned) (h : Provision.Independent d d')
    (hs : s.schedule = .none) (hrun : provision lifetime d s = (.ok (.success p), t))
    (hrun' : provision lifetime d' s = (.ok (.success p'), t')) :
    ∃ q q' u u', provision lifetime d' t = (.ok (.success q'), u) ∧
      provision lifetime d t' = (.ok (.success q), u') ∧ q.resource = p.resource ∧
      q'.resource = p'.resource ∧ u.cloud.SameUpToOrder u'.cloud := by
  obtain ⟨-, -, w, hrecord, ht⟩ := Provision.settling_of_success hs hrun
  obtain ⟨-, -, w', hrecord', ht'⟩ := Provision.settling_of_success hs hrun'
  obtain ⟨v, v', haccount, haccount', hsame⟩ := w.diamond h w'
  obtain ⟨q', u, hq', hq'record, hu⟩ := Provision.success_after h hs hrun hrun' ht v
  obtain ⟨q, u', hq, hqrecord, hu'⟩ := Provision.success_after h.symm hs hrun' hrun ht' v'
  refine ⟨q, q', u, u', hq', hq, ?_, ?_, ?_⟩
  · rw [hqrecord, haccount', hrecord]
  · rw [hq'record, haccount, hrecord']
  · rw [hu, hu']
    exact hsame.issued.issued

/-- Two processes for one new bucket, which both name the same key of the vault: the first one makes
the bucket, and the second one joins the policy. -/
theorem independent_provisionings_commute_shared :
    let s : Session := {
      cloud := { secrets := [("projects/p1/secrets/t/versions/latest",
        Utf8.encode "\x7b\"token\": \"one\", \"expiration\": 2000000000000\x7d".toList)] }
      vault := { kind := .secrets (.text "p1") false } }
    let d : Definition := {
      id := .text "b1", transferProcess := .text "tp-1", location := .text "EU"
      project := .text "p1", address := { keyName := .text "t" } }
    let d' : Definition := { d with transferProcess := .text "tp-2" }
    Provision.Independent d d' ∧ ∃ p p' t t' q q' u u',
      provision (.int 3600) d s = (.ok (.success p), t) ∧
      provision (.int 3600) d' s = (.ok (.success p'), t') ∧
      provision (.int 3600) d' t = (.ok (.success q'), u) ∧
      provision (.int 3600) d t' = (.ok (.success q), u') ∧ q.resource = p.resource ∧
      q'.resource = p'.resource ∧ u.cloud.SameUpToOrder u'.cloud := by
  intro s d d'
  have htextual : d.address.IsTextual := ⟨Or.inr ⟨"t", rfl⟩, nofun⟩
  have hindependent : Provision.Independent d d' := by
    refine ⟨rfl, ⟨"tp-1", "tp-2", rfl, rfl, ⟨by decide, ?_⟩, ⟨by decide, ?_⟩, by decide +kernel⟩,
      fun _ => ⟨rfl, rfl⟩, htextual, htextual⟩
    · exact List.all_eq_true.1 (by decide)
    · exact List.all_eq_true.1 (by decide)
  have hlifetime : Identity.lifetimeOf (.int 3600) = .ok 3600 := rfl
  have hfound : (d.address.credentials Source.defaultOrder s).1 =
      .ok (.token "one" ⟨2000000000000000⟩) := by decide +kernel +zetaReduce
  have hsucceeds : ∀ process : String, ∃ p t, provision (.int 3600)
      { d with transferProcess := .text process } s = (.ok (.success p), t) := by
    intro process
    let e : Definition := { d with transferProcess := .text process }
    have hfree : (Provision.opened e s).IsFree Source.methods := isFree_of_schedule_none rfl _
    have hanswers : e.address.SameAnswer Source.defaultOrder s (Provision.opened e s) :=
      .of_eq rfl rfl rfl
    have hcr : (e.address.credentials Source.defaultOrder (Provision.opened e s)).1 =
        .ok (.token "one" ⟨2000000000000000⟩) :=
      Address.credentials_again hfree hanswers _ hfound
    let a := Remote.newAccount e.project (accountId process) (Provision.description e)
    have haccount : Provision.readyAccount e s.cloud = some (a, s.cloud.extend [a] []) :=
      Provision.readyAccount_eq_some_iff.2 ⟨accountId process, rfl, Or.inr ⟨rfl, rfl, rfl, rfl⟩⟩
    have hbucket : Provision.readyBucket e s.cloud =
        some (Provision.newBucket e, s.cloud.extend [] [Provision.newBucket e]) :=
      Provision.readyBucket_eq_some_iff.2 (Or.inr ⟨rfl, rfl, rfl, rfl⟩)
    let w : Provision.Settling e s.cloud := ⟨a, [a], Provision.newBucket e, [Provision.newBucket e],
      [Policy.single (Policy.member a.email)], hbucket, haccount, rfl⟩
    obtain ⟨p, t, hrun, -⟩ := Provision.success_of_settling rfl hcr hlifetime rfl w
    exact ⟨p, t, hrun⟩
  obtain ⟨p, t, hrun⟩ := hsucceeds "tp-1"
  obtain ⟨p', t', hrun'⟩ := hsucceeds "tp-2"
  obtain ⟨q, q', u, u', hcommute⟩ := independent_provisionings_commute (.int 3600) d d' s t t' p p'
    hindependent rfl hrun hrun'
  exact ⟨hindependent, p, p', t, t', q, q', u, u', hrun, hrun', hcommute⟩

end TransferBucket
