import TransferBucket.Proofs.Remote

/-!
# The account of a definition

**Making it** (`Provision.AccountMade`). The stage that finds or makes the account changes the
cloud in at most one way: it adds the account whose id is made from the transfer process, and only
where no account has its name. If the stage succeeds, the account it gives is in the project and
has the description of process and bucket (`mem_of_account`), whichever way it came to it: listed,
made, or there first.

**Tokens and deletion.** A token that is issued is the next one and is counted
(`issueToken_ending`). Deleting takes away the accounts with the name asked for, or nothing.
-/

namespace TransferBucket

open Session

/-! ## Names -/

namespace Remote

theorem mem_accountsOf {project : Value} {c : Cloud} {a : Account} :
    a ∈ accountsOf project c ↔ a ∈ c.accounts ∧
      (projectName project ++ "/serviceAccounts/").isPrefixOf a.name := by
  rw [accountsOf, List.mem_filter]

theorem accountName_toList (project : Value) (email : String) : (accountName project email).toList =
    (projectName project ++ "/serviceAccounts/").toList ++ email.toList := String.toList_append

theorem isPrefixOf_accountName (project : Value) (email : String) :
    (projectName project ++ "/serviceAccounts/").isPrefixOf (accountName project email) := by
  rw [String.isPrefixOf, String.startsWith_string_iff, accountName_toList]
  exact List.prefix_append _ _

theorem accountName_injective (project : Value) : Function.Injective (accountName project) := by
  intro e e' h
  have hchars := congrArg String.toList h
  rw [accountName_toList, accountName_toList, List.append_cancel_left_eq] at hchars
  exact String.toList_injective hchars

/-- The account that is found under the name of one of the project is in the project. -/
theorem mem_accountsOf_of_account? {project : Value} {email : String} {c : Cloud} {a : Account}
    (h : c.account? (accountName project email) = some a) : a ∈ accountsOf project c := by
  refine mem_accountsOf.2 ⟨Cloud.mem_of_account? h, ?_⟩
  rw [Cloud.name_of_account? h]
  exact isPrefixOf_accountName project email

end Remote

/-! ## What may change -/

/-- The methods called to find, make and read an account. -/
def Identity.methods : List Method := [.openIdentity, .listAccounts, .createAccount, .getAccount]

/-- The description of the account of a definition. -/
def Provision.description (d : Definition) : String :=
  accountDescription d.transferProcess d.targetBucket

section Along

variable {R : Session → Session → Prop} {ms : List Method}

namespace Identity

theorem find?_along (h : Permits R [.openIdentity, .listAccounts])
    (hl : ∀ s l, R s { s with links := l })
    (c : Credentials) (project : Value) (description : String) :
    (find? c project description).Along R := by
  refine Action.Along.mapError ?_ _
  refine h.bind (Remote.openIdentity_along h (by decide) hl _) fun _ => ?_
  refine h.bind (Remote.listAccounts_along h (by decide) _) fun listing => ?_
  split
  · exact h.pure _
  · split
    · exact h.fail _
    · exact h.pure _

theorem takeExisting_along (h : Permits R methods) (hl : ∀ s l, R s { s with links := l })
    (c : Credentials) (project : Value) (id description : String) :
    (takeExisting c project id description).Along R := by
  refine h.bind (Action.Along.mapError ?_ _) fun a => ?_
  · exact h.bind (Remote.openIdentity_along h (by decide) hl _) fun _ =>
      Remote.getAccount_along h (by decide) _
  · split
    · exact h.bind (h.debug _) fun _ => h.pure _
    · exact h.fail _

theorem getOrCreate_along (h : Permits R methods) (hl : ∀ s l, R s { s with links := l })
    {project : Value} {id description : String}
    (ha : ∀ s,
      s.cloud.account? (Remote.accountName project (Remote.accountEmail id project)) = none →
      R s { s with cloud := s.cloud.addAccount (Remote.newAccount project id description) })
    (c : Credentials) : (getOrCreate c project id description).Along R := by
  refine h.bind (find?_along (h.mono (by decide)) hl c _ _) fun found => ?_
  cases found with
  | some a => exact h.bind (h.debug _) fun _ => h.pure _
  | none =>
    refine h.resume (h.bind (Remote.openIdentity_along h (by decide) hl _) fun _ =>
      Remote.createAccount_along h (by decide) ha) fun r => ?_
    cases r with
    | ok a => exact h.bind (h.info _) fun _ => h.pure _
    | error f =>
      dsimp only
      split
      · exact h.bind (takeExisting_along h hl c _ _ _) fun _ => h.pure _
      · exact h.fail _

theorem issueToken_along (h : Permits R ms) (hopen : .openIssuer ∈ ms) (hissue : .issueToken ∈ ms)
    (hl : ∀ s l, R s { s with links := l })
    (ht : ∀ s, R s { s with cloud := { s.cloud with tokensIssued := s.cloud.tokensIssued + 1 } })
    (c : Credentials) (lifetime : Value) (email : String) :
    (issueToken c lifetime email).Along R := by
  refine h.bind ((Remote.openIssuer_along h hopen hl _).mapError _) fun _ => ?_
  refine h.bind (h.ofExcept _) fun seconds => ?_
  exact h.bind ((Remote.issueToken_along h hissue ht _ _ _).mapError _) fun _ =>
    h.bind (h.debug _) fun _ => h.pure _

theorem delete_along (h : Permits R ms) (hopen : .openIdentity ∈ ms) (hdelete : .deleteAccount ∈ ms)
    (hl : ∀ s l, R s { s with links := l })
    (hd : ∀ s n, R s { s with cloud := s.cloud.dropAccount n })
    (c : Credentials) (project email name : Value) : (delete c project email name).Along R := by
  refine h.resume (h.bind (Remote.openIdentity_along h hopen hl _) fun _ =>
    Remote.deleteAccount_along h hdelete fun s n _ => hd s n) fun r => ?_
  cases r with
  | ok u => exact h.info _
  | error f =>
    dsimp only
    split
    · exact h.info _
    · exact h.fail _

end Identity

namespace Provision

theorem account_along (h : Permits R Identity.methods) (hl : ∀ s l, R s { s with links := l })
    {d : Definition}
    (ha : ∀ s id, accountIdOf d.transferProcess = .ok id →
      s.cloud.account? (Remote.accountName d.project (Remote.accountEmail id d.project)) = none →
      R s { s with cloud := s.cloud.addAccount (Remote.newAccount d.project id (description d)) })
    (c : Credentials) : (account c d).Along R := by
  intro s
  rw [account, Action.bind_apply, Action.ofExcept_apply]
  rcases hid : accountIdOf d.transferProcess with e | id
  · exact h.refl s
  · exact h.bind (Identity.getOrCreate_along h hl (fun s hnone => ha s id hid hnone) c)
      (fun _ => h.bind (h.debug _) fun _ => h.pure _) s

end Provision

end Along

/-- The account of a definition is made, where no account had its name. -/
def Provision.AccountMade (d : Definition) (c c' : Cloud) : Prop :=
  ∃ id, accountIdOf d.transferProcess = .ok id ∧
    c.account? (Remote.accountName d.project (Remote.accountEmail id d.project)) = none ∧
    c' = c.addAccount (Remote.newAccount d.project id (description d))

namespace Provision

variable {d : Definition} {c c' : Cloud}

/-- An account is made once at most. -/
theorem accountMade_permits (d : Definition) (ms : List Method) :
    Permits (fun s t => t.cloud = s.cloud ∨ AccountMade d s.cloud t.cloud) ms where
  refl _ := Or.inl rfl
  trans := by
    rintro s t u (hst | hst) (htu | htu)
    · exact Or.inl (htu.trans hst)
    · exact Or.inr (hst ▸ htu)
    · exact Or.inr (htu ▸ hst)
    · obtain ⟨id, hid, hnone, hmade⟩ := hst
      obtain ⟨id', hid', hnone', -⟩ := htu
      obtain rfl : id = id' := Except.ok.inj (hid.symm.trans hid')
      have hthere := Cloud.account?_addAccount_self (c := s.cloud)
        (a := Remote.newAccount d.project id (description d)) hnone
      rw [hmade] at hnone'
      exact nomatch hnone'.symm.trans hthere
  log _ _ _ := Or.inl rfl
  call _ _ _ := Or.inl rfl

theorem account_accountMade (cr : Credentials) (d : Definition) :
    (account cr d).Along fun s t => t.cloud = s.cloud ∨ AccountMade d s.cloud t.cloud :=
  account_along (accountMade_permits d _) (fun _ _ => Or.inl rfl)
    (fun _ id hid hnone => Or.inr ⟨id, hid, hnone, rfl⟩) cr

end Provision

/-! ## The account that is found or made -/

theorem Remote.items_subset_of_accountsListed {s : Session} {project : Value}
    {l : Listing Account} (h : accountsListed s project = .ok l) :
    l.items ⊆ accountsOf project s.cloud := by
  rw [accountsListed] at h
  split at h <;> cases h
  · exact List.nil_subset _
  · exact List.take_subset _ _
  · exact fun _ ha => ha

namespace Identity

variable {cr : Credentials} {project : Value} {id description : String} {s t : Session}
  {a : Account}

theorem mem_of_find? (h : find? cr project description s = (.ok (some a), t)) :
    a ∈ Remote.accountsOf project t.cloud ∧ a.description = description := by
  obtain ⟨_, u, -, hrest⟩ := Action.bind_eq_ok_iff.1 (Action.mapError_eq_ok_iff.1 h)
  obtain ⟨listing, v, hlist, hlast⟩ := Action.bind_eq_ok_iff.1 hrest
  rw [Remote.listAccounts_apply] at hlist
  obtain ⟨hitems, rfl⟩ := Prod.mk.inj hlist
  have hsub := Remote.items_subset_of_accountsListed hitems
  rcases hf : listing.items.find? fun a => a.description = description with _ | b <;>
    rw [hf] at hlast
  · rcases hending : listing.ending with _ | f <;> rw [hending] at hlast <;> cases hlast
  · cases hlast
    exact ⟨hsub (List.mem_of_find?_eq_some hf), by simpa using List.find?_some hf⟩

/-- An account that was there first has the name of the one asked for and its description. -/
theorem account?_of_takeExisting (h : takeExisting cr project id description s = (.ok a, t)) :
    t.cloud.account? (Remote.accountName project (Remote.accountEmail id project)) = some a ∧
      a.description = description := by
  obtain ⟨b, u, hread, hrest⟩ := Action.bind_eq_ok_iff.1 h
  obtain ⟨_, v, -, hget⟩ := Action.bind_eq_ok_iff.1 (Action.mapError_eq_ok_iff.1 hread)
  rw [Remote.getAccount_apply] at hget
  obtain ⟨hfound, rfl⟩ := Prod.mk.inj hget
  by_cases hd : b.description = description
  · rw [if_pos hd] at hrest
    cases hrest
    refine ⟨?_, hd⟩
    split at hfound <;> cases hfound
    assumption
  · rw [if_neg hd] at hrest
    cases hrest

/-- The account that is given is in the project and has the description asked for. -/
theorem mem_of_getOrCreate {found : Lookup Account}
    (h : getOrCreate cr project id description s = (.ok found, t)) :
    found.value ∈ Remote.accountsOf project t.cloud ∧ found.value.description = description := by
  obtain ⟨listed, u, hfind, hrest⟩ := Action.bind_eq_ok_iff.1 h
  cases listed with
  | some a =>
    have hthere := mem_of_find? hfind
    cases hrest
    exact hthere
  | none =>
    dsimp only at hrest
    rw [Action.resume_apply] at hrest
    rcases hmake : (do
      Remote.openIdentity cr
      Remote.createAccount project id description : Remote Account) u with ⟨f | a, v⟩ <;>
      rw [hmake] at hrest <;> dsimp only at hrest
    · split at hrest
      · obtain ⟨a, w, htake, hpure⟩ := Action.bind_eq_ok_iff.1 hrest
        cases hpure
        obtain ⟨hthere, hd⟩ := account?_of_takeExisting htake
        exact ⟨Remote.mem_accountsOf_of_account? hthere, hd⟩
      · cases hrest
    · obtain ⟨_, w, -, hcreate⟩ := Action.bind_eq_ok_iff.1 hmake
      cases hrest
      rw [Remote.createAccount_apply] at hcreate
      split at hcreate <;> cases hcreate
      refine ⟨Remote.mem_accountsOf.2 ⟨?_, Remote.isPrefixOf_accountName _ _⟩, rfl⟩
      exact List.mem_append_right _ (List.mem_singleton_self _)

end Identity

/-- **The account given.** It is in the project and has the description of process and bucket. -/
theorem Provision.mem_of_account {cr : Credentials} {d : Definition} {s t : Session} {a : Account}
    (h : account cr d s = (.ok a, t)) :
    a ∈ Remote.accountsOf d.project t.cloud ∧ a.description = description d := by
  obtain ⟨id, u, -, hrest⟩ := Action.bind_eq_ok_iff.1 h
  obtain ⟨found, v, hfound, hlast⟩ := Action.bind_eq_ok_iff.1 hrest
  cases hlast
  have hthere := Identity.mem_of_getOrCreate hfound
  exact hthere

/-! ## The token -/

/-- How issuing a token ends: with the next one, which is counted, or in an error that leaves the
cloud as it was. -/
theorem Identity.issueToken_ending (cr : Credentials) (lifetime : Value) (email : String)
    (s : Session) :
    (∃ e t, issueToken cr lifetime email s = (.error e, t) ∧ t.cloud = s.cloud) ∨
      ∃ t, issueToken cr lifetime email s =
        (.ok ⟨s!"issued-{s.cloud.tokensIssued + 1}",
          AccessToken.expirationAt s.cloud.tokenEnd⟩, t) ∧
        t.cloud = { s.cloud with tokensIssued := s.cloud.tokensIssued + 1 } := by
  have hopen := Remote.openIssuer_along (Permits.cloud _) (List.mem_singleton_self _)
    (fun _ _ => rfl) cr s
  rcases ho : Remote.openIssuer cr s with ⟨f | _, u⟩ <;> rw [ho] at hopen
  · rw [issueToken, Action.bind_of_error (Action.mapError_of_error ho)]
    exact Or.inl ⟨_, _, rfl, hopen⟩
  · rw [issueToken, Action.bind_of_ok (Action.mapError_of_ok ho), Action.bind_apply,
      Action.ofExcept_apply]
    rcases lifetimeOf lifetime with e | seconds
    · exact Or.inl ⟨_, _, rfl, hopen⟩
    · have hissue := Remote.issueToken_apply
        s!"projects/-/serviceAccounts/{email}" tokenScopes seconds u
      dsimp only
      rcases hf : u.fault? .issueToken with _ | f <;> rw [hf] at hissue
      · rw [Action.bind_of_ok (Action.mapError_of_ok hissue), ← hopen]
        exact Or.inr ⟨_, rfl, rfl⟩
      · rw [Action.bind_of_error (Action.mapError_of_error hissue)]
        exact Or.inl ⟨_, _, rfl, hopen⟩

end TransferBucket
