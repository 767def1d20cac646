import TransferBucket.Proofs.Accounts
import TransferBucket.Proofs.FindingOrMaking

/-!
# Finding or making an account

**Theorem (`account_found_or_made`).** Of an account that is looked for by its description, and made
with an id where none has it, three things hold in every session whose planned faults are
recognised.

- *Ending.* What is given, what is said of it and the cloud agree (`FoundOrMade`), also if the list
  of accounts breaks off or comes out empty, and if others are first. None is given only if a fault
  was planned, or another account has the id.
- *Delivery.* The first account in the list with the description is given, even if the list breaks
  off after it. Nothing is made then.
- *Repetition.* Once an account is given, one with the description is found again.
-/

namespace TransferBucket

open Session

namespace Remote

variable {s t : Session} {project : Value}

/-- A fault in which a list ends, at once or on the way, was planned for it. -/
theorem fault?_of_accountsListed_error {f : Fault} (h : accountsListed s project = .error f) :
    s.fault? .listAccounts = some f := by
  rw [accountsListed] at h
  rw [fault?]
  rcases hp : s.plan? .listAccounts with _ | _ | _ | _ <;> rw [hp] at h <;> cases h
  rfl

theorem fault?_of_ending {l : Listing Account} {f : Fault} (h : accountsListed s project = .ok l)
    (hf : l.ending = some f) : s.fault? .listAccounts = some f := by
  rw [accountsListed] at h
  rw [fault?]
  rcases hp : s.plan? .listAccounts with _ | _ | _ | _ <;> rw [hp] at h <;> cases h <;> cases hf
  rfl

/-- What a list brings depends on the cloud and on what is planned for it. -/
theorem accountsListed_congr (hcloud : t.cloud = s.cloud)
    (hplan : t.plan? .listAccounts = s.plan? .listAccounts) :
    accountsListed t project = accountsListed s project := by
  rw [accountsListed, hcloud, hplan, accountsListed]

end Remote

namespace Identity

/-! ## What is looked for -/

/-- The problems for which no account is given. -/
inductive Refusal (project : Value) (id : String) : ProvisionProblem → Prop
  | unlisted (f : Fault) : Refusal project id (.accountsUnlisted project f)
  | notCreated (f : Fault) : Refusal project id (.accountNotCreated id f)
  | unread (f : Fault) : Refusal project id (.accountUnread (Remote.accountEmail id project) f)
  | taken : Refusal project id (.accountTaken (Remote.accountEmail id project))

/-- An account of a project with a description, which is made with an id. The id is also the name
that is displayed. -/
def sought (project : Value) (id description : String) : Sought Account where
  IsIn c a := a ∈ Remote.accountsOf project c ∧ a.description = description
  Lacks c := c.account? (Remote.accountName project (Remote.accountEmail id project)) = none
  IsTaken c := ∃ a, c.account? (Remote.accountName project (Remote.accountEmail id project)) =
    some a ∧ a.description ≠ description
  new := Remote.newAccount project id description
  add c := c.addAccount (Remote.newAccount project id description)
  call := .createAccount (Remote.projectName project) id id description
  methods := methods
  Refuses := Refusal project id
  isIn_add c _ := by
    refine ⟨Remote.mem_accountsOf.2 ⟨?_, Remote.isPrefixOf_accountName _ _⟩, rfl⟩
    exact List.mem_append_right _ (List.mem_singleton_self _)
  add_ne c h := by
    have hlength := congrArg (fun c : Cloud => c.accounts.length) h
    simp [Cloud.addAccount] at hlength

variable {cr : Credentials} {project : Value} {id description : String} {s t : Session}
  {cs : List Call}

theorem getOrCreate_eq (cr : Credentials) (project : Value) (id description : String) :
    getOrCreate cr project id description = findOrMake (find? cr project description)
      (do Remote.openIdentity cr; Remote.createAccount project id description)
      (·.isAlreadyExists) (takeExisting cr project id description)
      (reported (.accountNotCreated id))
      (fun a => debug s!"Reusing service account {a.email}")
      (fun a => info s!"Created service account {a.email}") := by
  refine bind_congr fun found => ?_
  cases found with
  | some a => rfl
  | none =>
    refine congrArg (Action.resume _) (funext fun r => ?_)
    cases r with
    | ok a => rfl
    | error f => rfl

/-! ## The steps -/

section Steps

theorem openIdentity_ends (cr : Credentials) (h : Since s .createAccount cs t) :
    (Remote.openIdentity cr).Ends
      (Answers s .createAccount cs (fun _ => True) (· ∈ s.plannedFaults methods)) t :=
  .of_open h (n := .openIdentity) (by decide) Method.noConfusion (Remote.openIdentity_apply _ _)

theorem listAccounts_ends (h : Since s .createAccount cs t) : (Remote.listAccounts project).Ends
    (Answers s .createAccount cs (fun l => l.items ⊆ Remote.accountsOf project s.cloud ∧
      ∀ f, l.ending = some f → f ∈ s.plannedFaults methods) (· ∈ s.plannedFaults methods)) t := by
  have hplanned : ∀ f, t.fault? .listAccounts = some f → f ∈ s.plannedFaults methods := by
    intro f hf
    exact h.mem_plannedFaults (by decide) hf
  apply Answers.of_read h (Remote.listAccounts_apply project t) Method.noConfusion
  · intro l hl
    rw [← h.cloud]
    refine ⟨Remote.items_subset_of_accountsListed hl, ?_⟩
    intro f hf
    exact hplanned f (Remote.fault?_of_ending hl hf)
  · intro f hf
    exact hplanned f (Remote.fault?_of_accountsListed_error hf)

/-- An account that is asked for by its name is there, or it is not. -/
theorem getAccount_ends (name : String) (h : Since s .createAccount cs t) :
    (Remote.getAccount name).Ends (Answers s .createAccount cs
      (fun a => s.cloud.account? name = some a) fun f => f ∈ s.plannedFaults methods ∨
        f.isRecognised ∧ s.cloud.account? name = none) t := by
  apply Answers.of_read h (Remote.getAccount_apply name t) Method.noConfusion
  · intro a ha
    rw [← h.cloud]
    split at ha <;> cases ha
    assumption
  · intro f hf
    rw [← h.cloud]
    split at hf <;> cases hf
    · exact Or.inl (h.mem_plannedFaults (n := .getAccount) (by decide) ‹_›)
    · exact Or.inr ⟨rfl, ‹_›⟩

theorem make_ends (h : Since s .createAccount [] t) :
    (do Remote.openIdentity cr; Remote.createAccount project id description).Ends
      ((sought project id description).Makes (·.isAlreadyExists) s) t := by
  apply Action.Ends.bind (openIdentity_ends cr h)
  · intro f u hu
    exact ⟨Or.inl (hu.error f rfl), [], Or.inl rfl, hu.since⟩
  · intro _ u hu
    have hsince := hu.since
    have hcalled := hsince.announced_self
      (c := .createAccount (Remote.projectName project) id id description) rfl
    rw [Action.Ends, Remote.createAccount_apply]
    cases hf : u.fault? .createAccount with
    | some f =>
      have hplanned : f ∈ s.plannedFaults methods := hsince.mem_plannedFaults (by decide) hf
      exact ⟨Or.inl hplanned, _, Or.inr rfl, hcalled⟩
    | none =>
      cases ha : u.cloud.account? (Remote.accountName project (Remote.accountEmail id project)) with
      | some a =>
        rw [hsince.cloud] at ha
        have hnot : ¬(sought project id description).Lacks s.cloud := by
          intro hnone
          cases ha.symm.trans hnone
        exact ⟨Or.inr ⟨rfl, hnot⟩, _, Or.inr rfl, hcalled⟩
      | none =>
        rw [hsince.cloud] at ha
        exact ⟨rfl, ha, congrArg (Cloud.addAccount · _) hsince.cloud, hcalled.calls⟩

variable (hs : ∀ f ∈ s.plannedFaults methods, f.isRecognised)

include hs

theorem find?_ends (h : Since s .createAccount [] t) : (find? cr project description).Ends
    (Answers s .createAccount [] (fun found => ∀ a, found = some a →
      (sought project id description).IsIn s.cloud a) fun e =>
        (sought project id description).Refused e ∧
          (sought project id description).Hindered s) t := by
  refine Answers.mapError (Answers.bind (openIdentity_ends cr h) ?_) fun f hf =>
    ⟨⟨_, if_pos (hs f hf), .unlisted f⟩, Sought.hindered_of_mem _ hf⟩
  intro _ u hu _
  apply Answers.bind (listAccounts_ends hu)
  intro l v hv hl
  split
  · rename_i a ha
    apply Answers.value hv
    rintro _ ⟨⟩
    exact ⟨hl.1 (List.mem_of_find?_eq_some ha), by simpa using List.find?_some ha⟩
  · split
    · rename_i f hf
      exact .failure hv (hl.2 f hf)
    · exact .value hv nofun

theorem takeExisting_ends (h : Since s .createAccount cs t) :
    (takeExisting cr project id description).Ends (Answers s .createAccount cs
      ((sought project id description).IsIn s.cloud) fun e =>
        (sought project id description).Refused e ∧
          ((sought project id description).Lacks s.cloud ∨
            (sought project id description).Hindered s)) t := by
  have hread := Answers.bind (Answers.error_imp (openIdentity_ends cr h) fun f hf => Or.inl hf)
    fun _ u hu _ => getAccount_ends (Remote.accountName project (Remote.accountEmail id project)) hu
  refine Answers.bind (.mapError hread ?_) ?_
  · rintro f (hf | ⟨hf, hnone⟩)
    · exact ⟨⟨_, if_pos (hs f hf), .unread f⟩, Or.inr (Sought.hindered_of_mem _ hf)⟩
    · exact ⟨⟨_, if_pos hf, .unread f⟩, Or.inl hnone⟩
  · intro a u hu ha
    by_cases hdescription : a.description = description
    · rw [if_pos hdescription]
      exact .value (hu.aside _ _) ⟨Remote.mem_accountsOf_of_account? ha, hdescription⟩
    · rw [if_neg hdescription]
      exact .failure hu ⟨⟨_, rfl, .taken⟩, Or.inr (Or.inr ⟨a, ha, hdescription⟩)⟩

theorem getOrCreate_ends : FoundOrMade (sought project id description) s
    (getOrCreate cr project id description s) := by
  rw [getOrCreate_eq]
  apply findOrMake_ends hs
  · exact find?_ends hs (.refl _ _)
  · intro t ht
    exact make_ends ht
  · intro cs t ht
    exact takeExisting_ends hs ht
  · intro f hf
    exact ⟨_, if_pos hf, .notCreated f⟩
  · intro a t
    exact ⟨_, rfl⟩
  · intro t
    exact ⟨_, rfl⟩

end Steps

/-! ## A list that delivers -/

/-- Opening a client does nothing to a list of accounts that comes after it. -/
theorem openIdentity_of_ok (h : (Remote.openIdentity cr s).1 = .ok ()) : ∃ t,
    Remote.openIdentity cr s = (.ok (), t) ∧ t.cloud = s.cloud ∧
      t.callsOf .createAccount = s.callsOf .createAccount ∧
      t.plan? .listAccounts = s.plan? .listAccounts := by
  rw [Remote.openIdentity_apply] at h ⊢
  by_cases hlinks : s.links.identity
  · rw [if_pos hlinks]
    exact ⟨s, rfl, rfl, rfl, rfl⟩
  · rw [if_neg hlinks] at h ⊢
    rcases hf : s.fault? .openIdentity with _ | f <;> rw [hf] at h
    · refine ⟨_, rfl, rfl, callsOf_announced_of_ne s Method.noConfusion, ?_⟩
      exact plan?_announced_of_ne s (c := .openIdentity cr) (m := .listAccounts) Method.noConfusion
    · cases h

/-- The first account in a list with the description is given, whatever comes after it. -/
theorem getOrCreate_of_listed (id : String) (hopen : (Remote.openIdentity cr s).1 = .ok ())
    {l : Remote.Listing Account} (hl : Remote.accountsListed s project = .ok l) {a : Account}
    (ha : (l.items.find? fun a => a.description = description) = some a) :
    ∃ t, getOrCreate cr project id description s = (.ok ⟨a, false⟩, t) ∧ t.cloud = s.cloud ∧
      t.callsOf .createAccount = s.callsOf .createAccount := by
  obtain ⟨u, hu, hcloud, hcalls, hplan⟩ := openIdentity_of_ok hopen
  have hlist := Remote.listAccounts_apply project u
  rw [Remote.accountsListed_congr hcloud hplan, hl] at hlist
  have hfound : find? cr project description s =
      (.ok (some a), u.announced (.listAccounts (Remote.projectName project))) := by
    rw [find?, Action.mapError_eq_ok_iff, Action.bind_of_ok hu, Action.bind_of_ok hlist, ha]
    rfl
  refine ⟨_, Action.bind_eq_ok_iff.2 ⟨_, _, hfound, rfl⟩, hcloud, ?_⟩
  exact (callsOf_announced_of_ne u Method.noConfusion).trans hcalls

/-! ## The theorem -/

/-- What looking for an account by its description comes to in a session, where it is made with an
id if it is lacking. -/
structure FindsOrMakes (cr : Credentials) (project : Value) (id description : String)
    (s : Session) : Prop where
  /-- What is given, what is said of it and the cloud agree. -/
  ending : FoundOrMade (sought project id description) s (getOrCreate cr project id description s)
  /-- The first account in a list with the description is given as found, also where the list ends
  in a fault after it. -/
  delivered : (Remote.openIdentity cr s).1 = .ok () → ∀ l, Remote.accountsListed s project = .ok l →
    ∀ a, (l.items.find? fun a => a.description = description) = some a →
      ∃ t, getOrCreate cr project id description s = (.ok ⟨a, false⟩, t) ∧ t.cloud = s.cloud ∧
        t.callsOf .createAccount = s.callsOf .createAccount
  /-- Once an account is given, a later call in the same cloud finds one with the description, where
  neither a fault nor an empty list is planned for it. -/
  repeated : ∀ found t, getOrCreate cr project id description s = (.ok found, t) →
    ∀ u : Session, u.cloud = t.cloud → (Remote.openIdentity cr u).1 = .ok () →
      u.plan? .listAccounts = none →
        ∃ a v, getOrCreate cr project id description u = (.ok ⟨a, false⟩, v) ∧
          a.description = description ∧ v.cloud = u.cloud

/-- **Finding or making an account.** -/
theorem account_found_or_made (cr : Credentials) (project : Value) (id description : String)
    (s : Session) (hs : ∀ f ∈ s.plannedFaults methods, f.isRecognised) :
    FindsOrMakes cr project id description s where
  ending := getOrCreate_ends hs
  delivered hopen l hl a ha := getOrCreate_of_listed id hopen hl ha
  repeated found t hrun u hcloud hopen hplan := by
    obtain ⟨hthere, hdescription⟩ := mem_of_getOrCreate hrun
    have hl : Remote.accountsListed u project = .ok ⟨Remote.accountsOf project u.cloud, none⟩ := by
      rw [Remote.accountsListed, hplan]
    rw [← hcloud] at hthere
    have hsome : ((Remote.accountsOf project u.cloud).find? fun a =>
        a.description = description).isSome :=
      List.find?_isSome.2 ⟨found.value, hthere, decide_eq_true hdescription⟩
    obtain ⟨a, ha⟩ := Option.isSome_iff_exists.1 hsome
    obtain ⟨v, hv, hsame, -⟩ := getOrCreate_of_listed id hopen hl ha
    exact ⟨a, v, hv, by simpa using List.find?_some ha, hsame⟩

/-- Another account first, an empty list that hides it, and then a list that breaks off after it. -/
theorem account_found_or_made_lost_race :
    let a : Account := Remote.newAccount (.text "p1") "edc-tp1" "d"
    let s : Session := {
      cloud := { accounts := [a] }
      schedule := Schedule.none.append .listAccounts
        [some .stale, some (.raiseAfter 1 ⟨.auth .transport, "gone"⟩)]
      vault := { kind := .environment } }
    let run := getOrCreate .direct (.text "p1") "edc-tp1" "d" s
    (∀ f ∈ s.plannedFaults methods, f.isRecognised) ∧
      FindsOrMakes .direct (.text "p1") "edc-tp1" "d" s ∧
      run.1.toOption = some ⟨a, false⟩ ∧ (run.2.callsOf .createAccount).length = 1 ∧
      (getOrCreate .direct (.text "p1") "edc-tp1" "d" run.2).1.toOption = some ⟨a, false⟩ ∧
      (getOrCreate .direct (.text "p1") "edc-tp2" "e" s).1.toOption =
        some ⟨Remote.newAccount (.text "p1") "edc-tp2" "e", true⟩ := by
  intro a s run
  have hs : ∀ f ∈ s.plannedFaults methods, f.isRecognised := by decide
  exact ⟨hs, account_found_or_made .direct (.text "p1") "edc-tp1" "d" s hs,
    by decide +kernel +zetaReduce, by decide +kernel +zetaReduce, by decide +kernel +zetaReduce,
    by decide +kernel +zetaReduce⟩

end Identity

end TransferBucket
