import TransferBucket.Proofs.Buckets
import TransferBucket.Proofs.Accounts

/-!
# Where nothing goes wrong

In a session whose schedule plans nothing, a step of the program on buckets, accounts and tokens
is a partial function on clouds: it either fails, or gives a value and the next cloud, and the
rest of the session does not matter (`Computes x f`). Sequences of steps compute the sequence of
their functions.
-/

namespace TransferBucket

open Session

/-- Where nothing is planned, an action ends in a value exactly where `f` does, with the same value
and the same cloud after it; and nothing is planned then either. -/
def Computes {ε α : Type} (x : Action Session ε α) (f : StateT Cloud Option α) : Prop :=
  ∀ s, s.schedule = .none →
    ((x s).1.toOption.map fun a => (a, (x s).2.cloud)) = f s.cloud ∧ (x s).2.schedule = .none

namespace Computes

variable {ε δ α β : Type}

/-- An equation for the run of an action in every session without plans. -/
theorem of_run {x : Action Session ε α} {f : StateT Cloud Option α}
    (h : ∀ s, s.schedule = .none → ∃ r t, x s = (r, t) ∧ t.schedule = .none ∧
      (r.toOption.map fun a => (a, t.cloud)) = f s.cloud) : Computes x f := by
  intro s hs
  obtain ⟨r, t, hx, ht, hf⟩ := h s hs
  rw [hx]
  exact ⟨hf, ht⟩

/-- The run of an action that computes a value. -/
theorem run_of_some {x : Action Session ε α} {f : StateT Cloud Option α} (h : Computes x f)
    {s : Session} (hs : s.schedule = .none) {a : α} {c : Cloud} (hf : f s.cloud = some (a, c)) :
    ∃ t, x s = (.ok a, t) ∧ t.cloud = c ∧ t.schedule = .none := by
  obtain ⟨hr, ht⟩ := h s hs
  rw [hf] at hr
  rcases hx : x s with ⟨e | b, t⟩ <;> rw [hx] at hr ht <;> cases hr
  exact ⟨t, rfl, rfl, ht⟩

/-- An action that ends in a value computes it. -/
theorem some_of_run {x : Action Session ε α} {f : StateT Cloud Option α} (h : Computes x f)
    {s t : Session} (hs : s.schedule = .none) {a : α} (hx : x s = (.ok a, t)) :
    f s.cloud = some (a, t.cloud) := by
  have hr := (h s hs).1
  rw [hx] at hr
  exact hr.symm

theorem schedule_of_run {x : Action Session ε α} {f : StateT Cloud Option α} (h : Computes x f)
    {s t : Session} (hs : s.schedule = .none) {r : Except ε α} (hx : x s = (r, t)) :
    t.schedule = .none := by
  have ht := (h s hs).2
  rwa [hx] at ht

theorem pure (a : α) : Computes (Pure.pure a : Action Session ε α) (Pure.pure a) :=
  fun _ hs => ⟨rfl, hs⟩

theorem fail (e : ε) : Computes (Action.fail e : Action Session ε α) fun _ => none :=
  fun _ hs => ⟨rfl, hs⟩

theorem read (f : Cloud → α) :
    Computes (Action.read fun s => f s.cloud : Action Session ε α) fun c => some (f c, c) :=
  fun _ hs => ⟨rfl, hs⟩

theorem ofExcept (r : Except ε α) :
    Computes (Action.ofExcept r : Action Session ε α) fun c => r.toOption.map (·, c) :=
  fun _ hs => ⟨rfl, hs⟩

theorem changeCloud (f : Cloud → Cloud) :
    Computes (Session.changeCloud f : Action Session ε Unit) fun c => some ((), f c) :=
  fun _ hs => ⟨rfl, hs⟩

theorem note (level : Level) (message : String) :
    Computes (Session.note level message : Action Session ε Unit) (Pure.pure ()) :=
  fun _ hs => ⟨rfl, hs⟩

theorem debug (message : String) :
    Computes (Session.debug message : Action Session ε Unit) (Pure.pure ()) := note _ _

theorem info (message : String) :
    Computes (Session.info message : Action Session ε Unit) (Pure.pure ()) := note _ _

/-- A sequence computes the sequence of its functions: what the second one does counts only at the
values that the first one gives. -/
theorem bind_of_mem {x : Action Session ε α} {g : α → Action Session ε β}
    {f : StateT Cloud Option α} {k : α → StateT Cloud Option β} (hx : Computes x f)
    (hg : ∀ a c d, f c = some (a, d) → Computes (g a) (k a)) : Computes (x >>= g) (f >>= k) := by
  intro s hs
  obtain ⟨hf, ht⟩ := hx s hs
  have hk : (f >>= k) s.cloud = (f s.cloud).bind fun p => k p.1 p.2 := rfl
  rw [hk]
  rcases hxs : x s with ⟨e | a, t⟩ <;> rw [hxs] at hf ht
  · rw [Action.bind_of_error hxs, ← hf]
    exact ⟨rfl, ht⟩
  · rw [Action.bind_of_ok hxs, ← hf]
    exact hg a _ _ hf.symm t ht

theorem bind {x : Action Session ε α} {g : α → Action Session ε β} {f : StateT Cloud Option α}
    {k : α → StateT Cloud Option β} (hx : Computes x f) (hg : ∀ a, Computes (g a) (k a)) :
    Computes (x >>= g) (f >>= k) := hx.bind_of_mem fun a _ _ _ => hg a

/-- A step that is passed silently in the functions: logging, and opening a client. -/
theorem silent_bind {x : Action Session ε Unit} {g : Unit → Action Session ε β}
    {k : StateT Cloud Option β} (hx : Computes x (Pure.pure ())) (hg : Computes (g ()) k) :
    Computes (x >>= g) k := hx.bind (fun _ => hg)

theorem mapError {x : Action Session ε α} {f : StateT Cloud Option α} (hx : Computes x f)
    (reword : ε → δ) : Computes (Action.mapError reword x) f := by
  intro s hs
  obtain ⟨hf, ht⟩ := hx s hs
  rw [Action.mapError_apply]
  refine ⟨?_, ht⟩
  rw [← hf]
  rcases (x s).1 with e | a <;> rfl

theorem congr {x : Action Session ε α} {f g : StateT Cloud Option α} (hx : Computes x f)
    (h : ∀ c, f c = g c) : Computes x g := fun s hs => h s.cloud ▸ hx s hs

end Computes

/-! ## Remote calls -/

namespace Remote

theorem begin_computes (c : Call) : Computes (begin c) (pure ()) := by
  exact .of_run fun s hs => ⟨_, _, begin_of_free (fault?_of_schedule_none hs _),
    announced_schedule_none hs c, rfl⟩

theorem openLink_computes (isOpen : Links → Bool) (c : Call) (change : Links → Links) :
    Computes (do
      let l ← .read links
      if isOpen l then pure ()
      else
        begin c
        changeLinks change : Remote Unit) (pure ()) := by
  refine .of_run fun s hs => ?_
  rw [openLink_apply isOpen rfl, fault?_of_schedule_none hs c.method]
  split
  · exact ⟨_, s, rfl, hs, rfl⟩
  · exact ⟨_, _, rfl, announced_schedule_none hs c, rfl⟩

theorem openStorage_computes (project : Value) (credentials : Credentials) :
    Computes (openStorage project credentials) (pure ()) := openLink_computes _ _ _

theorem openIdentity_computes (credentials : Credentials) :
    Computes (openIdentity credentials) (pure ()) := openLink_computes _ _ _

theorem openIssuer_computes (credentials : Credentials) :
    Computes (openIssuer credentials) (pure ()) := openLink_computes _ _ _

theorem lookupBucket_computes (name : Value) :
    Computes (lookupBucket name) fun c => some (c.bucket? name, c) := by
  refine .of_run fun s hs => ⟨_, _, lookupBucket_apply name s, announced_schedule_none hs _, ?_⟩
  rw [fault?_of_schedule_none hs _, plan?_of_schedule_none hs]
  rfl

theorem listObjects_computes (name : Value) (limit : Nat) :
    Computes (listObjects name limit) fun c =>
      (c.bucket? name).map fun b => (⟨b.objects.take limit, none⟩, c) := by
  refine .of_run fun s hs =>
    ⟨_, _, listObjects_apply name limit s, announced_schedule_none hs _, ?_⟩
  rw [objectsListed, plan?_of_schedule_none hs]
  dsimp only
  rw [announced_cloud]
  rcases s.cloud.bucket? name with _ | b <;> rfl

theorem getPolicy_computes (bucket : Value) (version : Nat) :
    Computes (getPolicy bucket version) fun c =>
      some ((c.bucket? bucket).elim [] Bucket.bindings, c) :=
  (begin_computes _).silent_bind (.read fun c => (c.bucket? bucket).elim [] Bucket.bindings)

theorem setPolicy_computes (bucket : Value) (bindings : List Binding) :
    Computes (setPolicy bucket bindings) fun c => some ((), c.setBindings bucket bindings) :=
  (begin_computes _).silent_bind (.changeCloud _)

theorem listAccounts_computes (project : Value) :
    Computes (listAccounts project) fun c => some (⟨accountsOf project c, none⟩, c) := by
  refine .of_run fun s hs => ⟨_, _, listAccounts_apply project s, announced_schedule_none hs _, ?_⟩
  rw [accountsListed, plan?_of_schedule_none hs]
  rfl

theorem getAccount_computes (name : String) :
    Computes (getAccount name) fun c => (c.account? name).map (·, c) := by
  refine .of_run fun s hs => ⟨_, _, getAccount_apply name s, announced_schedule_none hs _, ?_⟩
  rw [fault?_of_schedule_none hs _, announced_cloud]
  rcases s.cloud.account? name with _ | a <;> rfl

theorem issueToken_computes (name : String) (scopes : List String) (lifetime : Int) :
    Computes (issueToken name scopes lifetime) fun c =>
      some ((s!"issued-{c.tokensIssued + 1}", c.tokenEnd),
        { c with tokensIssued := c.tokensIssued + 1 }) :=
  (begin_computes _).silent_bind <|
    ((Computes.changeCloud _).bind fun _ => .read fun c =>
      (s!"issued-{c.tokensIssued}", c.tokenEnd)).congr fun _ => rfl

end Remote

/-! ## Stages -/

namespace Provision

/-- The bucket of a definition, where nothing goes wrong: one that is there must be empty, and one
that is made must have a location that can be shown. -/
def readyBucket (d : Definition) : StateT Cloud Option Bucket := fun c =>
  match c.bucket? d.targetBucket with
  | some b => if b.objects = [] then some (b, c) else none
  | none =>
    if d.location.isSpellable then some (newBucket d, c.addBucket (newBucket d)) else none

/-- The account of a definition, where nothing goes wrong: one that is there is found by its
description, and one that is made must have a name of its own. -/
def readyAccount (d : Definition) : StateT Cloud Option Account := fun c =>
  match accountIdOf d.transferProcess with
  | .error _ => none
  | .ok id =>
    match (Remote.accountsOf d.project c).find? fun a => a.description = description d with
    | some a => some (a, c)
    | none =>
      match c.account? (Remote.accountName d.project (Remote.accountEmail id d.project)) with
      | some _ => none
      | none => some (Remote.newAccount d.project id (description d),
          c.addAccount (Remote.newAccount d.project id (description d)))

/-- The right of an account on a bucket, where nothing goes wrong. -/
def grantTo (bucket : Value) (email : String) : StateT Cloud Option Unit := fun c =>
  (Policy.grant (Policy.member email)
    ((c.bucket? bucket).elim [] Bucket.bindings)).toOption.map fun gs =>
      ((), c.setBindings bucket gs)

end Provision

namespace Storage

/-- The bucket with a name, where nothing goes wrong. -/
def foundOrMade (name location storageClass : Value) : StateT Cloud Option (Lookup Bucket) :=
  fun c =>
  match c.bucket? name with
  | some b => some (⟨b, false⟩, c)
  | none =>
    if location.isSpellable then
      some (⟨⟨name, location, storageClass.orElse .null, [], []⟩, true⟩,
        c.addBucket ⟨name, location, storageClass.orElse .null, [], []⟩)
    else none

/-- Whether a bucket is empty, where nothing goes wrong. -/
def emptiness (name : Value) : StateT Cloud Option Bool := fun c =>
  (c.bucket? name).map fun b => (b.objects.isEmpty, c)

theorem isEmpty_computes (cr : Credentials) (project name : Value) :
    Computes (isEmpty cr project name) (emptiness name) := by
  refine .mapError (.silent_bind (Remote.openStorage_computes _ _) ?_) _
  refine ((Remote.listObjects_computes name 1).bind_of_mem (k := fun l => pure l.items.isEmpty)
    ?_).congr fun c => ?_
  · intro l c d hl
    obtain ⟨b, -, hb⟩ := Option.map_eq_some_iff.1 hl
    obtain rfl : _ = l := congrArg Prod.fst hb
    rcases b.objects.take 1 with _ | ⟨o, os⟩
    · exact .pure true
    · exact .pure false
  · show ((c.bucket? name).map _).bind _ = (c.bucket? name).map _
    rcases c.bucket? name with _ | b
    · rfl
    · obtain ⟨_, _, _, objects, _⟩ := b
      rcases objects with _ | ⟨o, os⟩ <;> rfl

theorem getOrCreate_computes (cr : Credentials) (project name location storageClass : Value) :
    Computes (getOrCreate cr project name location storageClass)
      (foundOrMade name location storageClass) := by
  have hlook : Computes (do Remote.openStorage project cr; Remote.lookupBucket name) fun c =>
      some (c.bucket? name, c) :=
    (Remote.openStorage_computes project cr).silent_bind (Remote.lookupBucket_computes name)
  intro s hs
  obtain ⟨t, ht, hcloud, hplan⟩ := (hlook.mapError (unavailable name location)).run_of_some hs rfl
  have hrun : getOrCreate cr project name location storageClass s = _ := Action.bind_of_ok ht
  rw [hrun, foundOrMade]
  rcases hb : s.cloud.bucket? name with _ | b
  · have hmake := Remote.createBucket_apply name location (storageClass.orElse .null) t
    rw [fault?_of_schedule_none hplan _, hcloud, hb] at hmake
    dsimp only
    rw [Action.resume_apply, hmake]
    dsimp only
    rw [Action.bind_apply, Action.ofExcept_apply, Value.wording]
    have hkept := announced_schedule_none hplan
      (.createBucket name location (storageClass.orElse .null))
    by_cases hl : location.isSpellable
    · rw [if_pos hl, if_pos hl]
      exact ⟨rfl, hkept⟩
    · rw [if_neg hl, if_neg hl]
      exact ⟨rfl, hkept⟩
  · refine ⟨?_, hplan⟩
    rw [← hcloud]
    rfl

theorem grant_computes (bucket : Value) (email : String) :
    Computes (grant bucket email) (Provision.grantTo bucket email) := by
  have hstored : ∀ gs, Computes (do
      .mapError (reported (.grantRefused email bucket)) (Remote.setPolicy bucket gs)
      info s!"Granted {Policy.objectAdmin} on bucket {bucket.display} to {email}")
      fun c => some ((), c.setBindings bucket gs) := fun gs =>
    (((Remote.setPolicy_computes bucket gs).mapError _).bind fun _ => .info _).congr fun _ => rfl
  refine (((Remote.getPolicy_computes bucket Policy.version).mapError _).bind fun bindings =>
    (Computes.ofExcept _).bind hstored).congr fun c => ?_
  show ((Except.toOption (Policy.grant (Policy.member email) ((c.bucket? bucket).elim []
    Bucket.bindings))).map fun gs => (gs, c)).bind _ = _
  rw [Provision.grantTo, Option.bind_map]
  rcases Policy.grant (Policy.member email) ((c.bucket? bucket).elim [] Bucket.bindings) <;> rfl

end Storage

namespace Identity

/-- The account with a description, where nothing goes wrong: it is found, or it is made under a
name that none has. -/
def foundOrMade (project : Value) (id description : String) :
    StateT Cloud Option (Lookup Account) := fun c =>
  match (Remote.accountsOf project c).find? fun a => a.description = description with
  | some a => some (⟨a, false⟩, c)
  | none => match c.account? (Remote.accountName project (Remote.accountEmail id project)) with
    | some _ => none
    | none => some (⟨Remote.newAccount project id description, true⟩,
        c.addAccount (Remote.newAccount project id description))

theorem find?_computes (cr : Credentials) (project : Value) (description : String) :
    Computes (find? cr project description) fun c =>
      some ((Remote.accountsOf project c).find? fun a => a.description = description, c) := by
  refine .mapError (.silent_bind (Remote.openIdentity_computes _) ?_) _
  refine ((Remote.listAccounts_computes project).bind_of_mem
    (k := fun l => pure (l.items.find? fun a => a.description = description)) ?_).congr fun _ => rfl
  intro l c d hl
  obtain rfl : _ = l := congrArg Prod.fst (Option.some.inj hl)
  dsimp only
  generalize (Remote.accountsOf project c).find? (fun a => a.description = description) = found
  rcases found with _ | a
  · exact .pure none
  · exact .pure (some a)

/-- The account under the name of an id, where nothing goes wrong: it must have the description. -/
def existing (project : Value) (id description : String) : StateT Cloud Option Account := fun c =>
  (c.account? (Remote.accountName project (Remote.accountEmail id project))).bind fun a =>
    if a.description = description then some (a, c) else none

/-- An account that is not in the list is not there under a name of the project either. -/
theorem existing_eq_none {project : Value} {description : String} {c : Cloud}
    (hf : ((Remote.accountsOf project c).find? fun a => a.description = description) = none)
    (id : String) : existing project id description c = none := by
  rw [existing]
  rcases ha : c.account? (Remote.accountName project (Remote.accountEmail id project)) with _ | a
  · rfl
  · have hfound := List.find?_eq_none.1 hf a (Remote.mem_accountsOf_of_account? ha)
    have hother : a.description ≠ description := fun h => hfound (decide_eq_true h)
    rw [Option.bind_some, if_neg hother]

theorem takeExisting_computes (cr : Credentials) (project : Value) (id description : String) :
    Computes (takeExisting cr project id description) (existing project id description) := by
  have hread := ((Remote.openIdentity_computes cr).silent_bind (g := fun _ =>
    Remote.getAccount (Remote.accountName project (Remote.accountEmail id project)))
    (Remote.getAccount_computes _)).mapError
      (reported (.accountUnread (Remote.accountEmail id project)))
  refine (hread.bind (k := fun a c => if a.description = description then some (a, c) else none)
    fun a => ?_).congr fun c => ?_
  · by_cases h : a.description = description
    · simp only [if_pos h]
      exact (Computes.debug _).silent_bind (.pure a)
    · simp only [if_neg h]
      exact .fail _
  · show ((c.account? _).map _).bind _ = _
    rw [Option.bind_map]
    rfl

theorem getOrCreate_computes (cr : Credentials) (project : Value) (id description : String) :
    Computes (getOrCreate cr project id description) (foundOrMade project id description) := by
  intro s hs
  obtain ⟨t, ht, hcloud, hplan⟩ := (find?_computes cr project description).run_of_some hs rfl
  rcases hf : (Remote.accountsOf project s.cloud).find? fun a => a.description = description with
    _ | a <;> rw [hf] at ht
  · have hrun : getOrCreate cr project id description s = _ := Action.bind_of_ok ht
    obtain ⟨u, hu, hsame, hfree⟩ := (Remote.openIdentity_computes cr).run_of_some hplan rfl
    have hmake := Remote.createAccount_apply project id description u
    rw [fault?_of_schedule_none hfree _, hsame, hcloud] at hmake
    have hkept := announced_schedule_none hfree
    rw [hrun]
    simp only [foundOrMade, hf]
    rw [Action.resume_apply, Action.bind_of_ok hu, hmake]
    rcases ha : s.cloud.account? (Remote.accountName project (Remote.accountEmail id project)) with
      _ | a
    · exact ⟨rfl, hkept _⟩
    · have htake := ((takeExisting_computes cr project id description).bind fun b =>
        Computes.pure (⟨b, false⟩ : Lookup Account))
          (u.announced (.createAccount (Remote.projectName project) id id description)) (hkept _)
      rw [announced_cloud, hsame, hcloud] at htake
      exact ⟨htake.1.trans (congrArg (Option.bind · _) (existing_eq_none hf id)), htake.2⟩
  · have hrun : getOrCreate cr project id description s = _ := Action.bind_of_ok ht
    have hfound : foundOrMade project id description s.cloud = some (⟨a, false⟩, s.cloud) := by
      simp only [foundOrMade, hf]
    rw [hrun, hfound]
    exact ⟨congrArg (fun c => some (_, c)) hcloud, hplan⟩

end Identity

namespace Provision

theorem emptyBucket_computes (cr : Credentials) (d : Definition) :
    Computes (emptyBucket cr d) (readyBucket d) := by
  refine ((Storage.getOrCreate_computes cr d.project d.targetBucket d.location d.storageClass).bind
    fun found => (Storage.isEmpty_computes cr d.project d.targetBucket).bind
      (k := fun empty => if empty then pure found.value else fun _ => none)
      fun empty => ?_).congr fun c => ?_
  · cases empty with
    | true => exact (Computes.debug _).silent_bind (.pure found.value)
    | false => exact .fail _
  · show (Storage.foundOrMade d.targetBucket d.location d.storageClass c).bind (fun p =>
      (Storage.emptiness d.targetBucket p.2).bind fun q =>
        (if q.1 then pure p.1.value else fun _ => none : StateT Cloud Option Bucket) q.2) = _
    rw [readyBucket, Storage.foundOrMade]
    rcases hb : c.bucket? d.targetBucket with _ | b
    · have hnew : (c.addBucket (newBucket d)).bucket? d.targetBucket = some (newBucket d) :=
        Cloud.bucket?_addBucket_self hb
      by_cases hl : d.location.isSpellable
      · dsimp only
        rw [if_pos hl, if_pos hl, Option.bind_some, Storage.emptiness]
        have h : (c.addBucket ⟨d.targetBucket, d.location, d.storageClass.orElse .null, [], []⟩) =
            c.addBucket (newBucket d) := rfl
        dsimp only
        rw [h, hnew]
        rfl
      · dsimp only
        rw [if_neg hl, if_neg hl]
        rfl
    · dsimp only
      rw [Option.bind_some, Storage.emptiness, hb]
      obtain ⟨_, _, _, objects, _⟩ := b
      rcases objects with _ | ⟨o, os⟩ <;> rfl

theorem account_computes (cr : Credentials) (d : Definition) :
    Computes (account cr d) (readyAccount d) := by
  refine ((Computes.ofExcept (accountIdOf d.transferProcess)).bind fun id =>
    (Identity.getOrCreate_computes cr d.project id (description d)).bind fun found =>
      (Computes.debug _).silent_bind (.pure found.value)).congr fun c => ?_
  show ((accountIdOf d.transferProcess).toOption.map (·, c)).bind (fun p =>
    (Identity.foundOrMade d.project p.1 (description d) p.2).bind fun q =>
      some (q.1.value, q.2)) = _
  rw [readyAccount]
  rcases accountIdOf d.transferProcess with e | id
  · rfl
  · show (Identity.foundOrMade d.project id (description d) c).bind _ = _
    simp only [Identity.foundOrMade]
    generalize (Remote.accountsOf d.project c).find?
      (fun a => a.description = description d) = found
    rcases found with _ | a
    · dsimp only
      rcases c.account? (Remote.accountName d.project (Remote.accountEmail id d.project)) <;> rfl
    · rfl

end Provision

/-- A token, where nothing goes wrong: the lifetime must be one. -/
def Identity.tokenFor (lifetime : Value) : StateT Cloud Option AccessToken := fun c =>
  (lifetimeOf lifetime).toOption.map fun _ =>
    (⟨s!"issued-{c.tokensIssued + 1}", AccessToken.expirationAt c.tokenEnd⟩,
      { c with tokensIssued := c.tokensIssued + 1 })

theorem Identity.issueToken_computes (cr : Credentials) (lifetime : Value) (email : String) :
    Computes (issueToken cr lifetime email) (tokenFor lifetime) := by
  refine (((Remote.openIssuer_computes cr).mapError _).silent_bind
    ((Computes.ofExcept (lifetimeOf lifetime)).bind fun seconds =>
      ((Remote.issueToken_computes _ tokenScopes seconds).mapError _).bind fun r =>
        (Computes.debug _).silent_bind
          (.pure (AccessToken.mk r.1 (AccessToken.expirationAt r.2))))).congr fun c => ?_
  show ((lifetimeOf lifetime).toOption.map (·, c)).bind _ = _
  rw [tokenFor]
  rcases lifetimeOf lifetime <;> rfl

end TransferBucket
