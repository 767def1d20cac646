import TransferBucket.Proofs.Footprint

/-!
# What the remote calls do

One equation for each call: how it ends and the session after it, from what is planned for it and
from the cloud. The session after a call is the session with the call announced, and for a call
that has an effect and meets no fault, the effect.

A call is along a relation that permits its method and its effect (`…_along`).
-/

namespace TransferBucket

theorem Value.eq_text_of_text? {v : Value} {s : String} (h : v.text? = some s) : v = .text s := by
  cases v with
  | text t => exact congrArg _ (Option.some.inj h)
  | _ => cases h

namespace Remote

open Session

theorem begin_apply (c : Call) (s : Session) :
    begin c s = (match s.fault? c.method with
      | some f => .error f
      | none => .ok (), s.announced c) := by
  rw [begin, Action.bind_of_ok (announce_eq c s), fault?]
  rcases s.plan? c.method with _ | f | _ | ⟨n, f⟩ <;> rfl

theorem begin_of_fault {c : Call} {s : Session} {f : Fault} (h : s.fault? c.method = some f) :
    begin c s = (.error f, s.announced c) := by
  rw [begin_apply, h]

theorem begin_of_free {c : Call} {s : Session} (h : s.fault? c.method = none) :
    begin c s = (.ok (), s.announced c) := by
  rw [begin_apply, h]

/-- A call that begins with its announcement and then works on the session. -/
theorem begin_bind_apply {α : Type} {c : Call} {m : Method} (hm : c.method = m)
    (f : Unit → Remote α) (s : Session) :
    (begin c >>= f) s = match s.fault? m with
      | some e => (.error e, s.announced c)
      | none => f () (s.announced c) := by
  subst hm
  rcases h : s.fault? c.method with _ | e
  · rw [Action.bind_of_ok (begin_of_free h)]
  · rw [Action.bind_of_error (begin_of_fault h)]

/-! ## Clients -/

/-- The clients of the links are all opened in this way: not again while they are open. -/
theorem openLink_apply (isOpen : Links → Bool) {c : Call} {m : Method} (hm : c.method = m)
    (change : Links → Links) (s : Session) :
    (do
      let l ← .read links
      if isOpen l then pure ()
      else
        begin c
        changeLinks change : Remote Unit) s = if isOpen s.links then (.ok (), s) else
      match s.fault? m with
      | some f => (.error f, s.announced c)
      | none => (.ok (), { s.announced c with links := change s.links }) := by
  rw [Action.bind_of_ok (Action.read_apply links s)]
  split
  · rfl
  · rw [begin_bind_apply hm]
    rfl

theorem openStorage_apply (project : Value) (credentials : Credentials) (s : Session) :
    openStorage project credentials s = if s.links.storage then (.ok (), s) else
      match s.fault? .openStorage with
      | some f => (.error f, s.announced (.openStorage project credentials))
      | none => (.ok (), { s.announced (.openStorage project credentials) with
          links := { s.links with storage := true } }) :=
  openLink_apply (·.storage) rfl _ s

theorem openIdentity_apply (credentials : Credentials) (s : Session) :
    openIdentity credentials s = if s.links.identity then (.ok (), s) else
      match s.fault? .openIdentity with
      | some f => (.error f, s.announced (.openIdentity credentials))
      | none => (.ok (), { s.announced (.openIdentity credentials) with
          links := { s.links with identity := true } }) :=
  openLink_apply (·.identity) rfl _ s

theorem openIssuer_apply (credentials : Credentials) (s : Session) :
    openIssuer credentials s = if s.links.issuer then (.ok (), s) else
      match s.fault? .openIssuer with
      | some f => (.error f, s.announced (.openIssuer credentials))
      | none => (.ok (), { s.announced (.openIssuer credentials) with
          links := { s.links with issuer := true } }) :=
  openLink_apply (·.issuer) rfl _ s

theorem openSecrets_apply (s : Session) :
    openSecrets s = if s.vault.isOpen then (.ok (), s) else
      match s.fault? .openSecrets with
      | some f => (.error f, s.announced .openSecrets)
      | none => (.ok (), { s.announced .openSecrets with
          vault := { s.vault with isOpen := true } }) := by
  rw [openSecrets, Action.bind_of_ok (Action.read_apply Session.vault s)]
  split
  · rfl
  · rw [begin_bind_apply rfl]
    rfl

/-! ## Buckets -/

theorem lookupBucket_apply (name : Value) (s : Session) :
    lookupBucket name s = (match s.fault? .lookupBucket, s.plan? .lookupBucket with
      | some f, _ => .error f
      | none, some _ => .ok none
      | none, none => .ok (s.cloud.bucket? name), s.announced (.lookupBucket name)) := by
  rw [lookupBucket, Action.bind_of_ok (announce_eq _ s), Call.method, fault?]
  rcases s.plan? .lookupBucket with _ | f | _ | ⟨n, f⟩ <;> rfl

theorem getBucket_apply (name : Value) (s : Session) :
    getBucket name s = (match s.fault? .getBucket, s.cloud.bucket? name with
      | some f, _ => .error f
      | none, some b => .ok b
      | none, none => .error (refusal .notFound s!"no bucket: {name.display}"),
      s.announced (.getBucket name)) := by
  rw [getBucket, begin_bind_apply (m := .getBucket) rfl]
  rcases s.fault? .getBucket with _ | f
  · simp only [Action.bind_apply, Action.read_apply, announced_cloud]
    rcases s.cloud.bucket? name with _ | b <;> rfl
  · rfl

theorem createBucket_apply (name location storageClass : Value) (s : Session) :
    createBucket name location storageClass s =
      match s.fault? .createBucket, s.cloud.bucket? name with
      | some f, _ => (.error f, s.announced (.createBucket name location storageClass))
      | none, some _ => (.error (refusal .conflict s!"bucket exists: {name.display}"),
          s.announced (.createBucket name location storageClass))
      | none, none => (.ok { name, location, storageClass },
          { s.announced (.createBucket name location storageClass) with
            cloud := s.cloud.addBucket { name, location, storageClass } }) := by
  rw [createBucket, begin_bind_apply (m := .createBucket) rfl]
  rcases s.fault? .createBucket with _ | f
  · simp only [Action.bind_apply, Action.read_apply, announced_cloud]
    rcases s.cloud.bucket? name with _ | b <;> rfl
  · rfl

/-- What a list of objects brings: the objects as they are planned to come, or a fault. -/
def objectsListed (s : Session) (name : Value) (limit : Nat) : Except Fault (Listing String) :=
  match s.plan? .listObjects with
  | some (.raise f) => .error f
  | some .stale => .ok ⟨[], none⟩
  | some (.raiseAfter n f) =>
    .ok ⟨(((s.cloud.bucket? name).elim [] Bucket.objects).take limit).take n, some f⟩
  | none => match s.cloud.bucket? name with
    | some b => .ok ⟨b.objects.take limit, none⟩
    | none => .error (refusal .notFound s!"no bucket: {name.display}")

theorem listObjects_apply (name : Value) (limit : Nat) (s : Session) :
    listObjects name limit s =
      (objectsListed s name limit, s.announced (.listObjects name limit)) := by
  rw [listObjects, Action.bind_of_ok (announce_eq _ s), Call.method, objectsListed]
  rcases s.plan? .listObjects with _ | f | _ | ⟨n, f⟩
  · simp only [Action.bind_apply, Action.read_apply, announced_cloud]
    rcases s.cloud.bucket? name with _ | b <;> rfl
  · rfl
  · rfl
  · rfl

theorem getPolicy_apply (bucket : Value) (version : Nat) (s : Session) :
    getPolicy bucket version s = (match s.fault? .getPolicy with
      | some f => .error f
      | none => .ok ((s.cloud.bucket? bucket).elim [] Bucket.bindings),
      s.announced (.getPolicy bucket version)) := by
  rw [getPolicy, begin_bind_apply (m := .getPolicy) rfl]
  rcases s.fault? .getPolicy with _ | f <;> rfl

theorem setPolicy_apply (bucket : Value) (bindings : List Binding) (s : Session) :
    setPolicy bucket bindings s = match s.fault? .setPolicy with
      | some f => (.error f, s.announced (.setPolicy bucket bindings))
      | none => (.ok (), { s.announced (.setPolicy bucket bindings) with
          cloud := s.cloud.setBindings bucket bindings }) := by
  rw [setPolicy, begin_bind_apply rfl]
  rfl

/-! ## Accounts -/

/-- The accounts of a project, in their order. -/
def accountsOf (project : Value) (c : Cloud) : List Account :=
  c.accounts.filter fun a => (projectName project ++ "/serviceAccounts/").isPrefixOf a.name

/-- What a list of accounts brings: the accounts as they are planned to come, or a fault. -/
def accountsListed (s : Session) (project : Value) : Except Fault (Listing Account) :=
  match s.plan? .listAccounts with
  | some (.raise f) => .error f
  | some .stale => .ok ⟨[], none⟩
  | some (.raiseAfter n f) => .ok ⟨(accountsOf project s.cloud).take n, some f⟩
  | none => .ok ⟨accountsOf project s.cloud, none⟩

theorem listAccounts_apply (project : Value) (s : Session) :
    listAccounts project s =
      (accountsListed s project, s.announced (.listAccounts (projectName project))) := by
  rw [listAccounts, Action.bind_of_ok (announce_eq _ s), Call.method, accountsListed]
  rcases s.plan? .listAccounts with _ | f | _ | ⟨n, f⟩ <;> rfl

/-- The account that is made for an id in a project. -/
def newAccount (project : Value) (id description : String) : Account :=
  ⟨accountEmail id project, accountName project (accountEmail id project), description⟩

theorem createAccount_apply (project : Value) (id description : String) (s : Session) :
    createAccount project id description s =
      match s.fault? .createAccount,
        s.cloud.account? (accountName project (accountEmail id project)) with
      | some f, _ =>
        (.error f, s.announced (.createAccount (projectName project) id id description))
      | none, some _ =>
        (.error (refusal .alreadyExists s!"account exists: {accountEmail id project}"),
          s.announced (.createAccount (projectName project) id id description))
      | none, none => (.ok (newAccount project id description),
          { s.announced (.createAccount (projectName project) id id description) with
            cloud := s.cloud.addAccount (newAccount project id description) }) := by
  rw [createAccount, begin_bind_apply (m := .createAccount) rfl]
  rcases s.fault? .createAccount with _ | f
  · simp only [Action.bind_apply, Action.read_apply, announced_cloud]
    rcases s.cloud.account? (accountName project (accountEmail id project)) with _ | a <;> rfl
  · rfl

theorem getAccount_apply (name : String) (s : Session) :
    getAccount name s = (match s.fault? .getAccount, s.cloud.account? name with
      | some f, _ => .error f
      | none, some a => .ok a
      | none, none => .error (refusal .notFound s!"no account: {name}"),
      s.announced (.getAccount name)) := by
  rw [getAccount, begin_bind_apply (m := .getAccount) rfl]
  rcases s.fault? .getAccount with _ | f
  · simp only [Action.bind_apply, Action.read_apply, announced_cloud]
    rcases s.cloud.account? name with _ | b <;> rfl
  · rfl

theorem deleteAccount_apply (name : Value) (s : Session) :
    deleteAccount name s = match s.fault? .deleteAccount, name.text?.bind s.cloud.account? with
      | some f, _ => (.error f, s.announced (.deleteAccount name))
      | none, some a => (.ok (),
          { s.announced (.deleteAccount name) with cloud := s.cloud.dropAccount a.name })
      | none, none => (.error (refusal .notFound s!"no account: {name.display}"),
          s.announced (.deleteAccount name)) := by
  rw [deleteAccount, begin_bind_apply (m := .deleteAccount) rfl]
  rcases s.fault? .deleteAccount with _ | f
  · simp only [Action.bind_apply, Action.read_apply, announced_cloud]
    rcases name.text?.bind s.cloud.account? with _ | b <;> rfl
  · rfl

/-! ## Tokens, secrets and credentials -/

theorem issueToken_apply (name : String) (scopes : List String) (lifetime : Int) (s : Session) :
    issueToken name scopes lifetime s = match s.fault? .issueToken with
      | some f => (.error f, s.announced (.issueToken name scopes lifetime))
      | none => (.ok (s!"issued-{s.cloud.tokensIssued + 1}", s.cloud.tokenEnd),
          { s.announced (.issueToken name scopes lifetime) with
            cloud := { s.cloud with tokensIssued := s.cloud.tokensIssued + 1 } }) := by
  rw [issueToken, begin_bind_apply rfl]
  rfl

theorem readSecret_apply (name : String) (s : Session) :
    readSecret name s = (match s.fault? .readSecret, s.cloud.secret? name with
      | some f, _ => .error f
      | none, some bytes => .ok bytes
      | none, none => .error (refusal .notFound s!"no secret: {name}"),
      s.announced (.readSecret name)) := by
  rw [readSecret, begin_bind_apply (m := .readSecret) rfl]
  rcases s.fault? .readSecret with _ | f
  · simp only [Action.bind_apply, Action.read_apply, announced_cloud]
    rcases s.cloud.secret? name with _ | b <;> rfl
  · rfl

theorem loadKeyFile_apply (info : Value) (scopes : List String) (s : Session) :
    loadKeyFile info scopes s = (match s.fault? .loadKeyFile with
      | some f => .error f
      | none => .ok (.keyFile info scopes), s.announced (.loadKeyFile info scopes)) := by
  rw [loadKeyFile, begin_bind_apply (m := .loadKeyFile) rfl]
  rcases s.fault? .loadKeyFile with _ | f <;> rfl

theorem findDefault_apply (scopes : List String) (s : Session) :
    findDefault scopes s = (match s.fault? .findDefault with
      | some f => .error f
      | none => .ok (.surrounding scopes),
      s.announced (.findDefault scopes (s.environment.get? keyFileVariable))) := by
  rw [findDefault, Action.bind_of_ok (Action.read_apply _ s),
    begin_bind_apply (m := .findDefault) rfl]
  rcases s.fault? .findDefault with _ | f <;> rfl

/-! ## Along a relation -/

variable {R : Session → Session → Prop} {ms : List Method}

theorem openLink_along (h : Permits R ms) {c : Call} (hm : c.method ∈ ms)
    (hl : ∀ s l, R s { s with links := l }) (isOpen : Links → Bool) (change : Links → Links) :
    (do
      let l ← .read links
      if isOpen l then pure ()
      else
        begin c
        changeLinks change : Remote Unit).Along R := by
  intro s
  rw [openLink_apply isOpen rfl]
  split
  · exact h.refl s
  · rcases s.fault? c.method with _ | f
    · exact h.trans (h.call s c hm) (hl _ _)
    · exact h.call s c hm

theorem openStorage_along (h : Permits R ms) (hm : .openStorage ∈ ms)
    (hl : ∀ s l, R s { s with links := l }) (project : Value) (credentials : Credentials) :
    (openStorage project credentials).Along R :=
  openLink_along h (c := .openStorage project credentials) hm hl (·.storage) _

theorem openIdentity_along (h : Permits R ms) (hm : .openIdentity ∈ ms)
    (hl : ∀ s l, R s { s with links := l }) (credentials : Credentials) :
    (openIdentity credentials).Along R :=
  openLink_along h (c := .openIdentity credentials) hm hl (·.identity) _

theorem openIssuer_along (h : Permits R ms) (hm : .openIssuer ∈ ms)
    (hl : ∀ s l, R s { s with links := l }) (credentials : Credentials) :
    (openIssuer credentials).Along R :=
  openLink_along h (c := .openIssuer credentials) hm hl (·.issuer) _

theorem openSecrets_along (h : Permits R ms) (hm : .openSecrets ∈ ms)
    (ho : ∀ s, R s { s with vault := { s.vault with isOpen := true } }) :
    openSecrets.Along R := by
  intro s
  rw [openSecrets_apply]
  split
  · exact h.refl s
  · rcases s.fault? .openSecrets with _ | f
    · exact h.trans (h.call s .openSecrets hm) (ho _)
    · exact h.call s _ hm

theorem lookupBucket_along (h : Permits R ms) (hm : .lookupBucket ∈ ms) (name : Value) :
    (lookupBucket name).Along R := by
  intro s
  rw [lookupBucket_apply]
  exact h.call s _ hm

theorem getBucket_along (h : Permits R ms) (hm : .getBucket ∈ ms) (name : Value) :
    (getBucket name).Along R := by
  intro s
  rw [getBucket_apply]
  exact h.call s _ hm

theorem createBucket_along (h : Permits R ms) (hm : .createBucket ∈ ms)
    {name location storageClass : Value}
    (hb : ∀ s, s.cloud.bucket? name = none →
      R s { s with cloud := s.cloud.addBucket { name, location, storageClass } }) :
    (createBucket name location storageClass).Along R := by
  intro s
  rw [createBucket_apply]
  rcases s.fault? .createBucket with _ | f
  · rcases hf : s.cloud.bucket? name with _ | b
    · exact h.trans (h.call s (.createBucket name location storageClass) hm) (hb _ hf)
    · exact h.call s _ hm
  · exact h.call s _ hm

theorem listObjects_along (h : Permits R ms) (hm : .listObjects ∈ ms) (name : Value)
    (limit : Nat) : (listObjects name limit).Along R := by
  intro s
  rw [listObjects_apply]
  exact h.call s _ hm

theorem listAccounts_along (h : Permits R ms) (hm : .listAccounts ∈ ms) (project : Value) :
    (listAccounts project).Along R := by
  intro s
  rw [listAccounts_apply]
  exact h.call s _ hm

theorem createAccount_along (h : Permits R ms) (hm : .createAccount ∈ ms) {project : Value}
    {id description : String}
    (ha : ∀ s, s.cloud.account? (accountName project (accountEmail id project)) = none →
      R s { s with cloud := s.cloud.addAccount (newAccount project id description) }) :
    (createAccount project id description).Along R := by
  intro s
  rw [createAccount_apply]
  rcases s.fault? .createAccount with _ | f
  · rcases hf : s.cloud.account? (accountName project (accountEmail id project)) with _ | a
    · exact h.trans (h.call s (.createAccount (projectName project) id id description) hm) (ha _ hf)
    · exact h.call s _ hm
  · exact h.call s _ hm

theorem getAccount_along (h : Permits R ms) (hm : .getAccount ∈ ms) (name : String) :
    (getAccount name).Along R := by
  intro s
  rw [getAccount_apply]
  exact h.call s _ hm

theorem deleteAccount_along (h : Permits R ms) (hm : .deleteAccount ∈ ms) {name : Value}
    (hd : ∀ s n, name = .text n → R s { s with cloud := s.cloud.dropAccount n }) :
    (deleteAccount name).Along R := by
  intro s
  rw [deleteAccount_apply]
  rcases s.fault? .deleteAccount with _ | f
  · rcases hf : name.text?.bind s.cloud.account? with _ | a
    · exact h.call s _ hm
    · obtain ⟨n, hn, ha⟩ := Option.bind_eq_some_iff.1 hf
      rw [← Cloud.name_of_account? ha] at hn
      exact h.trans (h.call s (.deleteAccount name) hm) (hd _ _ (Value.eq_text_of_text? hn))
  · exact h.call s _ hm

theorem issueToken_along (h : Permits R ms) (hm : .issueToken ∈ ms)
    (ht : ∀ s, R s { s with cloud := { s.cloud with tokensIssued := s.cloud.tokensIssued + 1 } })
    (name : String) (scopes : List String) (lifetime : Int) :
    (issueToken name scopes lifetime).Along R := by
  intro s
  rw [issueToken_apply]
  rcases s.fault? .issueToken with _ | f
  · exact h.trans (h.call s (.issueToken name scopes lifetime) hm) (ht _)
  · exact h.call s _ hm

theorem readSecret_along (h : Permits R ms) (hm : .readSecret ∈ ms) (name : String) :
    (readSecret name).Along R := by
  intro s
  rw [readSecret_apply]
  exact h.call s _ hm

theorem loadKeyFile_along (h : Permits R ms) (hm : .loadKeyFile ∈ ms) (info : Value)
    (scopes : List String) : (loadKeyFile info scopes).Along R := by
  intro s
  rw [loadKeyFile_apply]
  exact h.call s _ hm

theorem findDefault_along (h : Permits R ms) (hm : .findDefault ∈ ms) (scopes : List String) :
    (findDefault scopes).Along R := by
  intro s
  rw [findDefault_apply]
  exact h.call s _ hm

end Remote

end TransferBucket
