import TransferBucket.Proofs.Course

/-!
# What is said between program and services

**Replay** (`Services.replay`). The answers that calls get are not kept in the journal, but they can
be found again: every answer depends only on what the services hold and on what is planned, so
asking the calls of the journal in their order, one by one, gives all answers and leaves the
services as they are after the run. Calls and answers together are a dialogue (`Dialogue`).

**Steps** (`x.Exchanges Q s`). The run of the step `x` in the session `s` is a dialogue, and `Q`
holds of what was exchanged and of how the step ended. Composites are handled by `bind`, `resume` and
`mapError`; a remote call exchanges itself for its result. The search for credentials is handled as
a whole (`searching_permits`), since its calls change nothing that the services hold.
-/

namespace TransferBucket

open Session

/-! ## Questions and answers -/

/-- What a call is answered, if it ends in no fault. -/
inductive Reply where
  | done
  | bucket (b? : Option Bucket)
  | objects (listing : Remote.Listing String)
  | policy (bindings : List Binding)
  | accounts (listing : Remote.Listing Account)
  | account (a : Account)
  | token (secret : String) (ends : Instant)
  | secret (bytes : List UInt8)
  | credentials (c : Credentials)

/-- A call and how it ended. -/
structure Exchange where
  call : Call
  answer : Except Fault Reply

/-- The project that a full name names. -/
def Remote.projectOf (parent : String) : Value := .text (String.ofList (parent.toList.drop 9))

/-- A call by itself, whatever clients are open. -/
def Call.ask : Call → Remote Reply
  | .lookupBucket name => Reply.bucket <$> Remote.lookupBucket name
  | .getBucket name => (fun b => .bucket (some b)) <$> Remote.getBucket name
  | .createBucket name location storageClass =>
    (fun b => .bucket (some b)) <$> Remote.createBucket name location storageClass
  | .listObjects name limit => .objects <$> Remote.listObjects name limit
  | .getPolicy bucket version => .policy <$> Remote.getPolicy bucket version
  | .setPolicy bucket bindings => (fun _ => .done) <$> Remote.setPolicy bucket bindings
  | .listAccounts parent => .accounts <$> Remote.listAccounts (Remote.projectOf parent)
  | .createAccount parent id _ description =>
    .account <$> Remote.createAccount (Remote.projectOf parent) id description
  | .getAccount name => .account <$> Remote.getAccount name
  | .deleteAccount name => (fun _ => .done) <$> Remote.deleteAccount name
  | .issueToken name scopes lifetime =>
    (fun t => .token t.1 t.2) <$> Remote.issueToken name scopes lifetime
  | .readSecret name => .secret <$> Remote.readSecret name
  | .loadKeyFile info scopes => .credentials <$> Remote.loadKeyFile info scopes
  | .findDefault scopes file =>
    (fun _ => .credentials (.surrounding scopes)) <$> Remote.begin (.findDefault scopes file)
  | c => (fun _ => .done) <$> Remote.begin c

/-- What the services answer by: what they hold, and what is planned for the calls to come. -/
structure Services where
  cloud : Cloud
  schedule : Schedule

/-- The services of a session. -/
def Session.services (s : Session) : Services := ⟨s.cloud, s.schedule⟩

namespace Services

/-- A session with the services and nothing else. -/
def bare (w : Services) : Session :=
  { cloud := w.cloud, schedule := w.schedule, vault := { kind := .environment } }

/-- The answer to a call, and the services after it. -/
def serve (w : Services) (c : Call) : Except Fault Reply × Services :=
  ((c.ask w.bare).1, (c.ask w.bare).2.services)

/-- The answers to calls one after the other, and the services after them. -/
def replay (w : Services) : List Call → List Exchange × Services
  | [] => ([], w)
  | c :: cs =>
    (⟨c, (w.serve c).1⟩ :: ((w.serve c).2.replay cs).1, ((w.serve c).2.replay cs).2)

theorem replay_append (w : Services) (cs ds : List Call) : w.replay (cs ++ ds) =
    ((w.replay cs).1 ++ ((w.replay cs).2.replay ds).1, ((w.replay cs).2.replay ds).2) := by
  induction cs generalizing w with
  | nil => rfl
  | cons c cs ih => simp only [List.cons_append, replay, ih]

variable (s : Session) (m : Method)

@[simp]
theorem bare_cloud : s.services.bare.cloud = s.cloud := rfl

@[simp]
theorem bare_fault? : s.services.bare.fault? m = s.fault? m := rfl

end Services

/-- Between two sessions the exchanges `es` were made, and nothing else was done to the services. -/
structure Dialogue (s : Session) (es : List Exchange) (t : Session) : Prop where
  calls : t.calls = s.calls ++ es.map (·.call)
  replay : s.services.replay (es.map (·.call)) = (es, t.services)

namespace Dialogue

variable {s t u : Session} {es ds : List Exchange}

theorem nil (hcalls : t.calls = s.calls) (hservices : t.services = s.services) :
    Dialogue s [] t := ⟨by simp [hcalls], by rw [hservices]; rfl⟩

theorem single {c : Call} {r : Except Fault Reply} (hcalls : t.calls = s.calls ++ [c])
    (hserve : s.services.serve c = (r, t.services)) : Dialogue s [⟨c, r⟩] t := by
  refine ⟨hcalls, ?_⟩
  rw [List.map_singleton, Services.replay, hserve]
  rfl

theorem trans (h₁ : Dialogue s es t) (h₂ : Dialogue t ds u) : Dialogue s (es ++ ds) u := by
  refine ⟨by rw [h₂.calls, h₁.calls, List.map_append, List.append_assoc], ?_⟩
  rw [List.map_append, Services.replay_append, h₁.replay, h₂.replay]

/-- What was exchanged is what the journal tells. -/
theorem method_mem {ms : List Method} (h : Dialogue s es t) (hcalls : Calls ms s t) :
    ∀ x ∈ es, x.call.method ∈ ms := by
  obtain ⟨cs, hcs, hin, -⟩ := hcalls
  rw [h.calls] at hcs
  rw [← List.append_cancel_left hcs] at hin
  exact fun x hx => hin x.call (List.mem_map_of_mem hx)

end Dialogue

/-! ## Steps -/

/-- The run of a step is a dialogue; `Q` holds of what was exchanged and of how the step ended. -/
def Action.Exchanges {ε α : Type} (x : Action Session ε α)
    (Q : List Exchange → Except ε α → Prop) (s : Session) : Prop :=
  ∃ es, Dialogue s es (x s).2 ∧ Q es (x s).1

namespace Action.Exchanges

variable {ε δ α β : Type} {P : List Exchange → Except ε α → Prop}
  {Q : List Exchange → Except ε β → Prop} {x : Action Session ε α} {s : Session}

theorem mono (hx : x.Exchanges P s) {P' : List Exchange → Except ε α → Prop}
    (h : ∀ es r, P es r → P' es r) : x.Exchanges P' s := by
  obtain ⟨es, hes, hp⟩ := hx
  exact ⟨es, hes, h es _ hp⟩

theorem pure {a : α} (h : P [] (.ok a)) : (Pure.pure a : Action Session ε α).Exchanges P s :=
  ⟨[], .nil rfl rfl, h⟩

theorem fail {e : ε} (h : P [] (.error e)) :
    (Action.fail e : Action Session ε α).Exchanges P s := ⟨[], .nil rfl rfl, h⟩

theorem ofExcept {r : Except ε α} (h : P [] r) :
    (Action.ofExcept r : Action Session ε α).Exchanges P s := ⟨[], .nil rfl rfl, h⟩

theorem note {level : Level} {message : String} {P : List Exchange → Except ε Unit → Prop}
    (h : P [] (.ok ())) : (Session.note level message : Action Session ε Unit).Exchanges P s :=
  ⟨[], .nil rfl rfl, h⟩

/-- What is done second may use what was exchanged first and what came of it. -/
theorem bind {f : α → Action Session ε β} (hx : x.Exchanges P s)
    (hfail : ∀ es e, P es (.error e) → Q es (.error e))
    (hf : ∀ es a t, x s = (.ok a, t) → P es (.ok a) →
      (f a).Exchanges (fun es' r => Q (es ++ es') r) t) : (x >>= f).Exchanges Q s := by
  obtain ⟨es, hes, hp⟩ := hx
  rcases hxs : x s with ⟨e | a, t⟩ <;> rw [hxs] at hes hp
  · rw [Exchanges, Action.bind_of_error hxs]
    exact ⟨es, hes, hfail es e hp⟩
  · rw [Exchanges, Action.bind_of_ok hxs]
    obtain ⟨es', hes', hq⟩ := hf es a t hxs hp
    exact ⟨es ++ es', hes.trans hes', hq⟩

theorem resume {f : Except ε α → Action Session δ β} {Q : List Exchange → Except δ β → Prop}
    (hx : x.Exchanges P s)
    (hf : ∀ es r t, P es r → (f r).Exchanges (fun es' r' => Q (es ++ es') r') t) :
    (Action.resume x f).Exchanges Q s := by
  obtain ⟨es, hes, hp⟩ := hx
  obtain ⟨es', hes', hq⟩ := hf es _ (x s).2 hp
  rw [Exchanges, Action.resume_apply]
  exact ⟨es ++ es', hes.trans hes', hq⟩

theorem mapError {f : ε → δ} {Q : List Exchange → Except δ α → Prop}
    (hx : x.Exchanges (fun es r => Q es (r.mapError f)) s) :
    (Action.mapError f x).Exchanges Q s := by
  rw [Exchanges, Action.mapError_apply]
  exact hx

/-- Messages are passed silently. -/
theorem note_bind {level : Level} {message : String} {f : Unit → Action Session ε β}
    (hf : ∀ t, (f ()).Exchanges Q t) : (Session.note level message >>= f).Exchanges Q s := by
  obtain ⟨es, hes, hq⟩ := hf { s with log := s.log ++ [⟨level, message⟩] }
  exact ⟨es, ⟨hes.calls, hes.replay⟩, hq⟩

end Action.Exchanges

/-! ## Remote calls -/

namespace Remote

variable {s : Session}

/-- The exchange of a call that ended with `r`, of which `wrap` is the reply. -/
def Asked {α : Type} (c : Call) (wrap : α → Reply) (es : List Exchange) (r : Except Fault α) :
    Prop :=
  es = [⟨c, r.map wrap⟩]

/-- The exchange that opens a client, or none where the client is open. -/
def Opened (c : Call) (es : List Exchange) (r : Except Fault Unit) : Prop :=
  es = [] ∧ r = .ok () ∨ Asked c (fun _ => .done) es r

theorem map_apply {α β : Type} (f : α → β) (x : Remote α) (s : Session) :
    (f <$> x) s = ((x s).1.map f, (x s).2) := by
  show (x >>= fun a => pure (f a)) s = _
  rcases hx : x s with ⟨e | a, t⟩
  · rw [Action.bind_of_error hx]
    rfl
  · rw [Action.bind_of_ok hx]
    rfl

/-- A call that the services answer by themselves as they answer it here. -/
theorem exchanges_of_serve {α : Type} {x : Remote α} {c : Call} {wrap : α → Reply}
    (hcalls : (x s).2.calls = s.calls ++ [c])
    (hserve : s.services.serve c = ((x s).1.map wrap, (x s).2.services)) :
    x.Exchanges (Asked c wrap) s :=
  ⟨_, .single hcalls hserve, rfl⟩

theorem serve_eq {α : Type} {x : Remote α} {c : Call} {wrap : α → Reply} (hask : c.ask = wrap <$> x)
    (w : Services) : w.serve c = ((x w.bare).1.map wrap, (x w.bare).2.services) := by
  rw [Services.serve, hask, map_apply]

/-- A call that changes nothing but the journal and the schedule. -/
theorem exchanges_of_read {α : Type} {x : Remote α} {c : Call} {wrap : α → Reply}
    {r : Session → Except Fault α} (hx : ∀ s, x s = (r s, s.announced c))
    (hask : c.ask = wrap <$> x) (hr : ∀ s, r s.services.bare = r s) :
    x.Exchanges (Asked c wrap) s := by
  refine exchanges_of_serve ?_ ?_
  · rw [hx]
    rfl
  · rw [serve_eq hask, hx, hx, hr]
    rfl

theorem lookupBucket_exchanges (name : Value) :
    (lookupBucket name).Exchanges (Asked (.lookupBucket name) .bucket) s :=
  exchanges_of_read (lookupBucket_apply name) rfl fun _ => rfl

theorem getBucket_exchanges (name : Value) :
    (getBucket name).Exchanges (Asked (.getBucket name) fun b => .bucket (some b)) s :=
  exchanges_of_read (getBucket_apply name) rfl fun _ => rfl

theorem createBucket_exchanges (name location storageClass : Value) :
    (createBucket name location storageClass).Exchanges
      (Asked (.createBucket name location storageClass) fun b => .bucket (some b)) s := by
  refine exchanges_of_serve ?_ ?_
  · rw [createBucket_apply]
    split <;> rfl
  · rw [serve_eq rfl, createBucket_apply, createBucket_apply, Services.bare_fault?,
      Services.bare_cloud]
    split <;> rfl

theorem listObjects_exchanges (name : Value) (limit : Nat) :
    (listObjects name limit).Exchanges (Asked (.listObjects name limit) .objects) s :=
  exchanges_of_read (listObjects_apply name limit) rfl fun _ => rfl

theorem getPolicy_exchanges (bucket : Value) (version : Nat) :
    (getPolicy bucket version).Exchanges (Asked (.getPolicy bucket version) .policy) s :=
  exchanges_of_read (getPolicy_apply bucket version) rfl fun _ => rfl

theorem setPolicy_exchanges (bucket : Value) (bindings : List Binding) :
    (setPolicy bucket bindings).Exchanges
      (Asked (.setPolicy bucket bindings) fun _ => .done) s := by
  refine exchanges_of_serve ?_ ?_
  · rw [setPolicy_apply]
    split <;> rfl
  · rw [serve_eq rfl, setPolicy_apply, setPolicy_apply, Services.bare_fault?]
    split <;> rfl

/-! A project is known to the services by its full name. -/

theorem display_projectOf (project : Value) :
    (projectOf (projectName project)).display = project.display := by
  have hname : (projectName project).toList = "projects/".toList ++ project.display.toList :=
    String.toList_append
  rw [projectOf, hname]
  exact String.ofList_toList

theorem projectName_projectOf (project : Value) :
    projectName (projectOf (projectName project)) = projectName project := by
  rw [projectName, display_projectOf, ← projectName]

theorem listAccounts_projectOf (project : Value) :
    listAccounts (projectOf (projectName project)) = listAccounts project := by
  rw [listAccounts, projectName_projectOf, ← listAccounts]

theorem createAccount_projectOf (project : Value) (id description : String) :
    createAccount (projectOf (projectName project)) id description =
      createAccount project id description := by
  have hemail : accountEmail id (projectOf (projectName project)) = accountEmail id project := by
    rw [accountEmail, display_projectOf, ← accountEmail]
  have hname : ∀ email, accountName (projectOf (projectName project)) email =
      accountName project email := fun email => by
    rw [accountName, display_projectOf, ← accountName]
  simp only [createAccount, projectName_projectOf, hemail, hname]

theorem listAccounts_exchanges (project : Value) :
    (listAccounts project).Exchanges (Asked (.listAccounts (projectName project)) .accounts) s := by
  refine exchanges_of_read (listAccounts_apply project) ?_ fun _ => rfl
  rw [Call.ask, listAccounts_projectOf]

theorem createAccount_exchanges (project : Value) (id description : String) :
    (createAccount project id description).Exchanges
      (Asked (.createAccount (projectName project) id id description) .account) s := by
  have hask : (Call.createAccount (projectName project) id id description).ask =
      .account <$> createAccount project id description := by
    rw [Call.ask, createAccount_projectOf]
  refine exchanges_of_serve ?_ ?_
  · rw [createAccount_apply]
    split <;> rfl
  · rw [serve_eq hask, createAccount_apply, createAccount_apply, Services.bare_fault?,
      Services.bare_cloud]
    split <;> rfl

theorem getAccount_exchanges (name : String) :
    (getAccount name).Exchanges (Asked (.getAccount name) .account) s :=
  exchanges_of_read (getAccount_apply name) rfl fun _ => rfl

theorem deleteAccount_exchanges (name : Value) :
    (deleteAccount name).Exchanges (Asked (.deleteAccount name) fun _ => .done) s := by
  refine exchanges_of_serve ?_ ?_
  · rw [deleteAccount_apply]
    split <;> rfl
  · rw [serve_eq rfl, deleteAccount_apply, deleteAccount_apply, Services.bare_fault?,
      Services.bare_cloud]
    split <;> rfl

theorem issueToken_exchanges (name : String) (scopes : List String) (lifetime : Int) :
    (issueToken name scopes lifetime).Exchanges
      (Asked (.issueToken name scopes lifetime) fun t => .token t.1 t.2) s := by
  refine exchanges_of_serve ?_ ?_
  · rw [issueToken_apply]
    split <;> rfl
  · rw [serve_eq rfl, issueToken_apply, issueToken_apply, Services.bare_fault?]
    split <;> rfl

theorem begin_serve {c : Call} (hask : c.ask = (fun _ => .done) <$> begin c) (s : Session) :
    s.services.serve c = ((begin c s).1.map fun _ => .done, (begin c s).2.services) := by
  rw [serve_eq hask, begin_apply, begin_apply, Services.bare_fault?]
  rfl

theorem openLink_exchanges (isOpen : Links → Bool) {c : Call}
    (hask : c.ask = (fun _ => .done) <$> begin c) (change : Links → Links) :
    (do
      let l ← .read links
      if isOpen l then pure ()
      else
        begin c
        changeLinks change : Remote Unit).Exchanges (Opened c) s := by
  have hserve := begin_serve hask s
  rw [begin_apply] at hserve
  rw [Action.Exchanges, openLink_apply isOpen rfl]
  split
  · exact ⟨[], .nil rfl rfl, Or.inl ⟨rfl, rfl⟩⟩
  · rcases hf : s.fault? c.method with _ | f <;> rw [hf] at hserve
    · exact ⟨_, .single rfl hserve, Or.inr rfl⟩
    · exact ⟨_, .single rfl hserve, Or.inr rfl⟩

theorem openStorage_exchanges (project : Value) (credentials : Credentials) :
    (openStorage project credentials).Exchanges (Opened (.openStorage project credentials)) s :=
  openLink_exchanges _ rfl _

theorem openIdentity_exchanges (credentials : Credentials) :
    (openIdentity credentials).Exchanges (Opened (.openIdentity credentials)) s :=
  openLink_exchanges _ rfl _

theorem openIssuer_exchanges (credentials : Credentials) :
    (openIssuer credentials).Exchanges (Opened (.openIssuer credentials)) s :=
  openLink_exchanges _ rfl _

end Remote

/-! ## The search for credentials -/

/-- A call in search of credentials leaves what the services hold as it is. -/
theorem Services.serve_searching {c : Call} (hc : c.method ∈ Source.methods) (s : Session) :
    (s.services.serve c).2 = (s.announced c).services := by
  cases c with
  | openSecrets =>
    rw [Remote.begin_serve rfl, Remote.begin_apply]
  | readSecret name =>
    rw [Remote.serve_eq rfl, Remote.readSecret_apply]
    rfl
  | loadKeyFile info scopes =>
    rw [Remote.serve_eq rfl, Remote.loadKeyFile_apply]
    rfl
  | findDefault scopes file =>
    rw [Remote.serve_eq rfl, Remote.begin_apply]
    rfl
  | _ => simp [Call.method, Source.methods] at hc

/-- Two sessions between which only calls in search of credentials were made. -/
def Searching (s t : Session) : Prop :=
  ∃ es, Dialogue s es t ∧ ∀ x ∈ es, x.call.method ∈ Source.methods

theorem Searching.of_services {s t : Session} (hcalls : t.calls = s.calls)
    (hservices : t.services = s.services) : Searching s t :=
  ⟨[], .nil hcalls hservices, fun _ hx => absurd hx List.not_mem_nil⟩

theorem searching_permits : Permits Searching Source.methods where
  refl _ := .of_services rfl rfl
  trans := by
    rintro s t u ⟨es, hes, hin⟩ ⟨ds, hds, hin'⟩
    exact ⟨es ++ ds, hes.trans hds, fun x hx => (List.mem_append.1 hx).elim (hin x) (hin' x)⟩
  log _ _ _ := .of_services rfl rfl
  call s c hc := by
    refine ⟨_, .single rfl (Prod.ext rfl (Services.serve_searching hc s)), fun x hx => ?_⟩
    rw [List.mem_singleton.1 hx]
    exact hc

theorem Address.credentials_searching (order : List Source) (a : Address) :
    (a.credentials order).Along Searching :=
  Address.credentials_along searching_permits (fun _ => .of_services rfl rfl)
    (fun _ _ _ => .of_services rfl rfl) order a

end TransferBucket
