import TransferBucket.Proofs.Coupling
import TransferBucket.Proofs.Sources

/-!
# Two runs in step

Two runs of the program, in sessions that differ only in texts behind keys of the vault and in
credentials. What holds of the one run then holds of the other, step by step.

**Interchange** (`Interchange`). Which keys may be asked for, and which texts may be exchanged for
each other behind a key. A text that is empty is exchanged only for one that is empty, because the
program asks whether a text is.

**Alike sessions** (`Session.Alike`). All that can be seen of the sessions is the same: accounts,
buckets, tokens, plans, variables, links, messages, and the calls without what they hand over of
credentials (`Call.redacted`). Behind the keys that may be asked for, stored or remembered, are
texts that may be exchanged.

**Numbers of tokens** (`Session.AlikeUpTo`). Nothing looks at the number of tokens issued but the
service that issues them. So the sessions may differ in this number too, as long as a relation
holds between the two numbers that lasts when one more token is issued in both.

**Steps in step** (`Action.Paired`, `Action.InStep`). In alike sessions two actions end alike, with
related values or with the same error, and lead to alike sessions. What works on buckets and
accounts looks at no text and no credentials, so it is in step with itself whatever credentials it
is given.
-/

namespace TransferBucket

open Session

/-! ## Interchange -/

/-- Texts that may be exchanged for each other behind the keys of the vault. -/
structure Interchange where
  /-- The project whose secrets the vault keeps. -/
  project : Value
  /-- The names of the secrets that may differ. -/
  hidden : String → Bool
  /-- The keys that may be asked for. -/
  asked : Value → Prop
  /-- The texts that may be exchanged behind a key. -/
  alike : Value → String → String → Prop
  refl : ∀ key text, alike key text text
  empty : ∀ {key c c'}, alike key c c' → (c = "" ↔ c' = "")
  congr : ∀ {key key' c c'}, asked key → asked key' → Value.sameKey key key' → alike key c c' →
    alike key' c c'

/-- Bytes that hold texts that may be exchanged, or the same fault. -/
def Interchange.BytesAlike (X : Interchange) (key : Value) (bytes bytes' : List UInt8) : Prop :=
  EndAlike (fun cs cs' => X.alike key (String.ofList cs) (String.ofList cs')) (Utf8.decode bytes)
    (Utf8.decode bytes')

/-! ## Alike sessions -/

/-- A call without what it hands over of credentials. -/
def Call.redacted : Call → Call
  | .openStorage project _ => .openStorage project .direct
  | .openIdentity _ => .openIdentity .direct
  | .openIssuer _ => .openIssuer .direct
  | .loadKeyFile _ scopes => .loadKeyFile .null scopes
  | c => c

theorem Call.method_redacted (c : Call) : c.redacted.method = c.method := by cases c <;> rfl

theorem Call.method_eq_of_redacted {c c' : Call} (h : c.redacted = c'.redacted) :
    c.method = c'.method := by
  rw [← c.method_redacted, h, c'.method_redacted]

/-- Two sessions that differ only in credentials and in texts that may be exchanged. -/
structure Session.Alike (X : Interchange) (s t : Session) : Prop where
  cloud : t.cloud = { s.cloud with secrets := t.cloud.secrets }
  secrets : (t.cloud.secrets.filter fun e => !X.hidden e.1) =
    s.cloud.secrets.filter fun e => !X.hidden e.1
  schedule : t.schedule = s.schedule
  environment : t.environment = s.environment
  links : t.links = s.links
  log : t.log = s.log
  kind : t.vault.kind = s.vault.kind
  project : ∀ p environmentFirst, s.vault.kind = .secrets p environmentFirst → p = X.project
  isOpen : t.vault.isOpen = s.vault.isOpen
  calls : t.calls.map Call.redacted = s.calls.map Call.redacted
  remembered : ∀ key, X.asked key →
    Option.Rel (X.alike key) (Vault.remembered? s.vault key) (Vault.remembered? t.vault key)
  stored : ∀ key, X.asked key → Option.Rel (X.BytesAlike key)
    (s.cloud.secret? (Vault.secretName X.project key))
    (t.cloud.secret? (Vault.secretName X.project key))

namespace Session.Alike

variable {X : Interchange} {s t : Session}

theorem plan?_eq (h : s.Alike X t) (m : Method) : t.plan? m = s.plan? m := by
  rw [plan?, h.schedule, plan?]

theorem bucket?_eq (h : s.Alike X t) (name : Value) :
    t.cloud.bucket? name = s.cloud.bucket? name := by
  rw [h.cloud]
  rfl

theorem account?_eq (h : s.Alike X t) (name : String) :
    t.cloud.account? name = s.cloud.account? name := by
  rw [h.cloud]
  rfl

/-- Sessions stay alike when the clouds change without regard to secrets. -/
theorem changeCloud (h : s.Alike X t) {f : Cloud → Cloud}
    (hf : ∀ c secrets, f { c with secrets } = { f c with secrets }) :
    { s with cloud := f s.cloud }.Alike X { t with cloud := f t.cloud } := by
  have hkept : ∀ c : Cloud, (f c).secrets = c.secrets := fun c => by
    have h := congrArg Cloud.secrets (hf c c.secrets)
    exact h
  refine { h with cloud := ?_, secrets := ?_, stored := fun key hkey => ?_ }
  · change f t.cloud = { f s.cloud with secrets := (f t.cloud).secrets }
    rw [hkept, ← hf, ← h.cloud]
  · simp only [hkept]
    exact h.secrets
  · have hstored := h.stored key hkey
    simp only [Cloud.secret?] at hstored
    simp only [Cloud.secret?, hkept]
    exact hstored

end Session.Alike

/-! ## Numbers of tokens -/

/-- A session as if so many tokens had been issued. -/
def Session.recounted (s : Session) (n : Nat) : Session :=
  { s with cloud := { s.cloud with tokensIssued := n } }

/-- Two sessions that are alike but for the numbers of tokens issued, which are related. -/
structure Session.AlikeUpTo (N : Nat → Nat → Prop) (X : Interchange) (s t : Session) : Prop where
  alike : s.Alike X (t.recounted s.cloud.tokensIssued)
  numbers : N s.cloud.tokensIssued t.cloud.tokensIssued

namespace Session.AlikeUpTo

variable {N : Nat → Nat → Prop} {X : Interchange} {s t : Session}

theorem eq_iff : s.AlikeUpTo Eq X t ↔ s.Alike X t := by
  have hself : t.recounted t.cloud.tokensIssued = t := rfl
  constructor
  · intro h
    have halike := h.alike
    rw [h.numbers, hself] at halike
    exact halike
  · intro h
    have hnumber : s.cloud.tokensIssued = t.cloud.tokensIssued :=
      (congrArg Cloud.tokensIssued h.cloud).symm
    refine ⟨?_, hnumber⟩
    rw [hnumber, hself]
    exact h

theorem plan?_eq (h : s.AlikeUpTo N X t) (m : Method) : t.plan? m = s.plan? m := h.alike.plan?_eq m

theorem environment_eq (h : s.AlikeUpTo N X t) : t.environment = s.environment :=
  h.alike.environment

theorem bucket?_eq (h : s.AlikeUpTo N X t) (name : Value) :
    t.cloud.bucket? name = s.cloud.bucket? name := h.alike.bucket?_eq name

theorem account?_eq (h : s.AlikeUpTo N X t) (name : String) :
    t.cloud.account? name = s.cloud.account? name := h.alike.account?_eq name

theorem accounts_eq (h : s.AlikeUpTo N X t) : t.cloud.accounts = s.cloud.accounts := by
  have hcloud := congrArg Cloud.accounts h.alike.cloud
  exact hcloud

theorem tokenEnd_eq (h : s.AlikeUpTo N X t) : t.cloud.tokenEnd = s.cloud.tokenEnd := by
  have hcloud := congrArg Cloud.tokenEnd h.alike.cloud
  exact hcloud

/-- Sessions stay alike when the clouds change without regard to secrets and numbers. -/
theorem changeCloud (h : s.AlikeUpTo N X t) {f : Cloud → Cloud}
    (hsecrets : ∀ c secrets, f { c with secrets } = { f c with secrets })
    (hnumber : ∀ c n, f { c with tokensIssued := n } = { f c with tokensIssued := n }) :
    { s with cloud := f s.cloud }.AlikeUpTo N X { t with cloud := f t.cloud } := by
  have hkept : ∀ c : Cloud, (f c).tokensIssued = c.tokensIssued := fun c => by
    have hc := congrArg Cloud.tokensIssued (hnumber c c.tokensIssued)
    exact hc
  have hrecounted : f { t.cloud with tokensIssued := s.cloud.tokensIssued } =
      { f t.cloud with tokensIssued := (f s.cloud).tokensIssued } := by rw [hnumber, hkept]
  refine ⟨?_, ?_⟩
  · have halike := h.alike.changeCloud hsecrets
    dsimp only [recounted] at halike
    rw [hrecounted] at halike
    exact halike
  · dsimp only
    rw [hkept, hkept]
    exact h.numbers

/-- Sessions stay alike when a token is issued in both. -/
theorem issue (hN : ∀ n n', N n n' → N (n + 1) (n' + 1)) (h : s.AlikeUpTo N X t) :
    { s with cloud := { s.cloud with tokensIssued := s.cloud.tokensIssued + 1 } }.AlikeUpTo N X
      { t with cloud := { t.cloud with tokensIssued := t.cloud.tokensIssued + 1 } } where
  alike := h.alike.changeCloud (f := fun c => { c with tokensIssued := c.tokensIssued + 1 })
    fun _ _ => rfl
  numbers := hN _ _ h.numbers

end Session.AlikeUpTo

/-! ## Steps in step -/

/-- In sessions that are alike up to the numbers of tokens, two actions end alike and lead to such
sessions. -/
abbrev Action.Paired (N : Nat → Nat → Prop) (X : Interchange) {ε α β : Type} (Q : α → β → Prop)
    (x : Action Session ε α) (y : Action Session ε β) : Prop :=
  Action.Coupled (Session.AlikeUpTo N X) Q x y

/-- In alike sessions two actions end alike and lead to alike sessions. -/
def Action.InStep (X : Interchange) {ε α β : Type} (Q : α → β → Prop) (x : Action Session ε α)
    (y : Action Session ε β) : Prop :=
  ∀ s t, s.Alike X t → EndAlike Q (x s).1 (y t).1 ∧ (x s).2.Alike X (y t).2

/-- An action in step with another, with the same values. -/
abbrev Action.Together (X : Interchange) {ε α : Type} (x y : Action Session ε α) : Prop :=
  Action.InStep X Eq x y

/-- Where the numbers of tokens are the same, sessions are alike without more. -/
theorem Action.Paired.inStep {X : Interchange} {ε α β : Type} {Q : α → β → Prop}
    {x : Action Session ε α} {y : Action Session ε β} (h : Paired Eq X Q x y) :
    InStep X Q x y := by
  intro s t hst
  obtain ⟨hend, hnext⟩ := h s t (Session.AlikeUpTo.eq_iff.2 hst)
  exact ⟨hend, Session.AlikeUpTo.eq_iff.1 hnext⟩

namespace Action.Paired

variable {N : Nat → Nat → Prop} {X : Interchange} {ε δ α γ κ : Type} {P : γ → κ → Prop}
  {x y : Action Session ε α}

theorem bind {f : α → Action Session ε γ} {g : α → Action Session ε κ} (hx : Paired N X Eq x y)
    (hf : ∀ a, Paired N X P (f a) (g a)) : Paired N X P (x >>= f) (y >>= g) := Steady.bind hx hf

theorem resume {f : Except ε α → Action Session δ γ} {g : Except ε α → Action Session δ κ}
    (hx : Paired N X Eq x y) (hf : ∀ r, Paired N X P (f r) (g r)) :
    Paired N X P (Action.resume x f) (Action.resume y g) := Steady.resume hx hf

theorem read {f : Session → α} (h : ∀ s t, s.AlikeUpTo N X t → f t = f s) :
    Paired N X Eq (Action.read f : Action Session ε α) (Action.read f) := Steady.read h

theorem mapError (hx : Paired N X Eq x y) (f : ε → δ) :
    Paired N X Eq (Action.mapError f x) (Action.mapError f y) := Coupled.mapError hx f

theorem ofExcept (r : Except ε α) : Paired N X Eq (Action.ofExcept r) (Action.ofExcept r) :=
  Steady.ofExcept r

theorem note (level : Level) (message : String) :
    Paired N X Eq (Session.note level message : Action Session ε Unit)
      (Session.note level message) := by
  intro s t hst
  have hlog : t.log ++ [⟨level, message⟩] = s.log ++ [⟨level, message⟩] :=
    congrArg (· ++ _) hst.alike.log
  exact ⟨.ok rfl, { hst.alike with log := hlog }, hst.numbers⟩

theorem changeLinks (f : Links → Links) :
    Paired N X Eq (Session.changeLinks f : Action Session ε Unit) (Session.changeLinks f) := by
  intro s t hst
  have hlinks : f t.links = f s.links := congrArg f hst.alike.links
  exact ⟨.ok rfl, { hst.alike with links := hlinks }, hst.numbers⟩

theorem changeCloud {f : Cloud → Cloud}
    (hsecrets : ∀ c secrets, f { c with secrets } = { f c with secrets })
    (hnumber : ∀ c n, f { c with tokensIssued := n } = { f c with tokensIssued := n }) :
    Paired N X Eq (Session.changeCloud f : Action Session ε Unit) (Session.changeCloud f) :=
  fun _ _ hst => ⟨.ok rfl, hst.changeCloud hsecrets hnumber⟩

/-- Calls that differ only in credentials are announced in step. -/
theorem announce {c c' : Call} (h : c.redacted = c'.redacted) :
    Paired N X Eq (Session.announce c : Action Session ε (Option Plan)) (Session.announce c') := by
  intro s t hst
  have hmethod := Call.method_eq_of_redacted h
  rw [announce_eq, announce_eq, ← hmethod, hst.plan?_eq]
  refine ⟨.ok rfl, { hst.alike with schedule := ?_, calls := ?_ }, hst.numbers⟩
  · change t.schedule.drop c'.method = s.schedule.drop c.method
    rw [hmethod]
    exact congrArg (·.drop c'.method) hst.alike.schedule
  · change (t.calls ++ [c']).map Call.redacted = (s.calls ++ [c]).map Call.redacted
    rw [List.map_append, List.map_append, List.map_singleton, List.map_singleton, h]
    exact congrArg (· ++ [c'.redacted]) hst.alike.calls

end Action.Paired

open TransferBucket.Action

/-! ## Remote calls -/

/-- Texts of tokens whose numbers are related. -/
def Remote.TextsAlike (N : Nat → Nat → Prop) (text text' : String) : Prop :=
  ∃ n m, N n m ∧ text = s!"issued-{n}" ∧ text' = s!"issued-{m}"

/-- Tokens that end at the same time, and whose numbers are related. -/
def AccessToken.AlikeUpTo (N : Nat → Nat → Prop) (t t' : AccessToken) : Prop :=
  Remote.TextsAlike N t.secret t'.secret ∧ t.expiration = t'.expiration

namespace Remote

variable {N : Nat → Nat → Prop} {X : Interchange}

theorem begin_paired {c c' : Call} (h : c.redacted = c'.redacted) :
    Paired N X Eq (begin c) (begin c') := by
  refine (Paired.announce h).bind fun plan => ?_
  rcases plan with _ | f | _ | ⟨n, f⟩
  · exact .pure rfl
  · exact .fail f
  · exact .pure rfl
  · exact .fail f

/-- The clients of the links are opened in step, whatever credentials they are given. -/
theorem openLink_paired (isOpen : Links → Bool) (c c' : Call) (h : c.redacted = c'.redacted)
    (change : Links → Links) :
    Paired N X Eq
      (do
        let l ← .read links
        if isOpen l then pure ()
        else
          begin c
          changeLinks change : Remote Unit)
      (do
        let l ← .read links
        if isOpen l then pure ()
        else
          begin c'
          changeLinks change) := by
  refine (Paired.read fun s t hst => hst.alike.links).bind fun links => ?_
  split
  · exact .pure rfl
  · exact (begin_paired h).bind fun _ => .changeLinks _

section Clients

variable (cr cr' : Credentials)

theorem openStorage_paired (project : Value) :
    Paired N X Eq (openStorage project cr) (openStorage project cr') :=
  openLink_paired (·.storage) (.openStorage project cr) (.openStorage project cr') rfl _

theorem openIdentity_paired : Paired N X Eq (openIdentity cr) (openIdentity cr') :=
  openLink_paired (·.identity) (.openIdentity cr) (.openIdentity cr') rfl _

theorem openIssuer_paired : Paired N X Eq (openIssuer cr) (openIssuer cr') :=
  openLink_paired (·.issuer) (.openIssuer cr) (.openIssuer cr') rfl _

end Clients

theorem lookupBucket_paired (name : Value) :
    Paired N X Eq (lookupBucket name) (lookupBucket name) := by
  refine (Paired.announce rfl).bind fun plan => ?_
  rcases plan with _ | f | _ | ⟨n, f⟩
  · exact Paired.read fun s t hst => hst.bucket?_eq name
  · exact .fail f
  · exact .pure rfl
  · exact .fail f

theorem getBucket_paired (name : Value) : Paired N X Eq (getBucket name) (getBucket name) := by
  refine (begin_paired rfl).bind fun _ => ?_
  refine (Paired.read fun s t hst => hst.bucket?_eq name).bind fun b? => ?_
  cases b? with
  | none => exact .fail _
  | some b => exact .pure rfl

theorem createBucket_paired (name location storageClass : Value) :
    Paired N X Eq (createBucket name location storageClass)
      (createBucket name location storageClass) := by
  refine (begin_paired rfl).bind fun _ => ?_
  refine (Paired.read fun s t hst => hst.bucket?_eq name).bind fun b? => ?_
  cases b? with
  | none => exact (Paired.changeCloud (fun _ _ => rfl) fun _ _ => rfl).bind fun _ => .pure rfl
  | some b => exact .fail _

theorem listObjects_paired (name : Value) (limit : Nat) :
    Paired N X Eq (listObjects name limit) (listObjects name limit) := by
  refine (Paired.announce rfl).bind fun plan => ?_
  rcases plan with _ | f | _ | ⟨n, f⟩
  · refine (Paired.read fun s t hst => hst.bucket?_eq name).bind fun b? => ?_
    cases b? with
    | none => exact .fail _
    | some b => exact .pure rfl
  · exact .fail f
  · exact .pure rfl
  · exact Paired.read fun s t hst => by rw [hst.bucket?_eq]

theorem getPolicy_paired (bucket : Value) (version : Nat) :
    Paired N X Eq (getPolicy bucket version) (getPolicy bucket version) := by
  refine (begin_paired rfl).bind fun _ => ?_
  exact Paired.read fun s t hst => by rw [hst.bucket?_eq]

theorem setPolicy_paired (bucket : Value) (bindings : List Binding) :
    Paired N X Eq (setPolicy bucket bindings) (setPolicy bucket bindings) :=
  (begin_paired rfl).bind fun _ => .changeCloud (fun _ _ => rfl) fun _ _ => rfl

theorem listAccounts_paired (project : Value) :
    Paired N X Eq (listAccounts project) (listAccounts project) := by
  refine (Paired.announce rfl).bind fun plan => ?_
  rcases plan with _ | f | _ | ⟨n, f⟩
  · exact Paired.read fun s t hst => by rw [hst.accounts_eq]
  · exact .fail f
  · exact .pure rfl
  · exact Paired.read fun s t hst => by rw [hst.accounts_eq]

theorem createAccount_paired (project : Value) (id description : String) :
    Paired N X Eq (createAccount project id description) (createAccount project id description) := by
  refine (begin_paired rfl).bind fun _ => ?_
  refine (Paired.read fun s t hst => hst.account?_eq _).bind fun a? => ?_
  cases a? with
  | none => exact (Paired.changeCloud (fun _ _ => rfl) fun _ _ => rfl).bind fun _ => .pure rfl
  | some a => exact .fail _

theorem getAccount_paired (name : String) : Paired N X Eq (getAccount name) (getAccount name) := by
  refine (begin_paired rfl).bind fun _ => ?_
  refine (Paired.read fun s t hst => hst.account?_eq name).bind fun a? => ?_
  cases a? with
  | none => exact .fail _
  | some a => exact .pure rfl

theorem deleteAccount_paired (name : Value) :
    Paired N X Eq (deleteAccount name) (deleteAccount name) := by
  refine (begin_paired rfl).bind fun _ => ?_
  have hfound : ∀ s t : Session, s.AlikeUpTo N X t →
      name.text?.bind t.cloud.account? = name.text?.bind s.cloud.account? := fun s t hst => by
    rw [funext hst.account?_eq]
  refine (Paired.read hfound).bind fun a? => ?_
  cases a? with
  | none => exact .fail _
  | some a => exact .changeCloud (fun _ _ => rfl) fun _ _ => rfl

/-- A token is issued in step, up to its text. -/
theorem issueToken_paired (hN : ∀ n n', N n n' → N (n + 1) (n' + 1)) (name : String)
    (scopes : List String) (lifetime : Int) :
    Paired N X (fun r r' => TextsAlike N r.1 r'.1 ∧ r.2 = r'.2) (issueToken name scopes lifetime)
      (issueToken name scopes lifetime) := by
  have hissue : Paired N X Eq
      (changeCloud fun c => { c with tokensIssued := c.tokensIssued + 1 } : Remote Unit)
      (changeCloud fun c => { c with tokensIssued := c.tokensIssued + 1 }) :=
    Coupled.modify fun s t hst => hst.issue hN
  refine (begin_paired rfl).bind fun _ => hissue.bind fun _ => ?_
  exact Coupled.read fun s t hst => ⟨⟨_, _, hst.numbers, rfl, rfl⟩, hst.tokenEnd_eq.symm⟩

/-- The default credentials are looked for in step. -/
theorem findDefault_paired (scopes : List String) :
    Paired N X Eq (findDefault scopes) (findDefault scopes) := by
  refine (Paired.read fun s t hst => by rw [hst.environment_eq]).bind fun file => ?_
  exact (begin_paired rfl).bind fun _ => .pure rfl

/-- Key files are loaded in step, whatever they hold. -/
theorem loadKeyFile_paired (contents contents' : Value) (scopes : List String) :
    Paired N X (fun _ _ => True) (loadKeyFile contents scopes) (loadKeyFile contents' scopes) := by
  have hbegin : Paired N X Eq (begin (.loadKeyFile contents scopes))
      (begin (.loadKeyFile contents' scopes)) := begin_paired rfl
  exact hbegin.bind fun _ => .pure trivial

end Remote

/-! ## Steps on buckets and accounts -/

section Steps

variable {N : Nat → Nat → Prop} {X : Interchange} (cr cr' : Credentials)

namespace Storage

theorem getOrCreate_paired (project name location storageClass : Value) :
    Paired N X Eq (getOrCreate cr project name location storageClass)
      (getOrCreate cr' project name location storageClass) := by
  have hlook : Paired N X Eq
      (do Remote.openStorage project cr; Remote.lookupBucket name : Remote (Option Bucket))
      (do Remote.openStorage project cr'; Remote.lookupBucket name) :=
    (Remote.openStorage_paired cr cr' project).bind fun _ => Remote.lookupBucket_paired name
  refine (hlook.mapError _).bind fun found => ?_
  cases found with
  | some b => exact (Paired.note _ _).bind fun _ => .pure rfl
  | none =>
    refine (Remote.createBucket_paired _ _ _).resume fun r => ?_
    match r with
    | .ok b =>
      exact (Paired.ofExcept _).bind fun _ =>
        (Paired.note _ _).bind fun _ => .pure rfl
    | .error f =>
      dsimp only
      split
      · exact (Paired.note _ _).bind fun _ =>
          ((Remote.getBucket_paired name).mapError _).bind fun _ => .pure rfl
      · exact .fail _

theorem isEmpty_paired (project name : Value) :
    Paired N X Eq (isEmpty cr project name) (isEmpty cr' project name) := by
  refine Paired.mapError ?_ _
  refine (Remote.openStorage_paired cr cr' project).bind fun _ => ?_
  refine (Remote.listObjects_paired name 1).bind fun listing => ?_
  obtain ⟨_ | ⟨o, os⟩, _ | f⟩ := listing
  · exact .pure rfl
  · exact .fail f
  · exact .pure rfl
  · exact .pure rfl

theorem grant_paired (bucket : Value) (email : String) :
    Paired N X Eq (grant bucket email) (grant bucket email) := by
  refine ((Remote.getPolicy_paired bucket _).mapError _).bind fun bindings => ?_
  refine (Paired.ofExcept _).bind fun granted => ?_
  exact ((Remote.setPolicy_paired bucket granted).mapError _).bind fun _ => .note _ _

end Storage

namespace Identity

theorem find?_paired (project : Value) (description : String) :
    Paired N X Eq (find? cr project description) (find? cr' project description) := by
  refine Paired.mapError ?_ _
  refine (Remote.openIdentity_paired cr cr').bind fun _ => ?_
  refine (Remote.listAccounts_paired project).bind fun listing => ?_
  split
  · exact .pure rfl
  · split
    · exact .fail _
    · exact .pure rfl

theorem takeExisting_paired (project : Value) (id description : String) :
    Paired N X Eq (takeExisting cr project id description)
      (takeExisting cr' project id description) := by
  have hget : Paired N X Eq
      (do Remote.openIdentity cr
          Remote.getAccount (Remote.accountName project (Remote.accountEmail id project)))
      (do Remote.openIdentity cr'
          Remote.getAccount (Remote.accountName project (Remote.accountEmail id project))) :=
    (Remote.openIdentity_paired cr cr').bind fun _ => Remote.getAccount_paired _
  refine (hget.mapError _).bind fun a => ?_
  split
  · exact (Paired.note _ _).bind fun _ => .pure rfl
  · exact .fail _

theorem getOrCreate_paired (project : Value) (id description : String) :
    Paired N X Eq (getOrCreate cr project id description)
      (getOrCreate cr' project id description) := by
  refine (find?_paired cr cr' project description).bind fun a? => ?_
  cases a? with
  | some a => exact (Paired.note _ _).bind fun _ => .pure rfl
  | none =>
    have hcreate : Paired N X Eq
        (do Remote.openIdentity cr; Remote.createAccount project id description)
        (do Remote.openIdentity cr'; Remote.createAccount project id description) :=
      (Remote.openIdentity_paired cr cr').bind fun _ => Remote.createAccount_paired _ _ _
    refine hcreate.resume fun r => ?_
    match r with
    | .ok a => exact (Paired.note _ _).bind fun _ => .pure rfl
    | .error f =>
      dsimp only
      split
      · exact (takeExisting_paired cr cr' project id description).bind fun _ => .pure rfl
      · exact .fail _

theorem issueToken_paired (hN : ∀ n n', N n n' → N (n + 1) (n' + 1)) (lifetime : Value)
    (email : String) :
    Paired N X (AccessToken.AlikeUpTo N) (issueToken cr lifetime email)
      (issueToken cr' lifetime email) := by
  refine ((Remote.openIssuer_paired cr cr').mapError _).bind fun _ => ?_
  refine (Paired.ofExcept _).bind fun seconds => ?_
  have hissued := Coupled.mapError (Remote.issueToken_paired (X := X) hN
    s!"projects/-/serviceAccounts/{email}" tokenScopes seconds) (reported (.tokenNotIssued email))
  refine Coupled.bind hissued fun issued issued' h => ?_
  have htoken : AccessToken.AlikeUpTo N ⟨issued.1, AccessToken.expirationAt issued.2⟩
      ⟨issued'.1, AccessToken.expirationAt issued'.2⟩ :=
    ⟨h.1, congrArg AccessToken.expirationAt h.2⟩
  exact (Paired.note _ _).bind fun _ => .pure htoken

theorem delete_paired (project email name : Value) :
    Paired N X Eq (delete cr project email name) (delete cr' project email name) := by
  have hdelete : Paired N X Eq
      (do Remote.openIdentity cr; Remote.deleteAccount (fullName project email name))
      (do Remote.openIdentity cr'; Remote.deleteAccount (fullName project email name)) :=
    (Remote.openIdentity_paired cr cr').bind fun _ => Remote.deleteAccount_paired _
  refine hdelete.resume fun r => ?_
  match r with
  | .ok () => exact .note _ _
  | .error f =>
    dsimp only
    split
    · exact .note _ _
    · exact .fail _

end Identity

end Steps

end TransferBucket
