import Mathlib.Data.List.Forall2
import TransferBucket.Operation
import TransferBucket.Proofs.Parallel

/-!
# Operations in step

In alike sessions the vault, the search for credentials and whole operations run in step.

**The vault** (`Vault.require_paired`). For a key that may be asked for it gives texts that may be
exchanged, and remembers them; so the sessions stay alike.

**Credentials** (`Address.credentials_paired`). The search ends with credentials in both runs, or
with the same failure in both, if no one can tell the texts apart that the addresses give for each
source (`Source.TextsAlike`). The credentials themselves need not be the same; nothing that comes
after the search looks at them.

**Operations** (`Operation.performAll_alike`). One operation keeps sessions alike, and its results
differ in nothing but the address that is part of a record. By induction so do many.
-/

namespace TransferBucket

open Session TransferBucket.Action

/-! ## The vault in step -/

theorem Interchange.BytesAlike.refl {X : Interchange} (key : Value) (bytes : List UInt8) :
    X.BytesAlike key bytes bytes := EndAlike.refl (fun cs => X.refl key (String.ofList cs)) _

namespace Vault

variable {N : Nat → Nat → Prop} {X : Interchange} {ε : Type}

theorem variableName_paired (key : Value) : Paired N X Eq (variableName key) (variableName key) := by
  cases key with
  | text s => exact .pure rfl
  | _ => exact .fail _

theorem openSecrets_paired : Paired N X Eq Remote.openSecrets Remote.openSecrets := by
  have hvault : Paired N X (fun v v' : TransferBucket.Vault => v.isOpen = v'.isOpen)
      (.read Session.vault : Remote TransferBucket.Vault) (.read Session.vault) :=
    Coupled.read fun s t hst => hst.alike.isOpen.symm
  refine Coupled.bind hvault fun v v' hv => ?_
  rw [← hv]
  split
  · exact .pure rfl
  · refine (Remote.begin_paired rfl).bind fun _ s t hst => ?_
    exact ⟨.ok rfl, { hst.alike with isOpen := rfl }, hst.numbers⟩

/-- What is read of the secret behind a key that may be asked for may be exchanged. -/
theorem readSecret_paired {key : Value} (hkey : X.asked key) :
    Paired N X (X.BytesAlike key) (Remote.readSecret (secretName X.project key))
      (Remote.readSecret (secretName X.project key)) := by
  refine (Remote.begin_paired rfl).bind fun _ => ?_
  have hsecret : Paired N X (Option.Rel (X.BytesAlike key))
      (.read fun s => s.cloud.secret? (secretName X.project key) : Remote _)
      (.read fun s => s.cloud.secret? (secretName X.project key)) :=
    Coupled.read fun s t hst => hst.alike.stored key hkey
  refine Coupled.bind hsecret fun bytes? bytes?' h => ?_
  cases h with
  | none => exact .fail _
  | some h => exact .pure h

theorem fetch_paired {key : Value} (hkey : X.asked key) :
    Paired N X (Option.Rel (X.alike key)) (fetch X.project key) (fetch X.project key) := by
  have hread : Paired N X (X.BytesAlike key)
      (do Remote.openSecrets; Remote.readSecret (secretName X.project key) : Remote _)
      (do Remote.openSecrets; Remote.readSecret (secretName X.project key)) :=
    openSecrets_paired.bind fun _ => readSecret_paired hkey
  refine Coupled.resume hread fun r r' h => ?_
  cases h with
  | @ok bytes bytes' h =>
    dsimp only
    rw [Interchange.BytesAlike] at h
    generalize Utf8.decode bytes = d at h ⊢
    generalize Utf8.decode bytes' = d' at h ⊢
    cases h with
    | ok h => exact .pure (.some h)
    | error m => exact .fail _
  | error f =>
    dsimp only
    split
    · exact (Paired.note _ _).bind fun _ => .pure .none
    · split <;> exact .fail _

theorem fromEnvironment_paired (environmentFirst : Bool) (key : Value) :
    Paired N X Eq (fromEnvironment environmentFirst key) (fromEnvironment environmentFirst key) := by
  unfold fromEnvironment
  split
  · refine (variableName_paired key).bind fun name => ?_
    refine (Paired.read fun s t hst => by rw [hst.environment_eq]).bind fun text? => ?_
    cases text? with
    | none => exact .pure rfl
    | some text =>
      dsimp only
      split
      · exact .pure rfl
      · exact (Paired.note _ _).bind fun _ => .pure rfl
  · exact .pure rfl

/-- Texts that may be exchanged are remembered in step. -/
theorem remember_paired {key : Value} (hkey : X.asked key) {text text' : String}
    (h : X.alike key text text') : Paired N X Eq (remember key text) (remember key text') := by
  intro s t hst
  refine ⟨.ok rfl, { hst.alike with remembered := fun other hother => ?_ }, hst.numbers⟩
  have hbefore : Option.Rel (X.alike other) (remembered? s.vault other)
      (remembered? t.vault other) := hst.alike.remembered other hother
  change Option.Rel _
    (remembered? { s.vault with fetched := s.vault.fetched ++ [(key, text)] } other)
    (remembered? { t.vault with fetched := t.vault.fetched ++ [(key, text')] } other)
  rw [remembered?_append, remembered?_append]
  generalize remembered? s.vault other = before at hbefore ⊢
  generalize remembered? t.vault other = before' at hbefore ⊢
  -- what was remembered first is what is found, so the new text counts only where nothing was
  cases hbefore with
  | some h => exact .some h
  | none =>
    by_cases hsame : Value.sameKey key other
    · rw [if_pos hsame, if_pos hsame]
      exact .some (X.congr hkey hother hsame h)
    · rw [if_neg hsame, if_neg hsame]
      exact .none

theorem fromSecrets_paired {key : Value} (hkey : X.asked key) :
    Paired N X (Option.Rel (X.alike key)) (fromSecrets X.project key)
      (fromSecrets X.project key) := by
  unfold fromSecrets
  split
  · have hremembered : Paired N X (Option.Rel (X.alike key))
        (.read fun s => remembered? s.vault key : Action Session Failure _)
        (.read fun s => remembered? s.vault key) :=
      Coupled.read fun s t hst => hst.alike.remembered key hkey
    refine Coupled.bind hremembered fun text? text?' h => ?_
    cases h with
    | some h => exact .pure (.some h)
    | none =>
      refine Coupled.bind (fetch_paired hkey) fun fetched? fetched?' h => ?_
      cases h with
      | none => exact .pure .none
      | some h => exact (remember_paired hkey h).bind fun _ => .pure (.some h)
  · exact .fail _

/-- The vault answers in step for a key that may be asked for. -/
theorem resolve_paired {key : Value} (hkey : X.asked key) :
    Paired N X (Option.Rel (X.alike key)) (resolve key) (resolve key) := by
  have hvault : Paired N X (fun v v' : TransferBucket.Vault => v'.kind = v.kind ∧
      ∀ p environmentFirst, v.kind = .secrets p environmentFirst → p = X.project)
      (.read Session.vault : Action Session Failure _) (.read Session.vault) :=
    Coupled.read fun s t hst => ⟨hst.alike.kind, hst.alike.project⟩
  refine Coupled.bind hvault fun v v' hv => ?_
  rw [hv.1]
  have hself : ∀ text? : Option String, Option.Rel (X.alike key) text? text? := fun text? => by
    cases text? with
    | none => exact .none
    | some text => exact .some (X.refl key text)
  rcases hkind : v.kind with _ | ⟨p, environmentFirst⟩
  · refine (variableName_paired key).bind fun name => ?_
    exact Coupled.read fun s t hst => by
      rw [hst.environment_eq]
      exact hself _
  · dsimp only
    rw [hv.2 p environmentFirst hkind]
    refine (fromEnvironment_paired environmentFirst key).bind fun text? => ?_
    cases text? with
    | none => exact fromSecrets_paired hkey
    | some text => exact .pure (hself _)

theorem require_paired {key : Value} (hkey : X.asked key) :
    Paired N X (X.alike key) (require key) (require key) := by
  refine Coupled.bind (resolve_paired hkey) fun text? text?' h => ?_
  cases h with
  | none => exact .fail _
  | @some text text' h =>
    dsimp only
    by_cases hempty : text = ""
    · rw [if_pos hempty, if_pos ((X.empty h).1 hempty)]
      exact .fail _
    · rw [if_neg hempty, if_neg (mt (X.empty h).2 hempty)]
      exact .pure h

end Vault

/-! ## Credentials in step -/

/-- Texts that no one can tell apart who does not see the credentials made of them: tokens that end
at the same instant, or texts that are no tokens for the same reason; key files that are JSON, or
texts that are not. A key file given in letters shows its mark or not. -/
def Source.TextsAlike (source : Source) (c c' : String) : Prop :=
  match source with
  | .vaultToken | .inlineToken => EndAlike (fun t t' : AccessToken => t.expiration = t'.expiration)
    (AccessToken.ofText c) (AccessToken.ofText c')
  | .vaultKeyFile => (Json.decode c.toList).isOk = (Json.decode c'.toList).isOk
  | .inlineKeyFile => (Json.decode c.toList).isOk = (Json.decode c'.toList).isOk ∧
    occursIn keyFileMark.toList c.toList = occursIn keyFileMark.toList c'.toList

namespace Credentials

variable {N : Nat → Nat → Prop} {X : Interchange} {c c' : String}

theorem ofTokenText_paired (h : Source.vaultToken.TextsAlike c c') :
    Paired N X (fun _ _ => True) (ofTokenText c) (ofTokenText c') := by
  refine Coupled.bind (Coupled.ofExcept (h.mapError _)) fun t t' ht => ?_
  refine (Paired.note _ _).bind fun _ => ?_
  have hexpiry : t.expiry? = t'.expiry? := by rw [AccessToken.expiry?, ht, ← AccessToken.expiry?]
  rw [hexpiry]
  cases t'.expiry? with
  | none => exact .fail _
  | some ends => exact .pure trivial

theorem ofKeyFileText_paired (h : Source.vaultKeyFile.TextsAlike c c') :
    Paired N X (fun _ _ => True) (ofKeyFileText c) (ofKeyFileText c') := by
  refine (Paired.note _ _).bind fun _ => ?_
  rw [Source.TextsAlike] at h
  generalize Json.decode c.toList = d at h ⊢
  generalize Json.decode c'.toList = d' at h ⊢
  rcases d with e | contents <;> rcases d' with e' | contents'
  · exact .fail _
  · cases h
  · cases h
  · exact Coupled.mapError (Remote.loadKeyFile_paired contents contents' _) _

theorem ofSurroundings_paired : Paired N X Eq ofSurroundings ofSurroundings :=
  (Paired.note _ _).bind fun _ => (Remote.findDefault_paired _).mapError _

end Credentials

/-- What two addresses give for a source may be exchanged: the same key of the vault, one that may
be asked for, or values in letters of texts that no one can tell apart. -/
def Source.MayExchange (X : Interchange) (source : Source) (given given' : Value) : Prop :=
  match source with
  | .vaultToken | .vaultKeyFile =>
    given = given' ∧ X.asked given ∧ ∀ c c', X.alike given c c' → source.TextsAlike c c'
  | .inlineToken =>
    EndAlike source.TextsAlike (decodeInline .tokenEncoding given)
      (decodeInline .tokenEncoding given')
  | .inlineKeyFile =>
    EndAlike source.TextsAlike (decodeInline .keyFileEncoding given)
      (decodeInline .keyFileEncoding given')

theorem Source.credentials_paired {X : Interchange} {source : Source} {given given' : Value}
    (h : source.MayExchange X given given') :
    Paired N X (fun _ _ => True) (source.credentials given) (source.credentials given') := by
  cases source with
  | vaultToken =>
    obtain ⟨rfl, hasked, htexts⟩ := h
    exact Coupled.bind (Vault.require_paired hasked) fun c c' hc =>
      Credentials.ofTokenText_paired (htexts c c' hc)
  | inlineToken =>
    exact Coupled.bind (Coupled.ofExcept h) fun c c' hc => Credentials.ofTokenText_paired hc
  | vaultKeyFile =>
    obtain ⟨rfl, hasked, htexts⟩ := h
    exact Coupled.bind (Vault.require_paired hasked) fun c c' hc =>
      Credentials.ofKeyFileText_paired (htexts c c' hc)
  | inlineKeyFile =>
    refine Coupled.bind (Coupled.ofExcept h) fun c c' hc => ?_
    rw [hc.2]
    split
    · exact Credentials.ofKeyFileText_paired hc.1
    · exact .fail _

/-- What two addresses give for every source may be exchanged. -/
def Address.MayExchange (X : Interchange) (a a' : Address) : Prop :=
  ∀ source : Source, Option.Rel (source.MayExchange X) (source.given? a) (source.given? a')

/-- The search for credentials runs in step. -/
theorem Address.credentials_paired {X : Interchange} {a a' : Address} (h : a.MayExchange X a')
    (order : List Source) :
    Paired N X (fun _ _ => True) (a.credentials order) (a'.credentials order) := by
  induction order with
  | nil => exact fun s t hst =>
      ⟨(Credentials.ofSurroundings_paired s t hst).1.mono fun _ _ _ => trivial,
        (Credentials.ofSurroundings_paired s t hst).2⟩
  | cons source rest ih =>
    have hgiven := h source
    rw [Address.credentials, Address.credentials]
    generalize source.given? a = g at hgiven ⊢
    generalize source.given? a' = g' at hgiven ⊢
    cases hgiven with
    | none => exact ih
    | some hgiven => exact Source.credentials_paired hgiven

/-! ## Operations in step -/

section Operations

variable {N : Nat → Nat → Prop} {X : Interchange} {d : Definition} {r : Resource} {a : Address}

theorem Provision.credentials_paired (h : d.address.MayExchange X a) :
    Paired N X (fun _ _ => True) (Provision.credentials d)
      (Provision.credentials { d with address := a }) :=
  Coupled.bind (Address.credentials_paired h _) fun _ _ _ =>
    (Paired.note _ _).bind fun _ => .pure trivial

theorem Provision.emptyBucket_paired (cr cr' : Credentials) (d : Definition) (a : Address) :
    Paired N X Eq (emptyBucket cr d) (emptyBucket cr' { d with address := a }) := by
  refine (Storage.getOrCreate_paired cr cr' _ _ _ _).bind fun found => ?_
  refine (Storage.isEmpty_paired cr cr' _ _).bind fun empty => ?_
  split
  · exact (Paired.note _ _).bind fun _ => .pure rfl
  · exact .fail _

theorem Provision.account_paired (cr cr' : Credentials) (d : Definition) (a : Address) :
    Paired N X Eq (account cr d) (account cr' { d with address := a }) := by
  refine (Paired.ofExcept _).bind fun id => ?_
  refine (Identity.getOrCreate_paired cr cr' _ _ _).bind fun found => ?_
  exact (Paired.note _ _).bind fun _ => .pure rfl

/-- The stages run in step, up to the text of the token. -/
theorem Provision.stages_paired (hN : ∀ n n', N n n' → N (n + 1) (n' + 1)) (lifetime : Value)
    (h : d.address.MayExchange X a) :
    Paired N X (fun made made' => made.1 = made'.1 ∧ made.2.AlikeUpTo N made'.2)
      (stages lifetime d) (stages lifetime { d with address := a }) := by
  refine Coupled.bind (Coupled.mapError (Provision.credentials_paired h) _) fun cr cr' _ => ?_
  -- from here on the credentials may differ, and no step looks at them
  refine ((Provision.emptyBucket_paired cr cr' d a).mapError _).bind fun bucket => ?_
  refine ((Provision.account_paired cr cr' d a).mapError _).bind fun account => ?_
  refine ((Storage.grant_paired _ _).mapError _).bind fun _ => ?_
  refine Coupled.bind (Coupled.mapError (Identity.issueToken_paired cr cr' hN _ _) _) ?_
  exact fun token token' htoken => .pure ⟨rfl, htoken⟩

/-- What is answered for two definitions: the same failure, or success with the same account and
token, each in the record of its definition. -/
inductive Provision.AnswersAlike (d d' : Definition) :
    Outcome Provisioned → Outcome Provisioned → Prop
  | success (a : Account) (token : AccessToken) :
    AnswersAlike d d' (.success ⟨record d a, token⟩) (.success ⟨record d' a, token⟩)
  | failure (status : Status) (messages : List Value) :
    AnswersAlike d d' (.failure status messages) (.failure status messages)

/-- What is answered for two definitions in sessions with different numbers of tokens: the same
failure, or success with the same account, and with tokens that are alike up to their texts. -/
inductive Provision.AnswersUpTo (N : Nat → Nat → Prop) (d d' : Definition) :
    Outcome Provisioned → Outcome Provisioned → Prop
  | success (a : Account) {token token' : AccessToken} (h : token.AlikeUpTo N token') :
    AnswersUpTo N d d' (.success ⟨record d a, token⟩) (.success ⟨record d' a, token'⟩)
  | failure (status : Status) (messages : List Value) :
    AnswersUpTo N d d' (.failure status messages) (.failure status messages)

/-- Where the numbers are the same, so are the tokens. -/
theorem Provision.AnswersUpTo.alike {d d' : Definition} {o o' : Outcome Provisioned}
    (h : AnswersUpTo Eq d d' o o') : AnswersAlike d d' o o' := by
  cases h with
  | @success account token token' htoken =>
    obtain ⟨⟨n, _, rfl, htext, htext'⟩, hends⟩ := htoken
    obtain rfl : token = token' := by
      rcases token with ⟨secret, ends⟩
      rcases token' with ⟨secret', ends'⟩
      exact congrArg₂ AccessToken.mk (htext.trans htext'.symm) hends
    exact .success account token
  | failure status messages => exact .failure status messages

theorem provision_paired (hN : ∀ n n', N n n' → N (n + 1) (n' + 1)) (lifetime : Value)
    (h : d.address.MayExchange X a) :
    Paired N X (Provision.AnswersUpTo N d { d with address := a }) (provision lifetime d)
      (provision lifetime { d with address := a }) := by
  refine (Paired.changeLinks _).bind fun _ => (Paired.note _ _).bind fun _ => ?_
  refine Coupled.resume (Provision.stages_paired hN lifetime h) fun r r' hr => ?_
  cases hr with
  | @ok made made' hmade =>
    obtain ⟨account, token⟩ := made
    obtain ⟨_, token'⟩ := made'
    obtain ⟨rfl, htoken⟩ := hmade
    exact (Paired.note _ _).bind fun _ => .pure (.success account htoken)
  | error e =>
    obtain ⟨stage, e⟩ := e
    dsimp only
    split
    · exact (Paired.note _ _).bind fun _ => .pure (.failure _ _)
    · exact .fail _

theorem provision_inStep (lifetime : Value) (h : d.address.MayExchange X a) :
    InStep X (Provision.AnswersAlike d { d with address := a }) (provision lifetime d)
      (provision lifetime { d with address := a }) := by
  have hsucc : ∀ n n' : Nat, n = n' → n + 1 = n' + 1 := fun _ _ => congrArg (· + 1)
  exact Paired.inStep (Coupled.mono (provision_paired hsucc lifetime h) fun _ _ h => h.alike)

theorem deprovision_paired (h : r.address.MayExchange X a) :
    Paired N X Eq (deprovision r) (deprovision { r with address := a }) := by
  refine (Paired.changeLinks _).bind fun _ => (Paired.note _ _).bind fun _ => ?_
  have hremoval : Paired N X Eq
      (do
        let c ← r.address.credentials Source.defaultOrder
        Identity.delete c r.project r.accountEmail r.accountName)
      (do
        let c ← a.credentials Source.defaultOrder
        Identity.delete c r.project r.accountEmail r.accountName) :=
    Coupled.bind (Address.credentials_paired h _) fun cr cr' _ =>
      Identity.delete_paired cr cr' _ _ _
  refine hremoval.resume fun result => ?_
  match result with
  | .ok () => exact (Paired.note _ _).bind fun _ => .pure rfl
  | .error e =>
    dsimp only
    split
    · exact (Paired.note _ _).bind fun _ => .pure rfl
    · exact .fail _

theorem deprovision_together (h : r.address.MayExchange X a) :
    Together X (deprovision r) (deprovision { r with address := a }) := (deprovision_paired h).inStep

/-- Two operations that differ only in addresses whose sources may be exchanged. -/
inductive Operation.MayExchange (X : Interchange) : Operation → Operation → Prop
  | provision {d : Definition} {a : Address} (h : d.address.MayExchange X a) :
    MayExchange X (.provision d) (.provision { d with address := a })
  | deprovision {r : Resource} {a : Address} (h : r.address.MayExchange X a) :
    MayExchange X (.deprovision r) (.deprovision { r with address := a })
  | event (e : Event) : MayExchange X (.event e) (.event e)

/-- Results of two operations that no one can tell apart, but for the addresses in records. -/
inductive Operation.ResultsAlike : Operation → Operation → OperationResult → OperationResult → Prop
  | provisioned {d d' : Definition} {o o' : Except Failure (Outcome Provisioned)}
    (h : EndAlike (Provision.AnswersAlike d d') o o') :
    ResultsAlike (.provision d) (.provision d') (.provisioned o) (.provisioned o')
  | deprovisioned {r r' : Resource} (o : Except Failure (Outcome Deprovisioned)) :
    ResultsAlike (.deprovision r) (.deprovision r') (.deprovisioned o) (.deprovisioned o)
  | happened (e : Event) : ResultsAlike (.event e) (.event e) .happened .happened

/-- Whatever is stored in both of two alike sessions, they stay alike. -/
theorem Session.Alike.storeSecret {s t : Session} (h : s.Alike X t) (name : String)
    (bytes : List UInt8) :
    { s with cloud := s.cloud.setSecret name bytes }.Alike X
      { t with cloud := t.cloud.setSecret name bytes } := by
  -- leaving out what is hidden and leaving out the old secret of this name commute
  have hfilter : ∀ c : Cloud, ((c.setSecret name bytes).secrets.filter fun e => !X.hidden e.1) =
      ([(name, bytes)].filter fun e => !X.hidden e.1) ++
        (c.secrets.filter fun e => !X.hidden e.1).filter fun e => e.1 ≠ name := by
    intro c
    rw [Cloud.setSecret, ← List.singleton_append, List.filter_append, List.filter_filter,
      List.filter_filter]
    congr 2
    funext e
    exact Bool.and_comm _ _
  refine { h with cloud := ?_, secrets := ?_, stored := fun key hkey => ?_ }
  · dsimp only
    rw [h.cloud]
    rfl
  · rw [hfilter, hfilter, h.secrets]
  · by_cases hname : Vault.secretName X.project key = name
    · rw [hname, Cloud.secret?_setSecret_self, Cloud.secret?_setSecret_self]
      exact .some (Interchange.BytesAlike.refl key bytes)
    · rw [Cloud.secret?_setSecret_of_ne _ hname, Cloud.secret?_setSecret_of_ne _ hname]
      exact h.stored key hkey

/-- Events happen to alike sessions alike. -/
theorem Event.apply_alike {s t : Session} (h : s.Alike X t) (e : Event) :
    (e.apply s).Alike X (e.apply t) := by
  cases e with
  | plan method plans => exact { h with schedule := congrArg (·.append method plans) h.schedule }
  | putObject bucket object =>
    exact h.changeCloud (f := fun c => c.putObject bucket object) fun _ _ => rfl
  | removeAccount email => exact h.changeCloud (f := fun c => c.dropEmail email) fun _ _ => rfl
  | storeSecret name bytes => exact h.storeSecret name bytes
  | moveTokenEnd ends =>
    exact h.changeCloud (f := fun c => { c with tokenEnd := ends }) fun _ _ => rfl
  | setVariable name value? =>
    cases value? with
    | none => exact { h with environment := congrArg (·.unset name) h.environment }
    | some value => exact { h with environment := congrArg (·.set name value) h.environment }

/-- One operation keeps sessions alike. -/
theorem Operation.perform_alike (lifetime : Value) {o o' : Operation} (h : o.MayExchange X o')
    {s t : Session} (hst : s.Alike X t) :
    ResultsAlike o o' (perform lifetime s o).1 (perform lifetime t o').1 ∧
      (perform lifetime s o).2.Alike X (perform lifetime t o').2 := by
  cases h with
  | provision h =>
    obtain ⟨hend, hnext⟩ := provision_inStep lifetime h s t hst
    exact ⟨.provisioned hend, hnext⟩
  | @deprovision r a h =>
    obtain ⟨hend, hnext⟩ := deprovision_together h s t hst
    refine ⟨?_, hnext⟩
    change ResultsAlike _ _ (.deprovisioned (TransferBucket.deprovision r s).1)
      (.deprovisioned (TransferBucket.deprovision { r with address := a } t).1)
    rw [← hend.eq]
    exact .deprovisioned _
  | event e => exact ⟨.happened e, Event.apply_alike hst e⟩

/-- **Operations keep sessions alike.** Where every operation has its like, what one makes of the
results of single operations is the same in both runs, if it is for single operations. -/
theorem Operation.performAll_alike (lifetime : Value) {α : Type} (f : OperationResult → α)
    {os os' : List Operation} (h : List.Forall₂ (fun o o' => o.MayExchange X o' ∧
      ∀ r r', ResultsAlike o o' r r' → f r = f r') os os')
    {s t : Session} (hst : s.Alike X t) :
    (performAll lifetime s os).1.map f = (performAll lifetime t os').1.map f ∧
      (performAll lifetime s os).2.Alike X (performAll lifetime t os').2 := by
  -- along the operations; that the sessions are alike is what each operation hands on to the next
  induction h generalizing s t with
  | nil => exact ⟨rfl, hst⟩
  | @cons o o' os os' hfirst _ ih =>
    obtain ⟨hresult, hnext⟩ := perform_alike lifetime hfirst.1 hst
    obtain ⟨hrest, hlast⟩ := ih hnext
    exact ⟨congrArg₂ List.cons (hfirst.2 _ _ hresult) hrest, hlast⟩

end Operations

end TransferBucket
