import TransferBucket.Proofs.Dialogue
import TransferBucket.Proofs.Guarantee

/-!
# Every ending in one form

**Theorem (`results_uniform`).** Where policies are as they should be and credentials are found or
refused, provisioning and giving up end in a success without a message or in a fatal failure with
one message and no content, as long as every fault that a call meets is recognised. A fault that is
not recognised comes out as it is, and no error is logged for it.

**Honesty** (`Honest`). What carries both halves through the steps, whichever way their handlers are
nested: a step ends in a value, in an error that is reported, or in a fault that is not recognised,
and in the last exactly if it met the fault. Where a first part is settled, an honest second part
makes the whole honest (`Honest.append`), and wordings change nothing (`Faithful`).

**Faults met** (`faults`). They are read off the dialogue: the faults that calls ended in, and the
faults that lists ended in where they were read so far.
-/

namespace TransferBucket

open Session

/-! ## Faults met -/

/-- The fault that a call met. Of the objects of a bucket only the first is asked for, and accounts
are read up to the first with a description; a fault that lies behind is not met. Calls in search
of credentials do not count. -/
def Exchange.fault? (description : String) (x : Exchange) : Option Fault :=
  if x.call.method ∈ Source.methods then none
  else match x.answer with
    | .error f => some f
    | .ok (.objects l) => if l.items.isEmpty then l.ending else none
    | .ok (.accounts l) =>
      if l.items.any fun a => a.description = description then none else l.ending
    | .ok _ => none

/-- The faults that were met. -/
def faults (description : String) (es : List Exchange) : List Fault :=
  es.filterMap (Exchange.fault? description)

theorem faults_append (description : String) (es ds : List Exchange) :
    faults description (es ++ ds) = faults description es ++ faults description ds :=
  List.filterMap_append

/-! ## Honesty -/

/-- What comes of a step, as far as faults are concerned. -/
inductive Upshot where
  /-- A value, or an error that is reported. -/
  | settled
  /-- A fault that is not recognised, as it came. -/
  | passed (f : Fault)
  /-- Any other error. -/
  | stray

/-- A recognised fault is as good as reported: every step rewords it. -/
def Fault.upshot (f : Fault) : Upshot := if f.isRecognised then .settled else .passed f

def Failure.upshot : Failure → Upshot
  | .fault f => if f.isRecognised then .stray else .passed f
  | .credential _ => .settled
  | .provision _ => .settled
  | _ => .stray

/-- What comes of a step by how it ends. -/
def upshotOf {ε α : Type} (upshot : ε → Upshot) : Except ε α → Upshot
  | .ok _ => .settled
  | .error e => upshot e

theorem Failure.isReported_of_upshot {e : Failure} (h : e.upshot = .settled) : e.isReported := by
  cases e with
  | fault f => by_cases hf : f.isRecognised <;> simp [upshot, hf] at h
  | credential p => rfl
  | provision p => rfl
  | _ => cases h

theorem Failure.eq_fault_of_upshot {e : Failure} {f : Fault} (h : e.upshot = .passed f) :
    e = .fault f := by
  cases e with
  | fault f' => by_cases hf : f'.isRecognised <;> simp_all [upshot]
  | _ => cases h

/-- What comes of a step that met some faults: nothing stray, and a fault exactly if it was met and
is not recognised. -/
structure Honest (description : String) (es : List Exchange) (u : Upshot) : Prop where
  straight : u ≠ .stray
  passed_iff : ∀ f, u = .passed f ↔ f ∈ faults description es ∧ f.isRecognised = false

namespace Honest

variable {description : String} {es ds : List Exchange} {u : Upshot}

/-- Where no fault was met, a value and a reported error are honest. -/
theorem of_faultless (hes : faults description es = []) : Honest description es .settled :=
  ⟨nofun, fun f => by simp [hes]⟩

/-- The fault of a single call is honest. -/
theorem of_fault {f : Fault} (hes : faults description es = [f]) :
    Honest description es f.upshot := by
  rw [Fault.upshot]
  split
  · rename_i hf
    refine ⟨nofun, fun f' => ?_⟩
    simp only [hes, List.mem_singleton, reduceCtorEq, false_iff]
    rintro ⟨rfl, hforeign⟩
    rw [hf] at hforeign
    cases hforeign
  · rename_i hf
    refine ⟨nofun, fun f' => ?_⟩
    simp only [hes, List.mem_singleton, Upshot.passed.injEq]
    exact ⟨fun h => ⟨h.symm, by simpa [← h] using hf⟩, fun h => h.1.symm⟩

theorem append (h : Honest description es .settled) (h' : Honest description ds u) :
    Honest description (es ++ ds) u := by
  refine ⟨h'.straight, fun f => ?_⟩
  rw [faults_append, List.mem_append, or_and_right, ← h.passed_iff, ← h'.passed_iff]
  simp

end Honest

/-- A wording of faults that changes nothing in what comes of them. -/
def Faithful (report : Fault → Failure) : Prop := ∀ f, (report f).upshot = f.upshot

theorem faithful_reported (problem : Fault → ProvisionProblem) : Faithful (reported problem) := by
  intro f
  rw [reported, Fault.upshot]
  split
  · rfl
  · rename_i hf
    rw [Failure.upshot, if_neg hf]

/-- The wording for buckets is faithful if it can show the location. -/
theorem faithful_unavailable (name : Value) {location : Value} (h : location.isSpellable) :
    Faithful (Storage.unavailable name location) := by
  intro f
  rw [Storage.unavailable, Failure.showing, if_pos h]
  exact faithful_reported (.bucketUnavailable name location) f

/-! ## Steps -/

/-- The run of a step is honest. -/
def Action.Tells {ε α : Type} (x : Action Session ε α) (upshot : ε → Upshot)
    (description : String) (s : Session) : Prop :=
  x.Exchanges (fun es r => Honest description es (upshotOf upshot r)) s

namespace Action.Tells

variable {ε α β : Type} {upshot : ε → Upshot} {description : String} {s : Session}
  {x : Action Session ε α}

theorem pure (a : α) : (Pure.pure a : Action Session ε α).Tells upshot description s :=
  Exchanges.pure (.of_faultless rfl)

theorem fail {e : ε} (he : upshot e = .settled) :
    (Action.fail e : Action Session ε α).Tells upshot description s := by
  refine Exchanges.fail ?_
  rw [upshotOf, he]
  exact .of_faultless rfl

theorem note (level : Level) (message : String) :
    (Session.note level message : Action Session ε Unit).Tells upshot description s :=
  ⟨[], .nil rfl rfl, .of_faultless rfl⟩

theorem bind {f : α → Action Session ε β} (hx : x.Tells upshot description s)
    (hf : ∀ a t, x s = (.ok a, t) → (f a).Tells upshot description t) :
    (x >>= f).Tells upshot description s :=
  Exchanges.bind hx (fun _ _ h => h) fun _ a t hxs h =>
    (hf a t hxs).mono fun _ _ h' => h.append h'

theorem note_bind {level : Level} {message : String} {f : Unit → Action Session ε β}
    (hf : ∀ t, (f ()).Tells upshot description t) :
    (Session.note level message >>= f).Tells upshot description s := Exchanges.note_bind hf

theorem ofExcept_bind {r : Except ε α} {a : α} (hr : r = .ok a) {f : α → Action Session ε β}
    (hf : (f a).Tells upshot description s) :
    (Action.ofExcept r >>= f).Tells upshot description s := by
  subst hr
  exact hf

/-- A wording that changes nothing in what comes of errors keeps a step honest. -/
theorem mapError {δ : Type} {report : ε → δ} {upshot' : δ → Upshot}
    (hx : x.Tells upshot description s) (hreport : ∀ e, upshot' (report e) = upshot e) :
    (Action.mapError report x).Tells upshot' description s := by
  refine Exchanges.mapError (hx.mono fun es r h => ?_)
  cases r with
  | ok a => exact h
  | error e =>
    rw [Except.mapError, upshotOf, hreport]
    exact h

/-- What goes on after either ending is honest if it deals with recognised faults only. -/
theorem resume {x : Remote α} {k : Except Fault α → Action Session Failure β}
    (hx : x.Tells Fault.upshot description s)
    (hok : ∀ a t, (k (.ok a)).Tells Failure.upshot description t)
    (hrecognised : ∀ f t, f.isRecognised → (k (.error f)).Tells Failure.upshot description t)
    (hforeign : ∀ f, f.isRecognised = false → k (.error f) = .fail (.fault f)) :
    (Action.resume x k).Tells Failure.upshot description s := by
  refine Exchanges.resume hx fun es r t h => ?_
  cases r with
  | ok a => exact (hok a t).mono fun _ _ h' => h.append h'
  | error f =>
    by_cases hf : f.isRecognised
    · rw [upshotOf, Fault.upshot, if_pos hf] at h
      exact (hrecognised f t hf).mono fun _ _ h' => h.append h'
    · rw [hforeign f (by simpa using hf)]
      refine Exchanges.fail ?_
      rw [upshotOf, Fault.upshot, if_neg hf] at h
      rw [List.append_nil, upshotOf, Failure.upshot, if_neg hf]
      exact h

end Action.Tells

/-! ## Remote calls -/

namespace Remote

variable {α β : Type} {description : String} {s : Session} {c : Call} {m : Method}

/-- A call whose replies bring no faults. -/
theorem tells_of_asked {x : Remote α} {wrap : α → Reply} (hx : x.Exchanges (Asked c wrap) s)
    (hc : c.method = m) (hm : m ∉ Source.methods)
    (hwrap : ∀ a, Exchange.fault? description ⟨c, .ok (wrap a)⟩ = none) :
    x.Tells Fault.upshot description s := by
  refine hx.mono fun es r hes => ?_
  subst hes
  cases r with
  | ok a => exact .of_faultless (List.filterMap_cons_none (hwrap a))
  | error f => exact .of_fault (List.filterMap_cons_some (if_neg (hc ▸ hm)))

theorem tells_of_opened {x : Remote Unit} (hx : x.Exchanges (Opened c) s)
    (hc : c.method = m) (hm : m ∉ Source.methods) : x.Tells Fault.upshot description s := by
  refine hx.mono fun es r hes => ?_
  rcases hes with ⟨rfl, rfl⟩ | rfl
  · exact .of_faultless rfl
  · cases r with
    | ok a => exact .of_faultless (List.filterMap_cons_none (if_neg (hc ▸ hm)))
    | error f => exact .of_fault (List.filterMap_cons_some (if_neg (hc ▸ hm)))

/-- A list that is read: where its fault is met, reading it ends in the fault. -/
theorem tells_of_listing {x : Remote (Listing α)} {wrap : Listing α → Reply}
    {k : Listing α → Remote β} (hx : x.Exchanges (Asked c wrap) s) (hc : c.method = m)
    (hm : m ∉ Source.methods)
    (hk : ∀ l, (∃ b, k l = pure b) ∧ Exchange.fault? description ⟨c, .ok (wrap l)⟩ = none ∨
      ∃ f, k l = .fail f ∧ Exchange.fault? description ⟨c, .ok (wrap l)⟩ = some f) :
    (x >>= k).Tells Fault.upshot description s := by
  refine hx.bind (fun es f hes => ?_) fun es l t _ hes => ?_
  · subst hes
    exact .of_fault (List.filterMap_cons_some (if_neg (hc ▸ hm)))
  · subst hes
    rcases hk l with ⟨⟨b, hb⟩, hnone⟩ | ⟨f, hf, hsome⟩
    · rw [hb]
      exact .pure (.of_faultless (List.filterMap_cons_none hnone))
    · rw [hf]
      exact .fail (.of_fault (List.filterMap_cons_some hsome))

end Remote

/-! ## Buckets -/

namespace Fault

variable {f : Fault}

theorem not_isConflict (hf : f.isRecognised = false) : ¬f.isConflict := by
  intro h
  simp only [isConflict, Bool.or_eq_true, decide_eq_true_eq] at h
  rcases h with h | h <;> rw [isRecognised, h] at hf <;> cases hf

theorem not_isAlreadyExists (hf : f.isRecognised = false) : ¬f.isAlreadyExists := by
  intro h
  rw [isRecognised, of_decide_eq_true h] at hf
  cases hf

theorem not_isNotFound (hf : f.isRecognised = false) : ¬f.isNotFound := by
  intro h
  rw [isRecognised, of_decide_eq_true h] at hf
  cases hf

end Fault

section Steps

variable {description : String} {s : Session} (cr : Credentials)

namespace Storage

variable (project name : Value)

theorem openStorage_tells : (Remote.openStorage project cr).Tells Fault.upshot description s :=
  Remote.tells_of_opened (m := .openStorage) (Remote.openStorage_exchanges _ _) rfl (by decide)

theorem getOrCreate_tells {location : Value} (hlocation : location.isSpellable)
    (storageClass : Value) :
    (getOrCreate cr project name location storageClass).Tells Failure.upshot description s := by
  have hreport := faithful_unavailable name hlocation
  refine .bind (.mapError (.bind (openStorage_tells _ _) fun _ _ _ => ?_) hreport)
    fun found t _ => ?_
  · exact Remote.tells_of_asked (m := .lookupBucket) (Remote.lookupBucket_exchanges _) rfl
      (by decide) fun _ => rfl
  · cases found with
    | some b => exact .note_bind fun _ => .pure _
    | none =>
      refine .resume (Remote.tells_of_asked (m := .createBucket)
        (Remote.createBucket_exchanges _ _ _) rfl (by decide) fun _ => rfl)
        (fun b u => ?_) (fun f u hf => ?_) fun f hf => ?_
      · have hplace : location.wording = .ok location.display := if_pos hlocation
        exact .ofExcept_bind hplace (.note_bind fun _ => .pure _)
      · dsimp only
        split
        · refine .note_bind fun _ => .bind (.mapError ?_ hreport) fun _ _ _ => .pure _
          exact Remote.tells_of_asked (m := .getBucket) (Remote.getBucket_exchanges _) rfl
            (by decide) fun _ => rfl
        · exact .fail ((hreport f).trans (if_pos hf))
      · dsimp only
        rw [if_neg (Fault.not_isConflict hf), unavailable, hf]
        rfl

theorem isEmpty_tells : (isEmpty cr project name).Tells Failure.upshot description s := by
  refine .mapError (.bind (openStorage_tells _ _) fun _ t _ => ?_) (faithful_reported _)
  refine Remote.tells_of_listing (m := .listObjects) (Remote.listObjects_exchanges _ _) rfl
    (by decide) fun l => ?_
  obtain ⟨_ | ⟨o, os⟩, _ | f⟩ := l
  · exact Or.inl ⟨⟨_, rfl⟩, rfl⟩
  · exact Or.inr ⟨f, rfl, rfl⟩
  · exact Or.inl ⟨⟨_, rfl⟩, rfl⟩
  · exact Or.inl ⟨⟨_, rfl⟩, rfl⟩

/-- Granting is honest where the policy of the bucket is as it should be. -/
theorem grant_tells {bucket : Value} (email : String)
    (hpolicy : ∀ b, s.cloud.bucket? bucket = some b → ∀ x ∈ b.bindings, x.IsWellFormed) :
    (grant bucket email).Tells Failure.upshot description s := by
  have hreport := faithful_reported (.grantRefused email bucket)
  refine .bind (.mapError ?_ hreport) fun bindings t ht => ?_
  · exact Remote.tells_of_asked (m := .getPolicy) (Remote.getPolicy_exchanges _ _) rfl (by decide)
      fun _ => rfl
  have hbindings : ∀ x ∈ bindings, x.IsWellFormed := by
    rw [Action.mapError_eq_ok_iff, Remote.getPolicy_apply] at ht
    split at ht <;> cases ht
    rcases hb : s.cloud.bucket? bucket with _ | b
    · exact fun x hx => absurd hx List.not_mem_nil
    · exact hpolicy b hb
  obtain ⟨gs, hgs⟩ := Policy.exists_grant hbindings (Policy.member email)
  refine .ofExcept_bind hgs (.bind (.mapError ?_ hreport) fun _ u _ => .note _ _)
  exact Remote.tells_of_asked (m := .setPolicy) (Remote.setPolicy_exchanges _ _) rfl (by decide)
    fun _ => rfl

end Storage

/-! ## Accounts and tokens -/

namespace Identity

variable (project : Value)

theorem openIdentity_tells : (Remote.openIdentity cr).Tells Fault.upshot description s :=
  Remote.tells_of_opened (m := .openIdentity) (Remote.openIdentity_exchanges _) rfl (by decide)

theorem find?_tells : (find? cr project description).Tells Failure.upshot description s := by
  refine .mapError (.bind (openIdentity_tells _) fun _ t _ => ?_) (faithful_reported _)
  refine Remote.tells_of_listing (m := .listAccounts) (Remote.listAccounts_exchanges _) rfl
    (by decide) fun l => ?_
  obtain ⟨items, ending⟩ := l
  have hfault : Exchange.fault? description
      ⟨.listAccounts (Remote.projectName project), .ok (.accounts ⟨items, ending⟩)⟩ =
      if items.any fun a => a.description = description then none else ending := rfl
  rw [hfault, ← List.isSome_find?]
  dsimp only
  generalize items.find? (fun a => a.description = description) = found
  rcases found with _ | a
  · rcases ending with _ | f
    · exact Or.inl ⟨⟨_, rfl⟩, rfl⟩
    · exact Or.inr ⟨f, rfl, rfl⟩
  · exact Or.inl ⟨⟨_, rfl⟩, rfl⟩

theorem takeExisting_tells (i : String) :
    (takeExisting cr project i description).Tells Failure.upshot description s := by
  refine .bind (.mapError (.bind (openIdentity_tells _) fun _ t _ => ?_) (faithful_reported _))
    fun a t _ => ?_
  · exact Remote.tells_of_asked (m := .getAccount) (Remote.getAccount_exchanges _) rfl
      (by decide) fun _ => rfl
  · split
    · exact .note_bind fun _ => .pure _
    · exact .fail rfl

theorem getOrCreate_tells (i : String) :
    (getOrCreate cr project i description).Tells Failure.upshot description s := by
  refine .bind (find?_tells _ _) fun found t _ => ?_
  cases found with
  | some a => exact .note_bind fun _ => .pure _
  | none =>
    refine .resume (.bind (openIdentity_tells _) fun _ _ _ => ?_) (fun a u => ?_)
      (fun f u hf => ?_) fun f hf => ?_
    · exact Remote.tells_of_asked (m := .createAccount) (Remote.createAccount_exchanges _ _ _) rfl
        (by decide) fun _ => rfl
    · exact .note_bind fun _ => .pure _
    · dsimp only
      split
      · exact .bind (takeExisting_tells _ _ _) fun _ _ _ => .pure _
      · exact .fail ((faithful_reported _ f).trans (if_pos hf))
    · dsimp only
      rw [if_neg (Fault.not_isAlreadyExists hf), reported, hf]
      rfl

theorem issueToken_tells {lifetime : Value} {n : Int} (hlifetime : lifetimeOf lifetime = .ok n)
    (email : String) : (issueToken cr lifetime email).Tells Failure.upshot description s := by
  have hreport := faithful_reported (.tokenNotIssued email)
  refine .bind (.mapError ?_ hreport) fun _ t _ => .ofExcept_bind hlifetime ?_
  · exact Remote.tells_of_opened (m := .openIssuer) (Remote.openIssuer_exchanges _) rfl (by decide)
  · refine .bind (.mapError ?_ hreport) fun _ _ _ => .note_bind fun _ => .pure _
    exact Remote.tells_of_asked (m := .issueToken) (Remote.issueToken_exchanges _ _ _) rfl
      (by decide) fun _ => rfl

theorem delete_tells (email name : Value) :
    (delete cr project email name).Tells Failure.upshot description s := by
  refine .resume (.bind (openIdentity_tells _) fun _ _ _ => ?_) (fun u t => .note _ _)
    (fun f t hf => ?_) fun f hf => ?_
  · exact Remote.tells_of_asked (m := .deleteAccount) (Remote.deleteAccount_exchanges _) rfl
      (by decide) fun _ => rfl
  · dsimp only
    split
    · exact .note _ _
    · exact .fail ((faithful_reported _ f).trans (if_pos hf))
  · dsimp only
    rw [if_neg (Fault.not_isNotFound hf), reported, hf]
    rfl

end Identity

/-! ## Provisioning and giving up -/

end Steps

/-- The credentials of an address are found, or refused with a problem of their own. -/
def Address.Resolves (a : Address) (s : Session) : Prop :=
  (∃ cr, (a.credentials Source.defaultOrder s).1 = .ok cr) ∨
    ∃ p, (a.credentials Source.defaultOrder s).1 = .error (.credential p)

theorem Address.credentials_tells {a : Address} {s : Session} (h : a.Resolves s)
    (description : String) :
    (a.credentials Source.defaultOrder).Tells Failure.upshot description s := by
  obtain ⟨es, hes, hin⟩ := Address.credentials_searching Source.defaultOrder a s
  have hnone : faults description es = [] :=
    List.filterMap_eq_nil_iff.2 fun x hx => if_pos (hin x hx)
  refine ⟨es, hes, ?_⟩
  rcases h with ⟨cr, h⟩ | ⟨p, h⟩ <;> rw [h] <;> exact .of_faultless hnone

/-- A definition with the parts that the steps ask for: the id of the process is a text, and the
location can be shown, as every text can. -/
structure Definition.IsSpelled (d : Definition) : Prop where
  process : ∃ t, d.transferProcess = .text t
  location : d.location.isSpellable

namespace Provision

variable {d : Definition} {s : Session} (cr : Credentials)

theorem emptyBucket_tells (hd : d.IsSpelled) (description : String) :
    (emptyBucket cr d).Tells Failure.upshot description s := by
  refine .bind (Storage.getOrCreate_tells _ _ _ hd.location _) fun found t _ =>
    .bind (Storage.isEmpty_tells _ _ _) fun empty u _ => ?_
  split
  · exact .note_bind fun _ => .pure _
  · exact .fail rfl

theorem account_tells (hd : d.IsSpelled) :
    (account cr d).Tells Failure.upshot (description d) s := by
  obtain ⟨process, hprocess⟩ := hd.process
  have hid : accountIdOf d.transferProcess = .ok (accountId process) := by
    rw [hprocess, accountIdOf]
  exact .ofExcept_bind hid (.bind (Identity.getOrCreate_tells _ _ _) fun _ _ _ =>
    .note_bind fun _ => .pure _)

theorem after_tells {α : Type} {x : Action Session Failure α} {description : String}
    (hx : x.Tells Failure.upshot description s) (stage : Stage) :
    (after stage x).Tells (fun e => e.2.upshot) description s := hx.mapError fun _ => rfl

/-- The stages are honest. -/
theorem stages_tells {lifetime : Value} {n : Int} (hlifetime : Identity.lifetimeOf lifetime = .ok n)
    (hpolicies : ∀ b ∈ s.cloud.buckets, ∀ x ∈ b.bindings, x.IsWellFormed) (hd : d.IsSpelled)
    (hcred : d.address.Resolves s) :
    (stages lifetime d).Tells (fun e => e.2.upshot) (description d) s := by
  refine .bind (after_tells ?_ _) fun cr s₀ h₀ => ?_
  · exact .bind (Address.credentials_tells hcred _) fun _ _ _ => .note_bind fun _ => .pure _
  refine .bind (after_tells (emptyBucket_tells cr hd _) _) fun b s₁ h₁ => ?_
  refine .bind (after_tells (account_tells cr hd) _) fun a s₂ h₂ => ?_
  refine .bind (after_tells (Storage.grant_tells _ ?_) _) fun _ s₃ _ => ?_
  -- The policy that the right is added to is that of a bucket of the cloud, or an empty one.
  · have hcloud := credentials_cloud d s
    rw [after, Action.mapError_eq_ok_iff] at h₀ h₁ h₂
    rw [h₀] at hcloud
    have hidentity := identityReady_of_runs h₁ h₂
    intro b' hb'
    rw [Cloud.name_of_bucket? hidentity.bucket?, hidentity.bucket?] at hb'
    cases hb'
    exact hidentity.isWellFormed (hcloud ▸ hpolicies)
  exact .bind (after_tells (Identity.issueToken_tells cr hlifetime _) _) fun _ _ _ => .pure _

end Provision

/-- How a run ends that met some faults. If all of them are recognised, it ends in a success without
a message or in a fatal failure with one message and no content. One that is not comes out as it is,
and no error is logged. -/
structure Uniform {α : Type} (description : String) (es : List Exchange) (s : Session)
    (run : Except Failure (Outcome α) × Session) : Prop where
  outcome : (∀ f ∈ faults description es, f.isRecognised) → ∃ o, run.1 = .ok o ∧
    (o.status = .ok ∧ o.messages = [] ∨
      o.status = .fatalError ∧ o.content = none ∧ ∃ m, o.messages = [.text m])
  passes : ∀ f ∈ faults description es, f.isRecognised = false →
    run.1 = .error (.fault f) ∧ Quiet s run.2

namespace Uniform

variable {description : String} {es : List Exchange} {s : Session}

/-- An honest run is uniform if it answers what is settled in one of the two forms and passes on
what is not, quietly. -/
theorem of_honest {α : Type} {run : Except Failure (Outcome α) × Session} {u : Upshot}
    (h : Honest description es u)
    (hsettled : u = .settled → (∃ content, run.1 = .ok (.success content)) ∨
      ∃ m, run.1 = .ok (.failure .fatalError [.text m]))
    (hpassed : ∀ f, u = .passed f → run.1 = .error (.fault f) ∧ Quiet s run.2) :
    Uniform description es s run where
  outcome hrecognised := by
    rcases u with _ | f | _
    · rcases hsettled rfl with ⟨content, hrun⟩ | ⟨m, hrun⟩
      · exact ⟨_, hrun, Or.inl ⟨rfl, rfl⟩⟩
      · exact ⟨_, hrun, Or.inr ⟨rfl, rfl, m, rfl⟩⟩
    · obtain ⟨hf, hforeign⟩ := (h.passed_iff f).1 rfl
      rw [hrecognised f hf] at hforeign
      cases hforeign
    · exact absurd rfl h.straight
  passes f hf hforeign := hpassed f ((h.passed_iff f).2 ⟨hf, hforeign⟩)

theorem of_provision {d : Definition} {lifetime : Value}
    (h : Honest description es
      (upshotOf (fun e => e.2.upshot) (Provision.stages lifetime d (Provision.opened d s)).1)) :
    Uniform description es s (provision lifetime d s) := by
  have hquiet := (Provision.opened_quiet d s).trans (Provision.stages_quiet lifetime d _)
  rw [Provision.provision_eq]
  generalize Provision.stages lifetime d (Provision.opened d s) = run at h hquiet
  rcases run with ⟨⟨stage, e⟩ | ⟨a, token⟩, t⟩
  · refine of_honest h (fun hu => Or.inr ⟨e.message, ?_⟩) fun f hu => ?_
    · exact if_pos (Failure.isReported_of_upshot hu)
    · cases Failure.eq_fault_of_upshot hu
      refine ⟨rfl, hquiet.trans (.of_eq ?_)⟩
      exact List.append_nil _
  · exact of_honest h (fun _ => Or.inl ⟨_, rfl⟩) nofun

theorem of_deprovision {r : Resource}
    (h : Honest description es
      (upshotOf Failure.upshot (Deprovision.removal r (Deprovision.opened r s)).1)) :
    Uniform description es s (deprovision r s) := by
  have hquiet := (Deprovision.opened_quiet r s).trans (Deprovision.removal_quiet r _)
  rw [Deprovision.deprovision_eq]
  generalize Deprovision.removal r (Deprovision.opened r s) = run at h hquiet
  rcases run with ⟨e | _, t⟩
  · refine of_honest h (fun hu => Or.inr ⟨s!"Deprovision failed with: {e.message}", ?_⟩)
      fun f hu => ?_
    · exact if_pos (Failure.isReported_of_upshot hu)
    · cases Failure.eq_fault_of_upshot hu
      refine ⟨rfl, hquiet.trans (.of_eq ?_)⟩
      exact List.append_nil _
  · exact of_honest h (fun _ => Or.inl ⟨_, rfl⟩) nofun

end Uniform

theorem provision_uniform {lifetime : Value} {n : Int}
    (hlifetime : Identity.lifetimeOf lifetime = .ok n) {s : Session}
    (hpolicies : ∀ b ∈ s.cloud.buckets, ∀ x ∈ b.bindings, x.IsWellFormed) {d : Definition}
    (hd : d.IsSpelled) (hcred : d.address.Resolves (Provision.opened d s)) :
    ∃ es, Dialogue s es (provision lifetime d s).2 ∧
      Uniform (accountDescription d.transferProcess d.targetBucket) es s
        (provision lifetime d s) := by
  obtain ⟨es, hes, hhonest⟩ := Provision.stages_tells (s := Provision.opened d s) hlifetime
    hpolicies hd hcred
  refine ⟨es, ?_, .of_provision hhonest⟩
  rw [Provision.provision_eq]
  exact ⟨hes.calls, hes.replay⟩

theorem deprovision_uniform {r : Resource} {s : Session}
    (hcred : r.address.Resolves (Deprovision.opened r s)) :
    ∃ es, Dialogue s es (deprovision r s).2 ∧
      Uniform (accountDescription r.transferProcess r.bucketName) es s (deprovision r s) := by
  have htells : (Deprovision.removal r).Tells Failure.upshot
      (accountDescription r.transferProcess r.bucketName) (Deprovision.opened r s) :=
    .bind (Address.credentials_tells hcred _) fun cr _ _ => Identity.delete_tells cr _ _ _
  obtain ⟨es, hes, hhonest⟩ := htells
  refine ⟨es, ?_, .of_deprovision hhonest⟩
  rw [Deprovision.deprovision_eq]
  exact ⟨hes.calls, hes.replay⟩

/-- **Every ending in one form.** -/
theorem results_uniform (lifetime : Value) (n : Int)
    (hlifetime : Identity.lifetimeOf lifetime = .ok n) (s : Session)
    (hpolicies : ∀ b ∈ s.cloud.buckets, ∀ x ∈ b.bindings, x.IsWellFormed) :
    (∀ d : Definition, d.IsSpelled → d.address.Resolves (Provision.opened d s) →
      ∃ es, Dialogue s es (provision lifetime d s).2 ∧
        Uniform (accountDescription d.transferProcess d.targetBucket) es s
          (provision lifetime d s)) ∧
    ∀ r : Resource, r.address.Resolves (Deprovision.opened r s) →
      ∃ es, Dialogue s es (deprovision r s).2 ∧
        Uniform (accountDescription r.transferProcess r.bucketName) es s (deprovision r s) := by
  exact ⟨fun d hd hcred => provision_uniform hlifetime hpolicies hd hcred,
    fun r hcred => deprovision_uniform hcred⟩

/-- A bucket that others make first, and that cannot be read then: the fault comes out of the
handler of the lost race, while the account is given up as usual. -/
theorem results_uniform_lost_race :
    let f : Fault := ⟨.foreign .runtime, "stopped"⟩
    let s : Session := {
      schedule := (Schedule.none.append .createBucket [some (.raise ⟨.call .conflict, "taken"⟩)]).append
        .getBucket [some (.raise f)]
      vault := { kind := .environment } }
    let d : Definition := {
      id := .text "b1", transferProcess := .text "tp-1", location := .text "EU"
      project := .text "p1" }
    let r : Resource := Provision.record d
      (Remote.newAccount (.text "p1") "edc-tp1" (Provision.description d))
    Identity.lifetimeOf (.int 3600) = .ok 3600 ∧
      (∀ b ∈ s.cloud.buckets, ∀ x ∈ b.bindings, x.IsWellFormed) ∧ d.IsSpelled ∧
      d.address.Resolves (Provision.opened d s) ∧ r.address.Resolves (Deprovision.opened r s) ∧
      (∃ es, Dialogue s es (provision (.int 3600) d s).2 ∧
        Uniform (accountDescription d.transferProcess d.targetBucket) es s
          (provision (.int 3600) d s)) ∧
      (provision (.int 3600) d s).1 = .error (.fault f) ∧
      (∃ es, Dialogue s es (deprovision r s).2 ∧
        Uniform (accountDescription r.transferProcess r.bucketName) es s (deprovision r s)) ∧
      (deprovision r s).1 = .ok (.success ⟨.text "b1"⟩) := by
  intro f s d r
  have hpolicies : ∀ b ∈ s.cloud.buckets, ∀ x ∈ b.bindings, x.IsWellFormed :=
    fun b hb => absurd hb List.not_mem_nil
  have hd : d.IsSpelled := ⟨⟨"tp-1", rfl⟩, rfl⟩
  have hcred : d.address.Resolves (Provision.opened d s) := Or.inl ⟨_, rfl⟩
  have hcred' : r.address.Resolves (Deprovision.opened r s) := Or.inl ⟨_, rfl⟩
  obtain ⟨hprovision, hdeprovision⟩ := results_uniform (.int 3600) 3600 rfl s hpolicies
  exact ⟨rfl, hpolicies, hd, hcred, hcred', hprovision d hd hcred, by decide +kernel +zetaReduce,
    hdeprovision r hcred', by decide +kernel +zetaReduce⟩

end TransferBucket
