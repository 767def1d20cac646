import TransferBucket.Proofs.Dialogue

/-!
# The order of effects

**Theorem (`provision_order`).** A provisioning first searches for credentials, and calls nothing
else before it has them. Its further calls come in the order of the stages, and a call of a stage
is made only after an exchange that completes each stage before it: a list of the bucket without
objects, an account that was found or made, a policy that was stored. If the provisioning stops, no
call of a later stage is made; and if it reports that, it logs one error, which names the last stage
completed and has the message of the failure.

**Progress** (`Progress d stage es`). The exchanges `es` are in order, they complete all stages up
to `stage`, and none is of a later one. A step after a stage adds exchanges of this stage
(`Progress.append`), and once they complete the next stage, the next stage has begun
(`Progress.advance`). The last stage completed, which the log names, is thus the stage of the last
calls.
-/

namespace TransferBucket

open Session

/-! ## Stages of calls -/

/-- The place of a stage in the order of the stages. -/
def Stage.rank : Stage → Nat
  | .requested => 0
  | .credentialsResolved => 1
  | .bucketReady => 2
  | .identityReady => 3
  | .permissionGranted => 4

/-- The last stage completed when a method is called. -/
def Method.stage : Method → Stage
  | .openSecrets | .readSecret | .loadKeyFile | .findDefault => .requested
  | .openStorage | .lookupBucket | .getBucket | .createBucket | .listObjects => .credentialsResolved
  | .openIdentity | .listAccounts | .createAccount | .getAccount | .deleteAccount => .bucketReady
  | .getPolicy | .setPolicy => .identityReady
  | .openIssuer | .issueToken => .permissionGranted

theorem Method.stage_of_searching : ∀ m ∈ Source.methods, m.stage = .requested := by decide

/-- The last stage completed when an exchange was made. -/
def Exchange.stage (x : Exchange) : Stage := x.call.method.stage

/-- An exchange that gives the account with a description: it was listed, made under an id, or read
under the id. -/
inductive Exchange.GivesAccount (project : Value) (i description : String) : Exchange → Prop where
  | listed {l : Remote.Listing Account} {a : Account} (there : a ∈ l.items)
      (describes : a.description = description) :
      GivesAccount project i description
        ⟨.listAccounts (Remote.projectName project), .ok (.accounts l)⟩
  | made {a : Account} : GivesAccount project i description
      ⟨.createAccount (Remote.projectName project) i i description, .ok (.account a)⟩
  | taken {a : Account} (describes : a.description = description) :
      GivesAccount project i description
        ⟨.getAccount (Remote.accountName project (Remote.accountEmail i project)),
          .ok (.account a)⟩

namespace Provision

/-- Among what was exchanged is what completes a stage. The first two stages leave no trace of
their own: credentials may be found without a call. -/
def Completes (d : Definition) : Stage → List Exchange → Prop
  | .requested, _ => True
  | .credentialsResolved, _ => True
  | .bucketReady, es => ⟨.listObjects d.targetBucket 1, .ok (.objects ⟨[], none⟩)⟩ ∈ es
  | .identityReady, es => ∃ i, accountIdOf d.transferProcess = .ok i ∧ ∃ x ∈ es,
      x.GivesAccount d.project i (accountDescription d.transferProcess d.targetBucket)
  | .permissionGranted, es => ∃ gs, ⟨.setPolicy d.targetBucket gs, .ok .done⟩ ∈ es

theorem Completes.mono {d : Definition} {stage : Stage} {es ds : List Exchange}
    (h : Completes d stage es) (hsub : es ⊆ ds) : Completes d stage ds := by
  cases stage with
  | requested => trivial
  | credentialsResolved => trivial
  | bucketReady => exact hsub h
  | identityReady =>
    obtain ⟨i, hi, x, hx, hgives⟩ := h
    exact ⟨i, hi, x, hsub hx, hgives⟩
  | permissionGranted =>
    obtain ⟨gs, hgs⟩ := h
    exact ⟨gs, hsub hgs⟩

/-- Exchanges with credentials, in the order of the stages: each is preceded by what completes the
stages before it. -/
structure InOrder (d : Definition) (es : List Exchange) : Prop where
  resolved : ∀ x ∈ es, x.call.method ∉ Source.methods
  sorted : es.Pairwise fun x y => x.stage.rank ≤ y.stage.rank
  completed : ∀ before x after, es = before ++ x :: after →
    ∀ stage, stage.rank ≤ x.stage.rank → Completes d stage before

/-- Exchanges in order that have completed the stages up to one, and are of none after it. -/
structure Progress (d : Definition) (stage : Stage) (es : List Exchange) : Prop extends
    InOrder d es where
  begun : stage ≠ .requested
  completes : ∀ stage', stage'.rank ≤ stage.rank → Completes d stage' es
  bounded : ∀ x ∈ es, x.stage.rank ≤ stage.rank

namespace Progress

variable {d : Definition} {stage next : Stage} {es ds : List Exchange}

/-- The first exchanges come after the credentials. -/
theorem start (d : Definition) : Progress d .credentialsResolved [] where
  resolved x hx := absurd hx List.not_mem_nil
  sorted := List.Pairwise.nil
  completed before x after h := by simp at h
  begun := nofun
  completes stage h := by
    cases stage with
    | requested => trivial
    | credentialsResolved => trivial
    | _ => exact absurd h (by decide)
  bounded x hx := absurd hx List.not_mem_nil

/-- Exchanges of the stage that has come are in order after those before. -/
theorem append (h : Progress d stage es) (hds : ∀ x ∈ ds, x.stage = stage) :
    Progress d stage (es ++ ds) where
  begun := h.begun
  resolved x hx := by
    rcases List.mem_append.1 hx with hx | hx
    · exact h.resolved x hx
    · exact fun hin => h.begun ((hds x hx).symm.trans (Method.stage_of_searching _ hin))
  sorted := by
    refine List.pairwise_append.2 ⟨h.sorted, ?_, fun x hx y hy => ?_⟩
    · refine List.pairwise_iff_forall_sublist.2 fun {x y} hxy => ?_
      exact Nat.le_of_eq (by rw [hds x (hxy.subset (by simp)), hds y (hxy.subset (by simp))])
    · rw [hds y hy]
      exact h.bounded x hx
  completed before x after heq stage' hle := by
    rcases List.append_eq_append_iff.1 heq with ⟨as, rfl, hlater⟩ | ⟨bs, hearlier, hrest⟩
    · have hx : x ∈ ds := by simp [hlater]
      rw [hds x hx] at hle
      exact (h.completes stage' hle).mono (List.subset_append_left _ _)
    · rcases bs with _ | ⟨y, bs⟩
      · rw [List.append_nil] at hearlier
        rw [List.nil_append] at hrest
        rw [hds x (hrest ▸ List.mem_cons_self)] at hle
        exact hearlier ▸ h.completes stage' hle
      · obtain ⟨rfl, -⟩ := List.cons.inj hrest
        exact h.completed before x bs hearlier stage' hle
  completes stage' hle := (h.completes stage' hle).mono (List.subset_append_left _ _)
  bounded x hx := by
    rcases List.mem_append.1 hx with hx | hx
    · exact h.bounded x hx
    · exact Nat.le_of_eq (congrArg Stage.rank (hds x hx))

/-- What completes the next stage begins it. -/
theorem advance (h : Progress d stage es) (hnext : next.rank = stage.rank + 1)
    (hc : Completes d next es) : Progress d next es where
  toInOrder := h.toInOrder
  begun hnone := by
    rw [hnone] at hnext
    cases hnext
  completes stage' hle := by
    rcases Nat.lt_or_ge stage.rank stage'.rank with hlt | hge
    · have heq : stage' = next := by
        have hrank : stage'.rank = next.rank := by omega
        cases stage' <;> cases next <;> first | rfl | cases hrank
      exact heq ▸ hc
    · exact h.completes stage' hge
  bounded x hx := by
    have hle := h.bounded x hx
    omega

end Progress

end Provision

/-! ## What steps exchange -/

namespace Remote

/-- Something was exchanged, and if a value came of it, then by a call that was answered with it. -/
def Answered {ε α : Type} (c : Call) (wrap : α → Reply) (es : List Exchange) (r : Except ε α) :
    Prop := es ≠ [] ∧ ∀ a, r = .ok a → ⟨c, .ok (wrap a)⟩ ∈ es

variable {ε δ α : Type} {c c' : Call} {wrap : α → Reply} {es : List Exchange} {s : Session}

theorem Asked.answered {r : Except Fault α} (h : Asked c wrap es r) : Answered c wrap es r := by
  subst h
  refine ⟨List.cons_ne_nil _ _, fun a ha => ?_⟩
  subst ha
  exact List.mem_singleton_self _

theorem Answered.mapError {r : Except ε α} (h : Answered c wrap es r) (f : ε → δ) :
    Answered c wrap es (r.mapError f) := by
  refine ⟨h.1, fun a ha => h.2 a ?_⟩
  cases r with
  | ok b => cases ha; rfl
  | error e => cases ha

/-- A call after a client was opened for it. -/
theorem answered_of_opened {o : Remote Unit} {x : Remote α} (ho : o.Exchanges (Opened c') s)
    (hx : ∀ t, x.Exchanges (Asked c wrap) t) :
    (o >>= fun _ => x).Exchanges (Answered c wrap) s := by
  refine ho.bind (fun es f h => ?_) fun es _ t _ _ => (hx t).mono fun ds r h => ?_
  · rcases h with ⟨-, ⟨⟩⟩ | rfl
    exact ⟨List.cons_ne_nil _ _, nofun⟩
  · obtain ⟨hne, hin⟩ := h.answered
    exact ⟨List.append_ne_nil_of_right_ne_nil _ hne, fun a ha =>
      List.mem_append_right _ (hin a ha)⟩

end Remote

variable {s : Session} (cr : Credentials)

namespace Storage

variable (project name location storageClass : Value)

theorem getOrCreate_exchanges : (getOrCreate cr project name location storageClass).Exchanges
    (fun es _ => es ≠ []) s := by
  have hlooked := (Remote.answered_of_opened (Remote.openStorage_exchanges project cr (s := s))
    fun t => Remote.lookupBucket_exchanges name).mono fun es r h =>
      h.mapError (unavailable name location)
  refine .bind (.mapError hlooked) (fun es e h => h.1) fun es found t _ h => ?_
  have hne : ∀ ds, es ++ ds ≠ [] := fun ds => List.append_ne_nil_of_left_ne_nil h.1 ds
  cases found with
  | some b => exact .note_bind fun _ => .pure (hne _)
  | none =>
    refine .resume (Remote.createBucket_exchanges _ _ _) fun ds r u _ => ?_
    cases r with
    | ok b =>
      exact .bind (P := fun _ _ => True) (.ofExcept trivial) (fun _ _ _ => hne _)
        fun _ _ _ _ _ => .note_bind fun _ => .pure (hne _)
    | error f =>
      dsimp only
      split
      · refine .note_bind fun v => .bind (P := fun _ _ => True) (.mapError ?_)
          (fun _ _ _ => hne _) fun _ _ _ _ _ => .pure (hne _)
        exact (Remote.getBucket_exchanges name).mono fun _ _ _ => trivial
      · exact .fail (hne _)

theorem isEmpty_exchanges : (isEmpty cr project name).Exchanges
    (fun es r => r = .ok true → ⟨.listObjects name 1, .ok (.objects ⟨[], none⟩)⟩ ∈ es) s := by
  refine .mapError (.bind (Remote.openStorage_exchanges _ _) (fun _ _ _ => nofun)
    fun _ _ t _ _ => .bind (Remote.listObjects_exchanges _ _) (fun _ _ _ => nofun)
      fun ds l u _ h => ?_)
  obtain ⟨_ | ⟨o, os⟩, _ | f⟩ := l
  · exact .pure fun _ => List.mem_append_right _ (List.mem_append_left _ (h.answered.2 _ rfl))
  · exact .fail nofun
  · exact .pure nofun
  · exact .pure nofun

end Storage

namespace Identity

variable (project : Value) (i description : String)

theorem find?_exchanges : (find? cr project description).Exchanges
    (fun es r => es ≠ [] ∧ ∀ a, r = .ok (some a) →
      ∃ x ∈ es, x.GivesAccount project i description) s := by
  refine .mapError (.bind (Remote.openIdentity_exchanges _) (fun es f h => ?_)
    fun es _ t _ _ => .bind (Remote.listAccounts_exchanges _) (fun ds f h => ?_)
      fun ds l u _ h => ?_)
  · rcases h with ⟨-, ⟨⟩⟩ | rfl
    exact ⟨List.cons_ne_nil _ _, nofun⟩
  · exact ⟨List.append_ne_nil_of_right_ne_nil _ h.answered.1, nofun⟩
  · have hne : ∀ ds' : List Exchange, es ++ (ds ++ ds') ≠ [] := fun ds' =>
      List.append_ne_nil_of_right_ne_nil _ (List.append_ne_nil_of_left_ne_nil h.answered.1 _)
    have hlisted := h.answered.2 l rfl
    split
    · rename_i a ha
      refine .pure ⟨hne _, fun _ _ => ⟨_, ?_, .listed (List.mem_of_find?_eq_some ha) ?_⟩⟩
      · exact List.mem_append_right _ (List.mem_append_left _ hlisted)
      · simpa using List.find?_some ha
    · split
      · exact .fail ⟨hne _, nofun⟩
      · exact .pure ⟨hne _, nofun⟩

theorem takeExisting_exchanges : (takeExisting cr project i description).Exchanges
    (fun es r => ∀ a, r = .ok a → ∃ x ∈ es, x.GivesAccount project i description) s := by
  have hread := (Remote.answered_of_opened (Remote.openIdentity_exchanges cr (s := s)) fun t =>
    Remote.getAccount_exchanges (Remote.accountName project (Remote.accountEmail i project))).mono
      fun es r h => h.mapError (reported (.accountUnread (Remote.accountEmail i project)))
  refine .bind (.mapError hread) (fun _ _ _ => nofun) fun es a t _ h => ?_
  split
  · rename_i hdescribes
    refine .note_bind fun _ => .pure fun _ _ => ⟨_, ?_, .taken hdescribes⟩
    exact List.mem_append_left _ (h.2 a rfl)
  · exact .fail nofun

theorem getOrCreate_exchanges : (getOrCreate cr project i description).Exchanges
    (fun es r => es ≠ [] ∧ ∀ found, r = .ok found →
      ∃ x ∈ es, x.GivesAccount project i description) s := by
  refine .bind (find?_exchanges cr project i description) (fun es e h => ⟨h.1, nofun⟩)
    fun es found t _ h => ?_
  have hne : ∀ ds, es ++ ds ≠ [] := fun ds => List.append_ne_nil_of_left_ne_nil h.1 ds
  cases found with
  | some a =>
    obtain ⟨x, hx, hgives⟩ := h.2 a rfl
    exact .note_bind fun _ => .pure ⟨hne _, fun _ _ => ⟨x, List.mem_append_left _ hx, hgives⟩⟩
  | none =>
    refine .resume (Remote.answered_of_opened (Remote.openIdentity_exchanges _) fun _ =>
      Remote.createAccount_exchanges project i description) fun ds r u h' => ?_
    cases r with
    | ok a =>
      refine .note_bind fun _ => .pure ⟨hne _, fun _ _ => ⟨_, ?_, .made (a := a)⟩⟩
      exact List.mem_append_right _ (List.mem_append_left _ (h'.2 a rfl))
    | error f =>
      dsimp only
      split
      · refine .bind (takeExisting_exchanges cr project i description)
          (fun _ _ _ => ⟨hne _, nofun⟩) fun ds' a v _ htaken => ?_
        obtain ⟨x, hx, hgives⟩ := htaken a rfl
        refine .pure ⟨hne _, fun _ _ => ⟨x, ?_, hgives⟩⟩
        exact List.mem_append_right _ (List.mem_append_right _ (List.mem_append_left _ hx))
      · exact .fail ⟨hne _, nofun⟩

end Identity

namespace Provision

/-- What a step exchanged: something, if it ended in an error that is reported, and what `C` asks
for, if in a value. -/
def Yields {α : Type} (C : List Exchange → α → Prop) (es : List Exchange) (r : Except Failure α) :
    Prop := (∀ e, r = .error e → e.isReported → es ≠ []) ∧ ∀ a, r = .ok a → C es a

section Yields

variable {α : Type} {C : List Exchange → α → Prop} {es : List Exchange} {e : Failure}

theorem Yields.ok {a : α} (h : C es a) : Yields C es (.ok a) := by
  refine ⟨fun e he => ?_, fun a ha => ?_⟩ <;> cases ‹_ = _›
  exact h

theorem Yields.error (h : e.isReported → es ≠ []) : Yields C es (.error e) := by
  refine ⟨fun e he => ?_, fun a ha => ?_⟩ <;> cases ‹_ = _›
  exact h

end Yields

variable (d : Definition)

theorem emptyBucket_exchanges : (emptyBucket cr d).Exchanges
    (Yields fun es _ => Completes d .bucketReady es) s := by
  refine .bind (Storage.getOrCreate_exchanges _ _ _ _ _) (fun es e h => .error fun _ => h)
    fun es found t _ h => ?_
  have hne : ∀ ds, es ++ ds ≠ [] := fun ds => List.append_ne_nil_of_left_ne_nil h ds
  refine .bind (Storage.isEmpty_exchanges _ _ _) (fun ds e _ => .error fun _ => hne _)
    fun ds empty u _ hlisted => ?_
  cases empty with
  | true =>
    refine .note_bind fun _ => .pure (.ok ?_)
    exact List.mem_append_right _ (List.mem_append_left _ (hlisted rfl))
  | false => exact .fail (.error fun _ => hne _)

theorem not_isReported_of_accountIdOf {v : Value} {e : Failure} (h : accountIdOf v = .error e) :
    ¬e.isReported := by
  cases v with
  | text s => cases h
  | _ =>
    cases h
    exact Bool.false_ne_true

theorem account_exchanges : (account cr d).Exchanges
    (Yields fun es _ => Completes d .identityReady es) s := by
  refine .bind (P := fun _ r => accountIdOf d.transferProcess = r) (.ofExcept rfl) (fun _ e h => ?_)
    fun es i t _ hid => ?_
  · exact .error fun hreported => absurd hreported (not_isReported_of_accountIdOf h)
  · refine .bind (Identity.getOrCreate_exchanges _ _ _ _) (fun ds e h => ?_)
      fun ds found u _ h => ?_
    · exact .error fun _ => List.append_ne_nil_of_right_ne_nil _ h.1
    · obtain ⟨x, hx, hgives⟩ := h.2 found rfl
      refine .note_bind fun _ => .pure (.ok ⟨i, hid, x, ?_, hgives⟩)
      exact List.mem_append_right _ (List.mem_append_left _ hx)

end Provision

theorem Storage.grant_exchanges (bucket : Value) (email : String) :
    (grant bucket email).Exchanges (Provision.Yields fun es _ =>
      ∃ gs, ⟨.setPolicy bucket gs, .ok .done⟩ ∈ es) s := by
  have hread := (Remote.getPolicy_exchanges bucket Policy.version (s := s)).mono fun es r h =>
    h.answered.mapError (reported (.grantRefused email bucket))
  refine .bind (.mapError hread) (fun es e h => .error fun _ => h.1) fun es bindings t _ h => ?_
  have hne : ∀ ds, es ++ ds ≠ [] := fun ds => List.append_ne_nil_of_left_ne_nil h.1 ds
  refine .bind (P := fun _ _ => True) (.ofExcept trivial) (fun _ _ _ => .error fun _ => hne _)
    fun ds gs u _ _ => ?_
  have hwrite := (Remote.setPolicy_exchanges bucket gs (s := u)).mono fun es r h =>
    h.answered.mapError (reported (.grantRefused email bucket))
  refine .bind (.mapError hwrite) (fun _ _ _ => .error fun _ => hne _) fun ds' _ v _ h' => ?_
  refine .note (.ok ⟨gs, ?_⟩)
  exact List.mem_append_right _ (List.mem_append_right _ (List.mem_append_left _ (h'.2 () rfl)))

namespace Identity

theorem not_isReported_of_lifetimeOf {v : Value} {e : Failure} (h : lifetimeOf v = .error e) :
    ¬e.isReported := by
  cases v with
  | null => cases h
  | int n =>
    rw [lifetimeOf] at h
    split at h <;> cases h
    exact Bool.false_ne_true
  | _ =>
    cases h
    exact Bool.false_ne_true

theorem issueToken_exchanges (lifetime : Value) (email : String) :
    (issueToken cr lifetime email).Exchanges (Provision.Yields fun _ _ => True) s := by
  refine .bind (.mapError (Q := fun es r => ∀ e, r = .error e → es ≠ []) ?_)
    (fun es e h => .error fun _ => h e rfl) fun es _ t _ _ => ?_
  · refine (Remote.openIssuer_exchanges cr).mono fun es r h e he => ?_
    rcases h with ⟨-, rfl⟩ | rfl
    · cases he
    · exact List.cons_ne_nil _ _
  refine .bind (P := fun _ r => lifetimeOf lifetime = r) (.ofExcept rfl) (fun _ e h => ?_)
    fun ds n u _ _ => ?_
  · exact .error fun hreported => absurd hreported (not_isReported_of_lifetimeOf h)
  have hissued := (Remote.issueToken_exchanges s!"projects/-/serviceAccounts/{email}" tokenScopes n
    (s := u)).mono fun es r h => h.answered.mapError (reported (.tokenNotIssued email))
  refine .bind (.mapError hissued) (fun ds' e h => .error fun _ => ?_) fun _ _ _ _ _ => ?_
  · exact List.append_ne_nil_of_right_ne_nil _ (List.append_ne_nil_of_right_ne_nil _ h.1)
  · exact .note_bind fun _ => .pure (.ok trivial)

end Identity

/-! ## Stages -/

namespace Provision

/-- How exchanges with credentials end: a provisioning that stops has made progress to the stage
that its error carries; if the error is reported, the last exchange is one of this stage. -/
def Ended {β : Type} (d : Definition) (es : List Exchange) :
    Except (Stage × Failure) β → Prop
  | .ok _ => Progress d .permissionGranted es
  | .error (stage, e) =>
    Progress d stage es ∧ (e.isReported → ∃ x, es.getLast? = some x ∧ x.stage = stage)

/-- A step after a stage goes on with the exchanges of this stage. -/
theorem Progress.bind {α β : Type} {d : Definition} {stage : Stage} {ms : List Method}
    {es : List Exchange} {x : Action Session Failure α} {C : List Exchange → α → Prop}
    {f : α → Action Session (Stage × Failure) β} (h : Progress d stage es)
    (hms : ∀ m ∈ ms, m.stage = stage) (hcalls : x.Along (Calls ms)) (hx : x.Exchanges (Yields C) s)
    (hf : ∀ a t ds, x s = (.ok a, t) → Progress d stage (es ++ ds) → C ds a →
      (f a).Exchanges (fun ds' r => Ended d (es ++ ds ++ ds') r) t) :
    (after stage x >>= f).Exchanges (fun ds r => Ended d (es ++ ds) r) s := by
  obtain ⟨ds, hds, hfail, hok⟩ := hx
  have hstage : ∀ y ∈ ds, y.stage = stage := fun y hy =>
    hms _ (hds.method_mem (hcalls s) y hy)
  have hprogress := h.append hstage
  rcases hxs : x s with ⟨e | a, t⟩ <;> rw [hxs] at hds hfail hok
  · rw [Action.Exchanges, Action.bind_of_error (after_of_error hxs)]
    refine ⟨ds, hds, hprogress, fun he => ?_⟩
    have hne := hfail e rfl he
    refine ⟨ds.getLast hne, ?_, ?_⟩
    · rw [List.getLast?_append, List.getLast?_eq_some_getLast hne]
      rfl
    · exact hstage _ (List.getLast_mem hne)
  · rw [Action.Exchanges, Action.bind_of_ok (after_of_ok hxs)]
    obtain ⟨ds', hds', hended⟩ := hf a t ds hxs hprogress (hok a rfl)
    exact ⟨ds ++ ds', hds.trans hds', by rwa [← List.append_assoc]⟩

theorem credentials_searching (d : Definition) : (credentials d).Along Searching :=
  credentials_along searching_permits (Address.credentials_searching _ _)

/-- Once there are credentials, the exchanges of the stages end as they should. -/
theorem stages_exchanges (lifetime : Value) {d : Definition} {s s₀ : Session} {cr : Credentials}
    (hcred : credentials d s = (.ok cr, s₀)) :
    ∃ made, Dialogue s₀ made (stages lifetime d s).2 ∧ Ended d made (stages lifetime d s).1 := by
  rw [stages, Action.bind_of_ok (after_of_ok hcred)]
  have haccount : (account cr d).Along (Calls Identity.methods) :=
    account_along (Calls.permits _) (fun _ _ => .of_eq rfl rfl) (fun _ _ _ _ => .of_eq rfl rfl) cr
  have hgrant : ∀ bucket email,
      (Storage.grant bucket email).Along (Calls [.getPolicy, .setPolicy]) :=
    fun _ _ => Storage.grant_along (Calls.permits _) (by decide) (by decide)
      fun _ _ _ => .of_eq rfl rfl
  have htoken : ∀ email, (Identity.issueToken cr lifetime email).Along
      (Calls [.openIssuer, .issueToken]) := fun _ =>
    Identity.issueToken_along (Calls.permits _) (by decide) (by decide) (fun _ _ => .of_eq rfl rfl)
      (fun _ => .of_eq rfl rfl) _ _ _
  refine (Progress.start d).bind (by decide) (emptyBucket_calls cr d) (emptyBucket_exchanges cr d)
    fun b s₁ es₁ hb h₁ hc₁ => ?_
  have hname : b.name = d.targetBucket := Cloud.name_of_bucket? (bucketReady_of_run hb).there
  refine (h₁.advance rfl (hc₁.mono (List.subset_append_right _ _))).bind (by decide) haccount
    (account_exchanges cr d) fun a s₂ es₂ _ h₂ hc₂ => ?_
  refine (h₂.advance rfl (hc₂.mono (List.subset_append_right _ _))).bind (by decide)
    (hgrant b.name a.email) (Storage.grant_exchanges _ _) fun _ s₃ es₃ _ h₃ hc₃ => ?_
  rw [hname] at hc₃
  have hgranted : Completes d .permissionGranted es₃ := hc₃
  refine (h₃.advance rfl (hgranted.mono (List.subset_append_right _ _))).bind (by decide)
    (htoken a.email) (Identity.issueToken_exchanges cr lifetime _) fun token s₄ es₄ _ h₄ _ => ?_
  refine .pure ?_
  rw [List.append_nil]
  exact h₄

/-! ## What stops a provisioning -/

/-- The step that stopped the stages, by the last stage completed before it, and its failure. -/
inductive Stopped (lifetime : Value) (d : Definition) (s : Session) : Stage → Failure → Prop where
  | credentials {e : Failure} {s₀ : Session} (stop : credentials d s = (.error e, s₀)) :
      Stopped lifetime d s .requested e
  | bucket {cr : Credentials} {s₀ s₁ : Session} {e : Failure}
      (found : Provision.credentials d s = (.ok cr, s₀))
      (stop : emptyBucket cr d s₀ = (.error e, s₁)) : Stopped lifetime d s .credentialsResolved e
  | account {cr : Credentials} {s₀ s₁ s₂ : Session} {b : Bucket} {e : Failure}
      (found : Provision.credentials d s = (.ok cr, s₀))
      (ready : emptyBucket cr d s₀ = (.ok b, s₁))
      (stop : account cr d s₁ = (.error e, s₂)) : Stopped lifetime d s .bucketReady e
  | grant {cr : Credentials} {s₀ s₁ s₂ s₃ : Session} {b : Bucket} {a : Account} {e : Failure}
      (found : Provision.credentials d s = (.ok cr, s₀))
      (ready : emptyBucket cr d s₀ = (.ok b, s₁)) (known : Provision.account cr d s₁ = (.ok a, s₂))
      (stop : Storage.grant b.name a.email s₂ = (.error e, s₃)) :
      Stopped lifetime d s .identityReady e
  | token {cr : Credentials} {s₀ s₁ s₂ s₃ s₄ : Session} {b : Bucket} {a : Account} {e : Failure}
      (found : Provision.credentials d s = (.ok cr, s₀))
      (ready : emptyBucket cr d s₀ = (.ok b, s₁)) (known : Provision.account cr d s₁ = (.ok a, s₂))
      (granted : Storage.grant b.name a.email s₂ = (.ok (), s₃))
      (stop : Identity.issueToken cr lifetime a.email s₃ = (.error e, s₄)) :
      Stopped lifetime d s .permissionGranted e

/-- The stages end in an error exactly where a step stopped them, with its stage and its failure. -/
theorem stopped_iff {lifetime : Value} {d : Definition} {s : Session} {stage : Stage}
    {e : Failure} :
    Stopped lifetime d s stage e ↔ (stages lifetime d s).1 = .error (stage, e) := by
  constructor
  · intro h
    cases h with
    | credentials stop => rw [stages, Action.bind_of_error (after_of_error stop)]
    | bucket found stop =>
      rw [stages, Action.bind_of_ok (after_of_ok found), Action.bind_of_error (after_of_error stop)]
    | account found ready stop =>
      rw [stages, Action.bind_of_ok (after_of_ok found), Action.bind_of_ok (after_of_ok ready),
        Action.bind_of_error (after_of_error stop)]
    | grant found ready known stop =>
      rw [stages, Action.bind_of_ok (after_of_ok found), Action.bind_of_ok (after_of_ok ready),
        Action.bind_of_ok (after_of_ok known), Action.bind_of_error (after_of_error stop)]
    | token found ready known granted stop =>
      rw [stages, Action.bind_of_ok (after_of_ok found), Action.bind_of_ok (after_of_ok ready),
        Action.bind_of_ok (after_of_ok known), Action.bind_of_ok (after_of_ok granted),
        Action.bind_of_error (after_of_error stop)]
  · intro h
    rw [stages] at h
    rcases h₀ : credentials d s with ⟨e | cr, s₀⟩
    · rw [Action.bind_of_error (after_of_error h₀)] at h
      cases h
      exact .credentials h₀
    rw [Action.bind_of_ok (after_of_ok h₀)] at h
    rcases h₁ : emptyBucket cr d s₀ with ⟨e | b, s₁⟩
    · rw [Action.bind_of_error (after_of_error h₁)] at h
      cases h
      exact .bucket h₀ h₁
    rw [Action.bind_of_ok (after_of_ok h₁)] at h
    rcases h₂ : account cr d s₁ with ⟨e | a, s₂⟩
    · rw [Action.bind_of_error (after_of_error h₂)] at h
      cases h
      exact .account h₀ h₁ h₂
    rw [Action.bind_of_ok (after_of_ok h₂)] at h
    rcases h₃ : Storage.grant b.name a.email s₂ with ⟨e | _, s₃⟩
    · rw [Action.bind_of_error (after_of_error h₃)] at h
      cases h
      exact .grant h₀ h₁ h₂ h₃
    rw [Action.bind_of_ok (after_of_ok h₃)] at h
    rcases h₄ : Identity.issueToken cr lifetime a.email s₃ with ⟨e | token, s₄⟩
    · rw [Action.bind_of_error (after_of_error h₄)] at h
      cases h
      exact .token h₀ h₁ h₂ h₃ h₄
    · rw [Action.bind_of_ok (after_of_ok h₄)] at h
      cases h

end Provision

/-- How a provisioning ends that a step stopped after a stage: no call of a later stage was made;
and if the failure is reported, it is the one answered, the log has one error, which names the
stage, and the last call was one of the step. -/
structure StoppedAfter (d : Definition) (s : Session) (made : List Exchange) (stage : Stage)
    (e : Failure) (run : Except Failure (Outcome Provisioned) × Session) : Prop where
  bounded : ∀ x ∈ made, x.stage.rank ≤ stage.rank
  answered : e.isReported → run.1 = .ok (.failure .fatalError [.text e.message])
  logged : e.isReported → ∃ l, run.2.log = s.log ++ l ∧ l.filter (·.level = .error) =
    [⟨.error, s!"Provisioning of {d.id.display} failed after {stage.name}: {e.message}"⟩]
  last : e.isReported → stage ≠ .requested → ∃ x, made.getLast? = some x ∧ x.stage = stage

namespace Provision

variable {lifetime : Value} {d : Definition} {s : Session}

theorem Ended.inOrder {β : Type} {es : List Exchange} {r : Except (Stage × Failure) β}
    (h : Ended d es r) : InOrder d es := by
  rcases r with ⟨stage, e⟩ | b
  · exact h.1.toInOrder
  · exact h.toInOrder

/-- What is answered and logged after a step stopped the stages. -/
theorem Stopped.stoppedAfter {made : List Exchange} {stage : Stage} {e : Failure}
    (h : Stopped lifetime d (opened d s) stage e)
    (hbounded : ∀ x ∈ made, x.stage.rank ≤ stage.rank)
    (hlast : e.isReported → stage ≠ .requested → ∃ x, made.getLast? = some x ∧ x.stage = stage) :
    StoppedAfter d s made stage e (provision lifetime d s) where
  bounded := hbounded
  answered he := by
    rw [provision_eq, stopped_iff.1 h]
    exact if_pos he
  logged he := by
    obtain ⟨l, hl, hquiet⟩ := (opened_quiet d s).trans (stages_quiet lifetime d (opened d s))
    have hnone : l.filter (·.level = .error) = [] := List.filter_eq_nil_iff.2 fun r hr => by
      simpa using hquiet r hr
    refine ⟨l ++ closing d (stages lifetime d (opened d s)).1, ?_, ?_⟩
    · rw [provision_eq, hl, List.append_assoc]
    · rw [List.filter_append, hnone, stopped_iff.1 h, closing, if_pos he]
      rfl
  last := hlast

/-- A failure that is answered is that of a step. -/
theorem exists_stopped {o : Outcome Provisioned} (h : (provision lifetime d s).1 = .ok o)
    (ho : o.succeeded = false) :
    ∃ stage e, Stopped lifetime d (opened d s) stage e ∧ e.isReported := by
  rw [provision_eq] at h
  rcases hstages : (stages lifetime d (opened d s)).1 with ⟨stage, e⟩ | ⟨a, token⟩
  · rw [hstages] at h
    dsimp only [answer] at h
    split at h
    · exact ⟨stage, e, stopped_iff.2 hstages, ‹_›⟩
    · cases h
  · rw [hstages] at h
    cases h
    cases ho

end Provision

/-- **The order of effects.** -/
theorem provision_order (lifetime : Value) (d : Definition) (s : Session) :
    ∃ searched made,
      Dialogue s searched (Provision.credentials d (Provision.opened d s)).2 ∧
      Dialogue s (searched ++ made) (provision lifetime d s).2 ∧
      (∀ x ∈ searched, x.call.method ∈ Source.methods) ∧
      ((∃ e, (Provision.credentials d (Provision.opened d s)).1 = .error e) → made = []) ∧
      Provision.InOrder d made ∧
      (∀ stage e, Provision.Stopped lifetime d (Provision.opened d s) stage e →
        StoppedAfter d s made stage e (provision lifetime d s)) ∧
      ∀ o, (provision lifetime d s).1 = .ok o → o.succeeded = false →
        ∃ stage e, Provision.Stopped lifetime d (Provision.opened d s) stage e ∧ e.isReported := by
  obtain ⟨searched, hsearched, hin⟩ := Provision.credentials_searching d (Provision.opened d s)
  have hrun := Provision.provision_eq lifetime d s
  rcases hcred : Provision.credentials d (Provision.opened d s) with ⟨e | cr, s₀⟩ <;>
    rw [hcred] at hsearched
  · have hstages : Provision.stages lifetime d (Provision.opened d s) =
        (.error (.requested, e), s₀) :=
      Action.bind_of_error (Provision.after_of_error hcred)
    refine ⟨searched, [], ⟨hsearched.calls, hsearched.replay⟩, ?_, hin, fun _ => rfl,
      (Provision.Progress.start d).toInOrder, fun stage e' h => ?_,
      fun o => Provision.exists_stopped⟩
    · rw [hrun, hstages, List.append_nil]
      exact ⟨hsearched.calls, hsearched.replay⟩
    · have hstage := Provision.stopped_iff.1 h
      rw [hstages] at hstage
      cases hstage
      exact h.stoppedAfter (fun x hx => absurd hx List.not_mem_nil) fun _ hne => absurd rfl hne
  · obtain ⟨made, hmade, hended⟩ := Provision.stages_exchanges lifetime hcred
    have hall := hsearched.trans hmade
    refine ⟨searched, made, ⟨hsearched.calls, hsearched.replay⟩, ?_, hin, nofun, hended.inOrder,
      fun stage e h => ?_, fun o => Provision.exists_stopped⟩
    · rw [hrun]
      exact ⟨hall.calls, hall.replay⟩
    · rw [Provision.stopped_iff.1 h] at hended
      exact h.stoppedAfter hended.1.bounded fun he _ => hended.2 he

/-- A list of accounts that is refused: the log names the bucket as the last stage completed, and
neither a policy nor a token is asked for. -/
theorem provision_order_unlisted :
    let f : Fault := ⟨.call .forbidden, "denied"⟩
    let e : Failure := .provision (.accountsUnlisted (.text "p1") f)
    let s : Session := {
      schedule := Schedule.none.append .listAccounts [some (.raise f)]
      vault := { kind := .environment } }
    let d : Definition := {
      id := .text "b1", transferProcess := .text "tp-1", location := .text "EU"
      project := .text "p1" }
    Provision.Stopped (.int 3600) d (Provision.opened d s) .bucketReady e ∧
      (provision (.int 3600) d s).1 = .ok (.failure .fatalError [.text e.message]) ∧
      ∃ made, Provision.InOrder d made ∧
        StoppedAfter d s made .bucketReady e (provision (.int 3600) d s) := by
  intro f e s d
  have hstopped : Provision.Stopped (.int 3600) d (Provision.opened d s) .bucketReady e :=
    Provision.stopped_iff.2 rfl
  obtain ⟨-, made, -, -, -, -, hordered, hstops, -⟩ := provision_order (.int 3600) d s
  have hafter := hstops _ _ hstopped
  exact ⟨hstopped, hafter.answered rfl, made, hordered, hafter⟩

end TransferBucket
