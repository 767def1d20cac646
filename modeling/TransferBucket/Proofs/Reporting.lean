import TransferBucket.Proofs.Commands
import TransferBucket.Proofs.Counting
import TransferBucket.Proofs.Course

/-!
# What a provisioning command reports

**Theorem (`provision_reports_record`).** A provisioning command tells nobody the token that it was
given. Run on two hosts that differ only in how many tokens were issued, it leaves the same report
and the same files. It prints something exactly if its status is 0, and then the record and the time
at which the token ends; else its status is 1 or 2, it prints nothing, and no file has changed.
Where a name is refused, the configuration cannot be used or no project is known, no service was
turned to.

The command prepares, provisions and delivers. Preparing looks at no service. Provisioning runs
alike whatever the number of tokens, and hands over tokens that differ in their texts alone. And
delivering looks at no text of a token.
-/

namespace TransferBucket

/-- A host for which another number of tokens was issued. -/
def Host.recounted (h : Host) (n : Nat) : Host := { h with session := h.session.recounted n }

namespace CommandLine

open Shell Hosted TransferBucket.Action

variable {α β : Type} {t : Terminal}

/-! ## Steps that print nothing -/

/-- A step that prints nothing, and ends early only with a failure. -/
def Modest (x : Shell α) : Prop :=
  ∀ t, (x t).2.output = t.output ∧ ∀ e, (x t).1 = .error e → e.IsFailure

namespace Modest

theorem pure (a : α) : Modest (Pure.pure a : Shell α) := fun _ =>
  ⟨rfl, fun _ he => by cases he⟩

theorem ofExcept (r : Except Failure α) : Modest (Shell.ofExcept r) := by
  intro t
  refine ⟨rfl, fun e he => ?_⟩
  rcases r with f | a <;> cases he
  exact Or.inr ⟨f, rfl⟩

theorem onHost (x : Action Host Failure α) : Modest (Shell.onHost x) := by
  intro t
  refine ⟨rfl, fun e he => ?_⟩
  rw [onHost_apply] at he
  dsimp only at he
  rcases hend : (x (silent t.host)).1 with f | a <;> rw [hend] at he <;> cases he
  exact Or.inr ⟨f, rfl⟩

theorem modify {f : Terminal → Terminal} (hf : ∀ t, (f t).output = t.output) :
    Modest (.modify f : Shell Unit) := fun t => ⟨hf t, fun _ he => by cases he⟩

theorem bind {x : Shell α} {f : α → Shell β} (hx : Modest x) (hf : ∀ a, Modest (f a)) :
    Modest (x >>= f) := by
  intro t
  obtain ⟨houtput, hfails⟩ := hx t
  rcases hrun : x t with ⟨e | a, t'⟩ <;> rw [hrun] at houtput hfails
  · rw [bind_of_error hrun]
    refine ⟨houtput, fun e' he => ?_⟩
    cases he
    exact hfails e rfl
  · rw [bind_of_ok hrun]
    exact ⟨(hf a t').1.trans houtput, (hf a t').2⟩

theorem exitWith (line : String) : Modest (Shell.exitWith 1 line : Shell α) :=
  .bind (.modify fun _ => rfl) fun _ t => ⟨rfl, fun e he => by cases he; exact Or.inl rfl⟩

end Modest

theorem configure_modest (verbosity : Nat) : Modest (configure verbosity) :=
  .bind (.onHost _) fun _ => .bind (.onHost _) fun _ => .bind (.ofExcept _) fun _ =>
    .bind (.modify fun _ => rfl) fun _ => .pure _

theorem ProvisionSettings.projectFor_modest (p : ProvisionSettings) (config : Mapping) :
    Modest (p.projectFor config) := by
  unfold projectFor
  split
  · exact .pure _
  · exact .onHost _

theorem Prepared.provision_modest (r : Prepared) : Modest r.provision :=
  .bind (.onHost _) fun _ => .onHost _

theorem prepare_modest {p : ProvisionSettings} (h : ¬ p.IsRefused) (id : String)
    (verbosity : Nat) : Modest (prepare id verbosity p) := by
  have hcheck : p.check = pure () := funext (ProvisionSettings.check_of_accepted h)
  unfold prepare
  rw [hcheck]
  refine .bind (.onHost _) fun _ => .bind (.pure _) fun _ => ?_
  refine .bind (configure_modest _) fun config => .bind (p.projectFor_modest _) fun project => ?_
  split
  · exact .bind (.exitWith _) fun _ => .bind (.ofExcept _) fun _ => .pure _
  · exact .bind (.ofExcept _) fun _ => .pure _

/-- Where a name is refused, preparing fails; with status 2, if the home directory is known. -/
theorem prepare_of_refused {p : ProvisionSettings} (h : p.IsRefused) (id : String)
    (verbosity : Nat) (t : Terminal) :
    ∃ e, (prepare id verbosity p t).1 = .error e ∧ (prepare id verbosity p t).2.output = t.output ∧
      (e.IsFailure ∨ e = .exit 2) ∧ (t.host.currentHome.isOk → e = .exit 2) := by
  obtain ⟨refusal, hcheck⟩ := ProvisionSettings.check_of_refused h
  have hhome := onHost_requireHome t
  unfold prepare
  rcases hcurrent : t.host.currentHome with f | home <;> rw [hcurrent] at hhome
  · rw [bind_of_error hhome]
    exact ⟨_, rfl, rfl, Or.inl (Or.inr ⟨f, rfl⟩), fun hok => by cases hok⟩
  · rw [bind_of_ok hhome, bind_of_error (hcheck t)]
    exact ⟨_, rfl, rfl, Or.inr rfl, fun _ => rfl⟩

/-! ## How a command begins and ends -/

/-- The terminal at which a command starts. -/
def started (h : Host) : Terminal :=
  { host := { h with
      home := h.currentHome.toOption.getD h.home
      session := { h.session with links := {} } } }

/-- The host that a command leaves behind: its variables, its vault and its clients end with it. -/
def ended (h : Host) (t : Terminal) : Host :=
  { t.host with
    home := h.home
    session := { t.host.session with
      environment := h.session.environment, vault := h.session.vault, links := h.session.links } }

/-- What a command comes to is decided by its run from the start. -/
theorem run_eq {args : List String} {i : Invocation} (hargs : Invocation.ofArguments args = .ok i)
    (id : String) (h : Host) : run id args h =
      (conclude (perform id i (started h)).1 (perform id i (started h)).2,
        ended h (perform id i (started h)).2) := by
  rw [run, hargs]
  rfl

theorem run_provision {args : List String} {verbosity : Nat} {p : ProvisionSettings}
    (hargs : Invocation.ofArguments args = .ok ⟨verbosity, .provision p⟩) (id : String) (h : Host) :
    (run id args h).1 = conclude (provisionCommand id verbosity p (started h)).1
        (provisionCommand id verbosity p (started h)).2 ∧
      (run id args h).2.files = (provisionCommand id verbosity p (started h)).2.host.files ∧
      (run id args h).2.session.calls =
        (provisionCommand id verbosity p (started h)).2.host.session.calls := by
  rw [run_eq hargs]
  exact ⟨rfl, rfl, rfl⟩

theorem output_conclude (r : Except Ending Unit) (t : Terminal) :
    (conclude r t).output = t.output := by
  rcases r with (_ | _) | _ <;> rfl

theorem status_conclude {e : Ending} (he : e.IsFailure) (t : Terminal) :
    (conclude (.error e) t).status = 1 := by
  rcases he with rfl | ⟨f, rfl⟩ <;> rfl

/-- Preparing turns to no service, and changes no file. -/
theorem prepare_frame (id : String) (verbosity : Nat) (p : ProvisionSettings) (t : Terminal) :
    (prepare id verbosity p t).2.host.files = t.host.files ∧
      (prepare id verbosity p t).2.host.session.calls = t.host.session.calls := by
  have hsurveys := prepare_surveys (P := fun _ => True) (t := t) (fun _ _ => trivial) id verbosity p
  obtain ⟨l, hhost, -⟩ := hsurveys.host_eq
  have hcalls := congrArg (fun h => h.session.calls) hhost
  exact ⟨hsurveys.files_eq, hcalls⟩

/-- The vault that a configuration chooses. -/
def vaultKind (config : Mapping) (project : Value) : VaultKind :=
  if (setting config "provisioning" "vault").equals (.text "environment") then .environment
  else .secrets project true

/-- A step with the services after the vault was opened; its messages are shown. -/
theorem openVault_bind_apply (config : Mapping) (project : Value) (x : Action Session Failure α)
    (t : Terminal) : (openVault config project >>= fun _ => inSession x) t =
      let run := x { t.host.session with vault := { kind := vaultKind config project }, log := [] }
      (run.1.mapError .failure, { t with
        host := { t.host with
          session := { run.2 with log := t.host.session.log ++ run.2.log } }
        errors := t.errors ++ shown t.threshold run.2.log }) := by
  have hlog : t.host.session.log ++ [] = t.host.session.log := List.append_nil _
  have herrors : t.errors ++ shown t.threshold [] = t.errors := String.append_empty
  have hopen : openVault config project t = (.ok (), { t with host := { t.host with
      session := { t.host.session with vault := { kind := vaultKind config project } } } }) := by
    rw [openVault, inSession, onHost_apply]
    change (_, { t with
      host := { t.host with session := { t.host.session with
        vault := { kind := vaultKind config project }, log := t.host.session.log ++ [] } }
      errors := t.errors ++ shown t.threshold [] }) = _
    rw [hlog, herrors]
    rfl
  rw [bind_of_ok hopen, inSession, onHost_apply]
  rfl

namespace Prepared

/-- The session in which what has been prepared is provisioned. -/
def session (r : Prepared) (s : Session) : Session :=
  { s with vault := { kind := vaultKind r.config r.project }, log := [] }

/-- How long the token is to be good. -/
def lifetime (r : Prepared) : Value := setting r.config "provisioning" "token_lifetime_seconds"

theorem provision_apply (r : Prepared) (t : Terminal) :
    r.provision t =
      ((TransferBucket.provision r.lifetime r.definition
          (r.session t.host.session)).1.mapError .failure,
        let after := (TransferBucket.provision r.lifetime r.definition
          (r.session t.host.session)).2
        { t with
          host := { t.host with
            session := { after with log := t.host.session.log ++ after.log } }
          errors := t.errors ++ shown t.threshold after.log }) :=
  openVault_bind_apply r.config r.project _ t

theorem provision_files (r : Prepared) (t : Terminal) :
    (r.provision t).2.host.files = t.host.files := by
  rw [provision_apply]

theorem success_of_provision {r : Prepared} {o : Outcome Provisioned} {t t' : Terminal}
    (h : r.provision t = (.ok o, t')) {made : Provisioned} (hmade : o.content = some made) :
    o = .success made ∧ isWritable made.token.expiration := by
  obtain ⟨result, hcourse, hanswer⟩ :=
    Provision.provision_course r.lifetime r.definition (r.session t.host.session)
  rw [provision_apply, hanswer] at h
  have hend := (Prod.mk.inj h).1
  rcases result with ⟨stage, e⟩ | ⟨account, token⟩
  · dsimp only [Provision.answer] at hend
    split at hend <;> cases hend
    cases hmade
  · cases hend
    cases hmade
    generalize (TransferBucket.provision r.lifetime r.definition
      (r.session t.host.session)).2.cloud = c at hcourse
    cases hcourse with
    | done ready granted => exact ⟨rfl, AccessToken.isWritable_expirationAt _⟩

end Prepared

/-! ## The report -/

theorem not_isRefused_of_prepare {id : String} {verbosity : Nat} {p : ProvisionSettings}
    {r : Prepared} {t t₁ : Terminal} (h : prepare id verbosity p t = (.ok r, t₁)) :
    ¬ p.IsRefused := by
  intro hrefused
  obtain ⟨e, he, -⟩ := prepare_of_refused hrefused id verbosity t
  rw [h] at he
  cases he

/-- The ways in which a provisioning command that has prepared ends: it prints what was made, or
fails with nothing printed or written. -/
theorem provisionCommand_of_prepare {id : String} {verbosity : Nat} {p : ProvisionSettings}
    {r : Prepared} {t t₁ : Terminal} (h : prepare id verbosity p t = (.ok r, t₁)) :
    (∃ made text t₂, (r.provision t₁).1 = .ok (.success made) ∧
      Json.encode (.indented 2) (announcement made) = .ok text ∧
      provisionCommand id verbosity p t = (.ok (), t₂) ∧
      t₂.output = t.output ++ String.ofList text ++ "\n" ∧
      p.Kept made.resource t.host.files t₂.host.files ∧
      t₂.host = { (r.provision t₁).2.host with files := t₂.host.files }) ∨
    ∃ e t₂, Ending.IsFailure e ∧ provisionCommand id verbosity p t = (.error e, t₂) ∧
      t₂.output = t.output ∧ t₂.host.files = t.host.files := by
  have haccepted := not_isRefused_of_prepare h
  have houtput := (prepare_modest haccepted id verbosity t).1
  have hfiles := (prepare_frame id verbosity p t).1
  rw [h] at houtput hfiles
  obtain ⟨houtput', hfails⟩ := r.provision_modest t₁
  have hfiles' := r.provision_files t₁
  rw [provisionCommand_eq, bind_of_ok h]
  rcases hrun : r.provision t₁ with ⟨e | o, t₂⟩ <;> rw [hrun] at houtput' hfiles' hfails
  · rw [bind_of_error hrun]
    exact Or.inr ⟨e, t₂, hfails e rfl, rfl, houtput'.trans houtput, hfiles'.trans hfiles⟩
  · rw [bind_of_ok hrun]
    rcases p.deliver_cases (fun made hmade => (Prepared.success_of_provision hrun hmade).2) t₂ with
      ⟨made, text, files, errors, hmade, htext, hkept, hdeliver⟩ | ⟨e, errors, he, hdeliver⟩
    · have hsuccess := (Prepared.success_of_provision hrun hmade).1
      refine Or.inl ⟨made, text, _, congrArg Except.ok hsuccess, htext, hdeliver, ?_, ?_, rfl⟩
      · dsimp only
        rw [houtput', houtput]
      · rw [hfiles', hfiles] at hkept
        exact hkept
    · exact Or.inr ⟨e, _, he, hdeliver, houtput'.trans houtput, hfiles'.trans hfiles⟩

/-- How a provisioning command on a host ends. -/
structure Reports (id : String) (verbosity : Nat) (p : ProvisionSettings) (h : Host)
    (report : Report) (after : Host) : Prop where
  status : report.status = 0 ∨ report.status = 1 ∨ report.status = 2
  prints : report.output ≠ "" ↔ report.status = 0
  record : report.status = 0 → ∃ ready t made text,
    prepare id verbosity p (started h) = (.ok ready, t) ∧
    (ready.provision t).1 = .ok (.success made) ∧
    Json.encode (.indented 2) (announcement made) = .ok text ∧
    report.output = String.ofList text ++ "\n" ∧ p.Kept made.resource h.files after.files
  untouched : report.status ≠ 0 → after.files = h.files
  refused : p.IsRefused → after.session.calls = h.session.calls ∧
    (h.currentHome.isOk → report.status = 2)
  misused : report.status = 2 → p.IsRefused
  unconfigured : ∀ e, (configure verbosity (started h)).1 = .error e →
    after.session.calls = h.session.calls ∧ (¬ p.IsRefused → report.status = 1)
  projectless : ∀ config t, configure verbosity (started h) = (.ok config, t) →
    (∀ project, (p.projectFor config t).1 = .ok project → project.isTruthy = false) →
    after.session.calls = h.session.calls ∧ (¬ p.IsRefused → report.status = 1)

/-! ## Other numbers of tokens -/

/-- A state in whose place another number of tokens was issued. -/
def recounted {σ : Type} [Hosted σ] (a : σ) (n : Nat) : σ :=
  amid a (host a).files ((host a).session.recounted n)

theorem surveys_recounted {σ ε : Type} [Hosted σ] {P : String → Prop} {x : Action σ ε α} {a : σ}
    (hx : x.Surveys P a) (n : Nat) : x (recounted a n) = ((x a).1, recounted (x a).2 n) := by
  obtain ⟨l, hhost, hending⟩ := hx.host_eq
  have hfiles := hx.files_eq
  have hsession : (host (x a).2).session =
      { (host a).session.logged l with environment := (host (x a).2).session.environment } :=
    congrArg Host.session hhost
  have hput : amid (x a).2 (host a).files (((host a).session.recounted n).logged l) =
      recounted (x a).2 n := by
    rw [recounted, hfiles, hsession]
    rfl
  rw [← hput]
  exact hending _ _ (.refl P _)

theorem Terminal.LooksLike.conclude_eq {t t' : Terminal} (h : t.LooksLike t')
    (r : Except Ending Unit) : conclude r t' = conclude r t := by
  rcases r with (_ | _) | _ <;> simp only [conclude, h.output, h.errors]

theorem looksLike_recounted (t : Terminal) (n : Nat) : t.LooksLike (recounted t n) :=
  ⟨rfl, rfl, rfl, rfl⟩

theorem ProvisionSettings.deliver_congr (p : ProvisionSettings) {d : Definition}
    {o o' : Outcome Provisioned} (h : Provision.AnswersUpTo anyNumbers d d o o') :
    p.deliver o' = p.deliver o := by
  cases h with
  | @success account token token' htoken =>
    obtain ⟨-, hends⟩ := htoken
    unfold deliver contentOf Outcome.success
    dsimp only
    rw [pure_bind, pure_bind, hends]
  | failure status messages => rfl

theorem Prepared.provision_recounted (r : Prepared) (t : Terminal) (n : Nat) :
    EndAlike (Provision.AnswersUpTo anyNumbers r.definition r.definition) (r.provision t).1
        (r.provision (recounted t n)).1 ∧
      (r.provision t).2.LooksLike (r.provision (recounted t n)).2 := by
  obtain ⟨hend, hlog⟩ :=
    TransferBucket.provision_recounted r.lifetime r.definition (r.session t.host.session) n
  rw [provision_apply, provision_apply]
  refine ⟨hend.mapError _, ⟨rfl, ?_, rfl, rfl⟩⟩
  exact congrArg (fun log => t.errors ++ shown t.threshold log) hlog

/-- A provisioning command ends alike and leaves the same texts and files, whatever the number of
tokens issued before. -/
theorem provisionCommand_recounted (id : String) (verbosity : Nat) (p : ProvisionSettings)
    (t : Terminal) (n : Nat) :
    (provisionCommand id verbosity p (recounted t n)).1 = (provisionCommand id verbosity p t).1 ∧
      (provisionCommand id verbosity p t).2.LooksLike
        (provisionCommand id verbosity p (recounted t n)).2 := by
  have hsurveys := prepare_surveys (P := fun _ => True) (t := t) (fun _ _ => trivial) id verbosity p
  have hprepare := surveys_recounted hsurveys n
  rw [provisionCommand_eq]
  rcases hready : prepare id verbosity p t with ⟨e | r, t₁⟩ <;> rw [hready] at hprepare
  · rw [bind_of_error hprepare, bind_of_error hready]
    exact ⟨rfl, looksLike_recounted t₁ n⟩
  rw [bind_of_ok hprepare, bind_of_ok hready]
  obtain ⟨hend, hlooks⟩ := r.provision_recounted t₁ n
  rcases hrun : r.provision t₁ with ⟨e | o, t₂⟩ <;>
    rcases hrun' : r.provision (recounted t₁ n) with ⟨e' | o', t₂'⟩ <;>
    rw [hrun, hrun'] at hend hlooks <;> cases hend
  · rw [bind_of_error hrun, bind_of_error hrun']
    exact ⟨rfl, hlooks⟩
  · rename_i hanswers
    rw [bind_of_ok hrun, bind_of_ok hrun', p.deliver_congr hanswers]
    obtain ⟨hend, hlooks⟩ := p.deliver_steady o t₂ t₂' hlooks
    exact ⟨hend.eq.symm, hlooks⟩

/-! ## The theorem -/

section Reports

variable {id : String} {verbosity : Nat} {p : ProvisionSettings} {h after : Host} {report : Report}
  {e : Ending} {t₁ t₂ : Terminal}

theorem reports_of_unprepared (hprepare : prepare id verbosity p (started h) = (.error e, t₁))
    (hreport : report = conclude (.error e) t₁) (hfiles : after.files = t₁.host.files)
    (hcalls : after.session.calls = t₁.host.session.calls) :
    Reports id verbosity p h report after := by
  obtain ⟨hkeptFiles, hkeptCalls⟩ := prepare_frame id verbosity p (started h)
  rw [hprepare] at hkeptFiles hkeptCalls
  have hcalls' : after.session.calls = h.session.calls := hcalls.trans hkeptCalls
  -- a refused name is a wrong use of the program, unless the home directory is not even known
  have hrefused : p.IsRefused → (e.IsFailure ∨ e = .exit 2) ∧ t₁.output = "" ∧
      (h.currentHome.isOk → e = .exit 2) := by
    intro hrefused
    obtain ⟨e', he, houtput, hkind, hmisuse⟩ :=
      prepare_of_refused hrefused id verbosity (started h)
    rw [hprepare] at he houtput
    cases he
    exact ⟨hkind, houtput, hmisuse⟩
  have haccepted : ¬ p.IsRefused → e.IsFailure ∧ t₁.output = "" := by
    intro haccepted
    obtain ⟨houtput, hfails⟩ := prepare_modest haccepted id verbosity (started h)
    rw [hprepare] at houtput hfails
    exact ⟨hfails e rfl, houtput⟩
  have houtput : report.output = "" := by
    rw [hreport, output_conclude]
    by_cases h : p.IsRefused
    · exact (hrefused h).2.1
    · exact (haccepted h).2
  have hone : ¬ p.IsRefused → report.status = 1 := by
    intro h
    rw [hreport, status_conclude (haccepted h).1]
  have hstatus : report.status = 1 ∨ report.status = 2 := by
    by_cases h : p.IsRefused
    · rcases (hrefused h).1 with he | rfl
      · exact Or.inl (by rw [hreport, status_conclude he])
      · exact Or.inr (by rw [hreport]; rfl)
    · exact Or.inl (hone h)
  have hnonzero : report.status ≠ 0 := by omega
  exact {
    status := Or.inr hstatus
    prints := ⟨fun h => absurd houtput h, fun h => absurd h hnonzero⟩
    record := fun h => absurd h hnonzero
    untouched := fun _ => hfiles.trans hkeptFiles
    refused := fun h => ⟨hcalls', fun hhome => by rw [hreport, (hrefused h).2.2 hhome]; rfl⟩
    misused := fun htwo => by
      by_contra h
      rw [hone h] at htwo
      cases htwo
    unconfigured := fun _ _ => ⟨hcalls', hone⟩
    projectless := fun _ _ _ _ => ⟨hcalls', hone⟩ }

/-- Whatever is found out, a command that has prepared was not refused, had a configuration and
knew a project. -/
theorem reports_of_prepared {r : Prepared}
    (hprepare : prepare id verbosity p (started h) = (.ok r, t₁))
    (hstatus : report.status = 0 ∨ report.status = 1)
    (hprints : report.output ≠ "" ↔ report.status = 0)
    (hrecord : report.status = 0 → ∃ made text, (r.provision t₁).1 = .ok (.success made) ∧
      Json.encode (.indented 2) (announcement made) = .ok text ∧
      report.output = String.ofList text ++ "\n" ∧ p.Kept made.resource h.files after.files)
    (huntouched : report.status ≠ 0 → after.files = h.files) :
    Reports id verbosity p h report after := by
  have haccepted := not_isRefused_of_prepare hprepare
  obtain ⟨t₂, hconfig, hproject, htruthy, -⟩ := prepare_eq_ok hprepare
  exact {
    status := hstatus.imp_right Or.inl
    prints := hprints
    record := fun h => by
      obtain ⟨made, text, hrest⟩ := hrecord h
      exact ⟨r, t₁, made, text, hprepare, hrest⟩
    untouched := huntouched
    refused := fun h => absurd h haccepted
    misused := fun htwo => by omega
    unconfigured := fun e he => by
      rw [hconfig] at he
      cases he
    projectless := fun config t hconfig' hnone => by
      rw [hconfig] at hconfig'
      cases hconfig'
      rw [hnone _ (congrArg Prod.fst hproject)] at htruthy
      cases htruthy }

end Reports

/-- A provisioning command ends as reports say. -/
theorem run_reports {args : List String} {verbosity : Nat} {p : ProvisionSettings}
    (hargs : Invocation.ofArguments args = .ok ⟨verbosity, .provision p⟩) (id : String) (h : Host) :
    Reports id verbosity p h (run id args h).1 (run id args h).2 := by
  obtain ⟨hreport, hfiles, hcalls⟩ := run_provision hargs id h
  rcases hprepare : prepare id verbosity p (started h) with ⟨e | r, t₁⟩
  · have hcommand : provisionCommand id verbosity p (started h) = (.error e, t₁) := by
      rw [provisionCommand_eq, bind_of_error hprepare]
    rw [hcommand] at hreport hfiles hcalls
    exact reports_of_unprepared hprepare hreport hfiles hcalls
  · rcases provisionCommand_of_prepare hprepare with
      ⟨made, text, t₂, hmade, htext, hcommand, houtput, hkept, -⟩ |
      ⟨e, t₂, he, hcommand, houtput, hsame⟩ <;> rw [hcommand] at hreport hfiles
    · have hprinted : (run id args h).1.output = String.ofList text ++ "\n" := by
        rw [hreport, output_conclude, houtput]
        rfl
      have hzero : (run id args h).1.status = 0 := by rw [hreport]; rfl
      refine reports_of_prepared hprepare (Or.inl hzero) ⟨fun _ => hzero, fun _ => ?_⟩
        (fun _ => ⟨made, text, hmade, htext, hprinted, hfiles ▸ hkept⟩) fun h => absurd hzero h
      intro hempty
      rw [hprinted] at hempty
      have hlength := congrArg String.length hempty
      simp at hlength
    · have hone : (run id args h).1.status = 1 := by rw [hreport, status_conclude he]
      have hnone : (run id args h).1.output = "" := by rw [hreport, output_conclude, houtput]; rfl
      refine reports_of_prepared hprepare (Or.inr hone) ⟨fun h => absurd hnone h, fun h => ?_⟩
        (fun h => ?_) fun _ => hfiles.trans hsame
      · rw [hone] at h
        cases h
      · rw [hone] at h
        cases h

/-- **A provisioning command reveals no token, and prints a record exactly if it succeeds.** -/
theorem provision_reports_record {args : List String} {verbosity : Nat} {p : ProvisionSettings}
    (hargs : Invocation.ofArguments args = .ok ⟨verbosity, .provision p⟩) (id : String) (h : Host) :
    (∀ n, (run id args (h.recounted n)).1 = (run id args h).1 ∧
      (run id args (h.recounted n)).2.files = (run id args h).2.files) ∧
    Reports id verbosity p h (run id args h).1 (run id args h).2 := by
  refine ⟨fun n => ?_, run_reports hargs id h⟩
  obtain ⟨hreport, hfiles, -⟩ := run_provision hargs id h
  obtain ⟨hreport', hfiles', -⟩ := run_provision hargs id (h.recounted n)
  obtain ⟨hend, hlooks⟩ := provisionCommand_recounted id verbosity p (started h) n
  have hstart : started (h.recounted n) = recounted (started h) n := rfl
  rw [hstart] at hreport' hfiles'
  exact ⟨by rw [hreport, hreport', hend, hlooks.conclude_eq], by rw [hfiles, hfiles', hlooks.files]⟩

/-- A provisioning whose record is kept in a file, on a host with neither preferences nor
configuration: it ends well, and alike had seven tokens been issued before. -/
theorem provision_reports_record_kept :
    let args := ["-v", "provision", "--transfer-process-id", "tp-1", "--bucket-name", "results",
      "--project-id", "p", "--output", "record.json"]
    let p : ProvisionSettings := {
      transferProcess := some "tp-1", bucketName := some "results", project := some "p"
      output := some "record.json" }
    let h : Host := { session := { vault := { kind := .environment } }, home := "/root" }
    Invocation.ofArguments args = .ok ⟨1, .provision p⟩ ∧ (run "d" args h).1.status = 0 ∧
      (run "d" args (h.recounted 7)).1 = (run "d" args h).1 ∧
      Reports "d" 1 p h (run "d" args h).1 (run "d" args h).2 := by
  intro args p h
  have hargs : Invocation.ofArguments args = .ok ⟨1, .provision p⟩ := by decide +kernel
  have hstatus : (run "d" args h).1.status = 0 := by decide +kernel
  obtain ⟨hcounts, hreports⟩ := provision_reports_record hargs "d" h
  exact ⟨hargs, hstatus, (hcounts 7).1, hreports⟩

end CommandLine

end TransferBucket
