import Mathlib.Data.List.Nodup
import TransferBucket.CommandLine.Validation
import TransferBucket.Operation
import TransferBucket.Proofs.Course

/-!
# One identity for a process and a bucket

**Theorem (`runAll_identities`).** In a project in which every account that is described as that of
a transfer process for a bucket has the id made from the process, and in a cloud whose account
names are all different, no sequence of operations leads to two accounts with one such
description, whatever goes wrong on the way.

Uniqueness by itself is not kept by a step: a list of accounts that comes out empty or is cut off
lets the next account be made blindly. The invariant is `Identified`: *names* are all different,
and the *description* of an account decides its name. The second part holds of a new account
because a description can be read in one way only (`accountDescription_injective`), ids of
processes having no line feed; and the two parts together let the services refuse the second
account (`Identified.unique`).

What operations do to the accounts is said once (`AccountInvariant`): some are taken away, or that
of a definition is made.
-/

namespace TransferBucket

open Session

/-! ## Descriptions -/

/-- A text that can be the id of a transfer process: letters, digits, `_` and `-`. -/
structure IsProcessId (t : String) : Prop where
  nonempty : t ≠ ""
  chars : ∀ c ∈ t.toList, Validation.isProcessChar c

theorem IsProcessId.notMem {t : String} (h : IsProcessId t) : '\n' ∉ t.toList := fun hmem =>
  absurd (h.chars _ hmem) (by decide)

theorem append_cons_inj {α : Type} {c : α} {x y z w : List α} (hx : c ∉ x) (hy : c ∉ y)
    (h : x ++ c :: z = y ++ c :: w) : x = y ∧ z = w := by
  -- one of the first parts begins with the other; a rest between them would hold the separator
  rcases List.append_eq_append_iff.1 h with ⟨as, rfl, has⟩ | ⟨as, rfl, has⟩
  · rcases as with _ | ⟨a, as⟩
    · exact ⟨(List.append_nil x).symm, (List.cons.inj has).2⟩
    · rw [(List.cons.inj has).1] at hy
      exact absurd (by simp) hy
  · rcases as with _ | ⟨a, as⟩
    · exact ⟨List.append_nil y, (List.cons.inj has).2.symm⟩
    · rw [(List.cons.inj has).1] at hx
      exact absurd (by simp) hx

theorem accountDescription_toList (t : String) (b : Value) :
    (accountDescription (.text t) b).toList = "transferProcess:".toList ++
      (t.toList ++ '\n' :: ("bucket:".toList ++ b.display.toList)) := by
  have hline : "\nbucket:".toList = '\n' :: "bucket:".toList := by decide
  have h : accountDescription (.text t) b =
      "transferProcess:" ++ t ++ "\nbucket:" ++ b.display := rfl
  rw [h, String.toList_append, String.toList_append, String.toList_append, hline,
    List.append_assoc, List.append_assoc, List.cons_append]

/-- A description says which transfer process and which bucket it is for. -/
theorem accountDescription_injective {t t' : String} {b b' : Value} (ht : IsProcessId t)
    (ht' : IsProcessId t') (h : accountDescription (.text t) b = accountDescription (.text t') b') :
    t = t' ∧ b.display = b'.display := by
  have hchars := congrArg String.toList h
  rw [accountDescription_toList, accountDescription_toList, List.append_cancel_left_eq] at hchars
  -- an id holds no line end, so it ends where the first line of the description does
  obtain ⟨hprocess, hbucket⟩ := append_cons_inj ht.notMem ht'.notMem hchars
  rw [List.append_cancel_left_eq] at hbucket
  exact ⟨String.toList_injective hprocess, String.toList_injective hbucket⟩

/-! ## Invariants of the accounts -/

/-- An operation is for a project: what it provisions is in the project, for a transfer process
with a proper id. All other operations are for every project. -/
def Operation.IsFor (project : String) : Operation → Prop
  | .provision d => d.project = .text project ∧ ∃ t, d.transferProcess = .text t ∧ IsProcessId t
  | .deprovision _ => True
  | .event _ => True

/-- A property of the accounts that holds on when accounts are taken away, and when the account of
a definition for the project is made. -/
structure AccountInvariant (project : String) (P : Cloud → Prop) : Prop where
  fewer : ∀ {c c' : Cloud}, c'.accounts.Sublist c.accounts → P c → P c'
  made : ∀ {c c' : Cloud} {d : Definition} {t : String}, d.project = .text project →
    d.transferProcess = .text t → IsProcessId t → Provision.AccountMade d c c' → P c → P c'

namespace AccountInvariant

variable {project : String} {P : Cloud → Prop} {s : Session}

theorem same (h : AccountInvariant project P) {c c' : Cloud} (hc : P c)
    (haccounts : c'.accounts = c.accounts) : P c' :=
  h.fewer (haccounts ▸ List.Sublist.refl _) hc

theorem after_provision (h : AccountInvariant project P) (lifetime : Value) {d : Definition}
    (hd : d.project = .text project) {t : String} (hp : d.transferProcess = .text t)
    (ht : IsProcessId t) (hs : P s.cloud) : P (provision lifetime d s).2.cloud := by
  obtain ⟨r, hcourse, -⟩ := Provision.provision_course lifetime d s
  refine hcourse.keeps ?_ (h.made hd hp ht) ?_ ?_ hs
  · rintro c _ ⟨-, rfl⟩ hc
    exact h.same hc rfl
  · rintro c _ b a - - - ⟨gs, -, rfl⟩ hc
    exact h.same hc rfl
  · intro c hc
    exact h.same hc rfl

theorem after_deprovision (h : AccountInvariant project P) (r : Resource) (hs : P s.cloud) :
    P (deprovision r s).2.cloud := by
  have hpermits : Permits (fun s t => P s.cloud → P t.cloud) Deprovision.methods :=
    ⟨fun _ h => h, fun h₁ h₂ h => h₂ (h₁ h), fun _ _ _ h => h, fun _ _ _ h => h⟩
  have hcred : (r.address.credentials Source.defaultOrder).Along fun s t => P s.cloud → P t.cloud :=
    fun s h => (Address.credentials_cloud _ _ s).symm ▸ h
  have hkept := deprovision_along hpermits hcred (fun _ _ h => h) (fun _ _ h => h)
    fun _ _ => h.fewer List.filter_sublist
  exact hkept s hs

theorem after_event (h : AccountInvariant project P) (e : Event) (hs : P s.cloud) :
    P (e.apply s).cloud := by
  cases e with
  | removeAccount email => exact h.fewer List.filter_sublist hs
  | setVariable name value =>
    cases value with
    | none => exact hs
    | some text => exact hs
  | plan method plans => exact hs
  | putObject bucket object => exact h.same hs rfl
  | storeSecret name bytes => exact h.same hs rfl
  | moveTokenEnd ends => exact h.same hs rfl

theorem after_perform (h : AccountInvariant project P) (lifetime : Value) {o : Operation}
    (ho : o.IsFor project) (hs : P s.cloud) : P (o.perform lifetime s).2.cloud := by
  cases o with
  | provision d =>
    obtain ⟨hd, t, hp, ht⟩ := ho
    exact h.after_provision lifetime hd hp ht hs
  | deprovision r => exact h.after_deprovision r hs
  | event e => exact h.after_event e hs

/-- Every sequence of operations keeps the invariant. -/
theorem after_runAll (h : AccountInvariant project P) (lifetime : Value) {os : List Operation}
    (hos : ∀ o ∈ os, o.IsFor project) (hs : P s.cloud) :
    P (Operation.runAll lifetime s os).cloud := by
  induction os generalizing s with
  | nil => exact hs
  | cons o os ih =>
    obtain ⟨ho, hrest⟩ := List.forall_mem_cons.1 hos
    exact ih hrest (h.after_perform lifetime ho hs)

end AccountInvariant

/-! ## Descriptions decide names -/

/-- The accounts of a project are known by their descriptions: all names are different, and an
account described as that of a transfer process for a bucket has the id made from the process. -/
structure Identified (project : String) (c : Cloud) : Prop where
  names : (c.accounts.map (·.name)).Nodup
  described : ∀ a ∈ Remote.accountsOf (.text project) c, ∀ t b, IsProcessId t →
    a.description = accountDescription (.text t) b →
    a.name = Remote.accountName (.text project) (Remote.accountEmail (accountId t) (.text project))

namespace Identified

variable {project : String} {c c' : Cloud}

theorem of_sublist (h : Identified project c) (hc : c'.accounts.Sublist c.accounts) :
    Identified project c' where
  names := (hc.map _).nodup h.names
  described a ha := h.described a ((hc.filter _).subset ha)

theorem unique (h : Identified project c) {t : String} (ht : IsProcessId t) (b : Value) :
    ((Remote.accountsOf (.text project) c).filter
      fun a => a.description = accountDescription (.text t) b).length ≤ 1 := by
  have hnames : (((Remote.accountsOf (.text project) c).filter
      fun a => a.description = accountDescription (.text t) b).map (·.name)).Nodup :=
    ((List.filter_sublist.trans List.filter_sublist).map _).nodup h.names
  have hsame := List.eq_replicate_of_mem fun n (hn : n ∈ ((Remote.accountsOf (.text project)
      c).filter fun a => a.description = accountDescription (.text t) b).map (·.name)) => by
    obtain ⟨a, ha, rfl⟩ := List.mem_map.1 hn
    obtain ⟨hmem, hdesc⟩ := List.mem_filter.1 ha
    exact h.described a hmem t b ht (of_decide_eq_true hdesc)
  -- one name as often as there are such accounts, but no name twice
  rw [hsame, List.nodup_replicate, List.length_map] at hnames
  exact hnames

theorem after_accountMade (h : Identified project c) {d : Definition}
    (hd : d.project = .text project) {t : String} (hp : d.transferProcess = .text t)
    (ht : IsProcessId t) (hmade : Provision.AccountMade d c c') : Identified project c' := by
  obtain ⟨id, hid, hnone, rfl⟩ := hmade
  rw [hp] at hid
  obtain rfl : accountId t = id := Except.ok.inj hid
  rw [hd] at hnone
  rw [hd, Provision.description, hp]
  refine ⟨Cloud.nodup_names_addAccount h.names hnone, fun a ha t' b ht' hdesc => ?_⟩
  obtain ⟨hmem, hin⟩ := Remote.mem_accountsOf.1 ha
  rcases List.mem_append.1 hmem with hold | hnew
  · exact h.described a (Remote.mem_accountsOf.2 ⟨hold, hin⟩) t' b ht' hdesc
  · rw [List.mem_singleton.1 hnew] at hdesc ⊢
    rw [(accountDescription_injective ht' ht hdesc.symm).1]
    rfl

theorem invariant (project : String) : AccountInvariant project (Identified project) where
  fewer hc h := h.of_sublist hc
  made hd hp ht hmade h := h.after_accountMade hd hp ht hmade

theorem after_runAll {s : Session} (lifetime : Value) {os : List Operation}
    (hos : ∀ o ∈ os, o.IsFor project) (h : Identified project s.cloud) :
    Identified project (Operation.runAll lifetime s os).cloud :=
  (invariant project).after_runAll lifetime hos h

end Identified

/-- **One identity for a process and a bucket.** -/
theorem runAll_identities (project : String) (lifetime : Value) (s : Session)
    (h : Identified project s.cloud) (os : List Operation) (hos : ∀ o ∈ os, o.IsFor project) :
    Identified project (Operation.runAll lifetime s os).cloud ∧
      ∀ t b, IsProcessId t →
        ((Remote.accountsOf (.text project) (Operation.runAll lifetime s os).cloud).filter
          fun a => a.description = accountDescription (.text t) b).length ≤ 1 := by
  have hend := h.after_runAll lifetime hos
  exact ⟨hend, fun t b ht => hend.unique ht b⟩

/-- An account that is there, two lists of accounts that come out empty, and provisioning for its
process again and for another bucket: no second account is made for the pair. -/
theorem runAll_identities_unlisted :
    let a := Remote.newAccount (.text "p1") (accountId "tp-1")
      (accountDescription (.text "tp-1") (.text "b1"))
    let s : Session := { cloud := { accounts := [a] }, vault := { kind := .environment } }
    let d : Definition := {
      id := .text "b1", transferProcess := .text "tp-1", location := .text "EU"
      project := .text "p1" }
    let os : List Operation := [
      .event (.plan .listAccounts [some .stale, some .stale]), .provision d,
      .provision { d with bucketName := .text "b2" }, .event (.putObject (.text "b1") "o")]
    Identified "p1" s.cloud ∧ (∀ o ∈ os, o.IsFor "p1") ∧
      ((Remote.accountsOf (.text "p1") (Operation.runAll (.int 3600) s os).cloud).filter
        fun a => a.description = accountDescription (.text "tp-1") (.text "b1")).length ≤ 1 := by
  intro a s d os
  have htp : IsProcessId "tp-1" := ⟨by decide, List.all_eq_true.1 (by decide)⟩
  have hs : Identified "p1" s.cloud := by
    refine ⟨List.nodup_singleton _, fun a' ha t b ht hdesc => ?_⟩
    have heq : a' = a := List.mem_singleton.1 (Remote.mem_accountsOf.1 ha).1
    rw [heq] at hdesc ⊢
    rw [(accountDescription_injective ht htp hdesc.symm).1]
    rfl
  have hos : ∀ o ∈ os, o.IsFor "p1" := by
    intro o ho
    simp only [os, List.mem_cons, List.not_mem_nil, or_false] at ho
    rcases ho with rfl | rfl | rfl | rfl
    · trivial
    · exact ⟨rfl, "tp-1", rfl, htp⟩
    · exact ⟨rfl, "tp-1", rfl, htp⟩
    · trivial
  exact ⟨hs, hos, (runAll_identities "p1" (.int 3600) s hs os hos).2 "tp-1" (.text "b1") htp⟩

end TransferBucket
