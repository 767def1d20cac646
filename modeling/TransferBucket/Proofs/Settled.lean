import Mathlib.Data.List.Nodup
import TransferBucket.Proofs.Calm
import TransferBucket.Proofs.Course
import TransferBucket.Proofs.Policy

/-!
# What a provisioning settles to

Where nothing goes wrong, what a provisioning makes of the accounts and buckets of a cloud is a
function of the cloud (`Provision.settle`).

**Half-done work does not matter.** Each effect that a provisioning can have, at any point at which
it can stop, leads to a cloud that settles to the same: a bucket or account that was made is found,
and a member that was granted the right is granted it again. Only the number of tokens differs.
This needs that the account which is found by its description is the one that would be made
(`Provision.Distinct`), which every effect keeps.
-/

namespace TransferBucket

open Session

namespace Provision

/-- What the stages make of a cloud before the token, where nothing goes wrong. -/
def settle (d : Definition) : StateT Cloud Option Account := do
  let b ← readyBucket d
  let a ← readyAccount d
  grantTo b.name a.email
  pure a

variable {d : Definition} {c c' : Cloud} {a : Account} {b : Bucket}

theorem settle_eq_some_iff {x : Cloud} : settle d c = some (a, x) ↔ ∃ b c₁ c₂,
    readyBucket d c = some (b, c₁) ∧ readyAccount d c₁ = some (a, c₂) ∧
      grantTo b.name a.email c₂ = some ((), x) := by
  have h : settle d c = (readyBucket d c).bind fun p => (readyAccount d p.2).bind fun q =>
      (grantTo p.1.name q.1.email q.2).bind fun r => some (q.1, r.2) := rfl
  rw [h]
  simp only [Option.bind_eq_some_iff, Prod.exists, Option.some.injEq, Prod.mk.injEq]
  constructor
  · rintro ⟨b, c₁, hb, a', c₂, ha, u, x', hg, rfl, rfl⟩
    exact ⟨b, c₁, c₂, hb, ha, hg⟩
  · rintro ⟨b, c₁, c₂, hb, ha, hg⟩
    exact ⟨b, c₁, hb, a, c₂, ha, (), x, hg, rfl, rfl⟩

theorem readyBucket_eq_some_iff : readyBucket d c = some (b, c') ↔
    c.bucket? d.targetBucket = some b ∧ b.objects = [] ∧ c' = c ∨
      c.bucket? d.targetBucket = none ∧ d.location.isSpellable ∧ b = newBucket d ∧
        c' = c.addBucket (newBucket d) := by
  rw [readyBucket]
  rcases c.bucket? d.targetBucket with _ | b₀
  · by_cases hl : d.location.isSpellable
    · simp [hl, eq_comm]
    · simp [hl]
  · by_cases ho : b₀.objects = []
    · simp only [ho, if_true, Option.some.injEq, Prod.mk.injEq, reduceCtorEq, false_and, or_false]
      constructor
      · rintro ⟨rfl, rfl⟩
        exact ⟨rfl, ho, rfl⟩
      · rintro ⟨rfl, -, rfl⟩
        exact ⟨rfl, rfl⟩
    · simp only [if_neg ho, reduceCtorEq, Option.some.injEq, false_and, or_false, false_iff]
      rintro ⟨rfl, hempty, -⟩
      exact ho hempty

/-! ## The account is the one of the name -/

/-- All names of accounts are different, and an account of the project that has the description of
a definition has the name made for it. -/
structure Distinct (d : Definition) (c : Cloud) : Prop where
  names : (c.accounts.map (·.name)).Nodup
  described : ∀ id, accountIdOf d.transferProcess = .ok id → ∀ a ∈ Remote.accountsOf d.project c,
    a.description = accountDescription d.transferProcess d.targetBucket →
    a.name = Remote.accountName d.project (Remote.accountEmail id d.project)

namespace Distinct

theorem of_accounts (h : Distinct d c) (hc : c'.accounts = c.accounts) : Distinct d c' where
  names := hc ▸ h.names
  described id hid a ha := h.described id hid a (by rwa [Remote.accountsOf, hc] at ha)

theorem after_accountMade (h : Distinct d c) (hmade : AccountMade d c c') : Distinct d c' := by
  obtain ⟨id, hid, hnone, rfl⟩ := hmade
  refine ⟨Cloud.nodup_names_addAccount h.names hnone, fun id' hid' a ha hdesc => ?_⟩
  obtain rfl : id' = id := Except.ok.inj (hid'.symm.trans hid)
  obtain ⟨hmem, hin⟩ := Remote.mem_accountsOf.1 ha
  rcases List.mem_append.1 hmem with hold | hnew
  · exact h.described id' hid' a (Remote.mem_accountsOf.2 ⟨hold, hin⟩) hdesc
  · rw [List.mem_singleton.1 hnew]
    rfl

end Distinct

/-- An account that is there with the description is the one that is found. -/
theorem readyAccount_of_mem (h : Distinct d c) {id : String}
    (hid : accountIdOf d.transferProcess = .ok id) (ha : a ∈ Remote.accountsOf d.project c)
    (hdesc : a.description = description d) : readyAccount d c = some (a, c) := by
  obtain ⟨a', ha'⟩ : ∃ a', (Remote.accountsOf d.project c).find?
      (fun a => a.description = description d) = some a' := by
    rw [← Option.isSome_iff_exists, List.find?_isSome]
    exact ⟨a, ha, decide_eq_true hdesc⟩
  have hmem := List.mem_of_find?_eq_some ha'
  have hdesc' : a'.description = description d := by simpa using List.find?_some ha'
  have hname : a'.name = a.name :=
    (h.described id hid a' hmem hdesc').trans (h.described id hid a ha hdesc).symm
  have hsame : a' = a := List.inj_on_of_nodup_map h.names (Remote.mem_accountsOf.1 hmem).1
    (Remote.mem_accountsOf.1 ha).1 hname
  simp only [readyAccount, hid, ha', hsame]

/-- Where no account has the name, the account is made. -/
theorem readyAccount_of_free (h : Distinct d c) {id : String}
    (hid : accountIdOf d.transferProcess = .ok id)
    (hnone : c.account? (Remote.accountName d.project (Remote.accountEmail id d.project)) = none) :
    readyAccount d c = some (Remote.newAccount d.project id (description d),
      c.addAccount (Remote.newAccount d.project id (description d))) := by
  have hfind : (Remote.accountsOf d.project c).find?
      (fun a => a.description = description d) = none := by
    rw [List.find?_eq_none]
    intro a ha hdesc
    have hname := h.described id hid a ha (of_decide_eq_true hdesc)
    exact Cloud.account?_eq_none_iff.1 hnone a (Remote.mem_accountsOf.1 ha).1 hname
  simp only [readyAccount, hid, hfind, hnone]

theorem exists_id_of_readyAccount (h : readyAccount d c = some (a, c')) :
    ∃ id, accountIdOf d.transferProcess = .ok id := by
  rcases hid : accountIdOf d.transferProcess with e | id
  · simp only [readyAccount, hid] at h
    cases h
  · exact ⟨id, rfl⟩

theorem grantTo_of_ok {name : Value} {email : String} {gs : List Binding}
    (hb : c.bucket? name = some b) (hgs : Policy.grant (Policy.member email) b.bindings = .ok gs) :
    grantTo name email c = some ((), c.setBindings name gs) := by
  rw [grantTo, hb, Option.elim_some, hgs]
  rfl

/-! ## Half-done work -/

/-- A bucket that was made is found. -/
theorem settle_bucketMade (h : BucketMade d c c') {x : Cloud} (hx : settle d c = some (a, x)) :
    settle d c' = some (a, x) := by
  obtain ⟨b, c₁, c₂, hb, hrest⟩ := settle_eq_some_iff.1 hx
  have hthere := h.bucket?
  obtain ⟨hnone, rfl⟩ := h
  rcases readyBucket_eq_some_iff.1 hb with ⟨hsome, -⟩ | ⟨-, -, rfl, rfl⟩
  · exact nomatch hnone.symm.trans hsome
  · refine settle_eq_some_iff.2 ⟨newBucket d, _, c₂, ?_, hrest⟩
    exact readyBucket_eq_some_iff.2 (Or.inl ⟨hthere, rfl, rfl⟩)

/-- An account that was made is found. -/
theorem settle_accountMade (hd : Distinct d c) (h : AccountMade d c c') {x : Cloud}
    (hx : settle d c = some (a, x)) : settle d c' = some (a, x) := by
  have hd' := hd.after_accountMade h
  obtain ⟨b, c₁, c₂, hb, ha, hg⟩ := settle_eq_some_iff.1 hx
  obtain ⟨id, hid, hnone, rfl⟩ := h
  have haccounts : c₁.accounts = c.accounts := by
    rcases readyBucket_eq_some_iff.1 hb with ⟨-, -, rfl⟩ | ⟨-, -, -, rfl⟩ <;> rfl
  have hmade := readyAccount_of_free (hd.of_accounts haccounts) hid
    (by rwa [Cloud.account?, haccounts])
  rw [hmade] at ha
  cases ha
  refine settle_eq_some_iff.2
    ⟨b, c₁.addAccount (Remote.newAccount d.project id (description d)), _, ?_, ?_, hg⟩
  · rcases readyBucket_eq_some_iff.1 hb with ⟨hsome, ho, rfl⟩ | ⟨hnew, hl, rfl, rfl⟩
    · exact readyBucket_eq_some_iff.2 (Or.inl ⟨hsome, ho, rfl⟩)
    · exact readyBucket_eq_some_iff.2 (Or.inr ⟨hnew, hl, rfl, rfl⟩)
  · refine readyAccount_of_mem ?_ hid ?_ rfl
    · exact hd'.of_accounts (congrArg (· ++ [_]) haccounts)
    · exact Remote.mem_accountsOf.2
        ⟨List.mem_append_right _ (List.mem_singleton_self _), Remote.isPrefixOf_accountName _ _⟩

/-- A member that was granted the right is granted it again, by the same policy. -/
theorem settle_granted (hd : Distinct d c) (hb : c.bucket? d.targetBucket = some b)
    {a' : Account} (ha : a' ∈ Remote.accountsOf d.project c)
    (hdesc : a'.description = description d)
    (h : Granted d b a' c c') {x : Cloud} (hx : settle d c = some (a, x)) :
    settle d c' = some (a, x) := by
  obtain ⟨b', c₁, c₂, hready, haccount, hg⟩ := settle_eq_some_iff.1 hx
  obtain ⟨id, hid⟩ := exists_id_of_readyAccount haccount
  obtain ⟨gs, hgs, rfl⟩ := h
  have hname : b.name = d.targetBucket := Cloud.name_of_bucket? hb
  have hthere := Cloud.bucket?_setBindings_self hb gs
  rcases readyBucket_eq_some_iff.1 hready with ⟨hsome, ho, rfl⟩ | ⟨hnone, -⟩
  · obtain rfl : b = b' := Option.some.inj (hb.symm.trans hsome)
    rw [readyAccount_of_mem hd hid ha hdesc] at haccount
    cases haccount
    rw [hname, grantTo_of_ok hb hgs] at hg
    cases hg
    refine settle_eq_some_iff.2 ⟨{ b with bindings := gs }, _, _,
      readyBucket_eq_some_iff.2 (Or.inl ⟨hthere, ho, rfl⟩),
      readyAccount_of_mem (hd.of_accounts rfl) hid ha hdesc, ?_⟩
    rw [hname, grantTo_of_ok hthere (Policy.grant_grant hgs), Cloud.setBindings_setBindings]
  · exact nomatch hnone.symm.trans hb

theorem readyAccount_issued (d : Definition) (c : Cloud) :
    readyAccount d (issued c) = (readyAccount d c).map fun p => (p.1, issued p.2) := by
  have haccounts : Remote.accountsOf d.project (issued c) = Remote.accountsOf d.project c := rfl
  have hlook : ∀ name, (issued c).account? name = c.account? name := fun _ => rfl
  simp only [readyAccount, haccounts, hlook]
  rcases accountIdOf d.transferProcess with e | id
  · rfl
  · generalize (Remote.accountsOf d.project c).find?
      (fun a => a.description = description d) = found
    rcases found with _ | a
    · dsimp only
      rcases c.account? (Remote.accountName d.project (Remote.accountEmail id d.project)) <;> rfl
    · rfl

theorem grantTo_issued (name : Value) (email : String) (c : Cloud) :
    grantTo name email (issued c) = (grantTo name email c).map fun p => (p.1, issued p.2) := by
  have hlook : (issued c).bucket? name = c.bucket? name := rfl
  rw [grantTo, grantTo, hlook]
  rcases Policy.grant (Policy.member email) ((c.bucket? name).elim [] Bucket.bindings) <;> rfl

/-- A token that was issued is only counted. -/
theorem settle_issued {x : Cloud} (hx : settle d c = some (a, x)) :
    settle d (issued c) = some (a, issued x) := by
  obtain ⟨b, c₁, c₂, hb, ha, hg⟩ := settle_eq_some_iff.1 hx
  refine settle_eq_some_iff.2 ⟨b, issued c₁, issued c₂, ?_, ?_, ?_⟩
  · rcases readyBucket_eq_some_iff.1 hb with ⟨hsome, ho, rfl⟩ | ⟨hnone, hl, rfl, rfl⟩
    · exact readyBucket_eq_some_iff.2 (Or.inl ⟨hsome, ho, rfl⟩)
    · exact readyBucket_eq_some_iff.2 (Or.inr ⟨hnone, hl, rfl, rfl⟩)
  · rw [readyAccount_issued, ha]
    rfl
  · rw [grantTo_issued, hg]
    rfl

/-- A cloud settles to an account and to another cloud, the number of tokens apart. -/
structure SettlesTo (d : Definition) (a : Account) (x c : Cloud) : Prop where
  distinct : Distinct d c
  settles : ∃ n, settle d c = some (a, { x with tokensIssued := n })

/-- **Half-done work does not matter.** Wherever the stages stop, the cloud after them settles to
what the cloud before them settles to. -/
theorem SettlesTo.after_course {x : Cloud} {r : Except (Stage × Failure) (Account × AccessToken)}
    (h : SettlesTo d a x c) (hcourse : Course d c r c') : SettlesTo d a x c' := by
  refine hcourse.keeps ?_ ?_ ?_ ?_ h
  · rintro c c' hmade ⟨hd, n, hn⟩
    exact ⟨hd.of_accounts (by rw [hmade.2]; rfl), n, settle_bucketMade hmade hn⟩
  · rintro c c' hmade ⟨hd, n, hn⟩
    exact ⟨hd.after_accountMade hmade, n, settle_accountMade hd hmade hn⟩
  · rintro c c' b a' hb ha hdesc hgranted ⟨hd, n, hn⟩
    obtain ⟨gs, -, hset⟩ := id hgranted
    exact ⟨hd.of_accounts (by rw [hset]; rfl), n, settle_granted hd hb ha hdesc hgranted hn⟩
  · rintro c ⟨hd, n, hn⟩
    exact ⟨hd.of_accounts rfl, n + 1, settle_issued hn⟩

end Provision

end TransferBucket
