import TransferBucket.Proofs.Secrecy

/-!
# The number of tokens

The text of a token tells how many were issued before it. Nothing else does: a provisioning runs
alike however many tokens were issued (`provision_recounted`). It ends with the same failure or
with the same record, and logs the same; two tokens that it ends with are good until the same
time, and only their texts may differ.
-/

namespace TransferBucket

open Session TransferBucket.Action

/-- Numbers of which nothing is known. -/
def anyNumbers (_ _ : Nat) : Prop := True

theorem Address.mayExchange_self (a : Address) (project : Value) :
    a.MayExchange (.nothing project) a := by
  have hsame : a.DiffersInline a := by
    refine ⟨rfl, ?_, ?_⟩
    · rcases Source.inlineToken.given? a with _ | v
      · exact .none
      · exact .some (.refl (Source.TextsAlike.refl _) _)
    · rcases Source.inlineKeyFile.given? a with _ | v
      · exact .none
      · exact .some (.refl (Source.TextsAlike.refl _) _)
  exact hsame.mayExchange project

theorem Session.alikeUpTo_recounted {s : Session} {project : Value}
    (h : ∀ p ef, s.vault.kind = .secrets p ef → p = project) (n : Nat) :
    s.AlikeUpTo anyNumbers (.nothing project) (s.recounted n) := by
  have hsame : s.Alike (.nothing project) s := .refl h
  exact ⟨hsame, trivial⟩

/-- **The number of tokens shows in the texts of tokens alone.** -/
theorem provision_recounted (lifetime : Value) (d : Definition) (s : Session) (n : Nat) :
    EndAlike (Provision.AnswersUpTo anyNumbers d d) (provision lifetime d s).1
        (provision lifetime d (s.recounted n)).1 ∧
      (provision lifetime d (s.recounted n)).2.log = (provision lifetime d s).2.log := by
  -- the secrets that count are those of the one project of the vault
  obtain ⟨project, hproject⟩ : ∃ project, ∀ p ef, s.vault.kind = .secrets p ef → p = project := by
    rcases hkind : s.vault.kind with _ | ⟨project, ef⟩
    · exact ⟨.null, fun p ef h => by cases h⟩
    · exact ⟨project, fun p ef h => by cases h; rfl⟩
  obtain ⟨hend, hnext⟩ := provision_paired (N := anyNumbers) (fun _ _ _ => trivial) lifetime
    (d.address.mayExchange_self project) s (s.recounted n) (alikeUpTo_recounted hproject n)
  exact ⟨hend, hnext.alike.log⟩

end TransferBucket
