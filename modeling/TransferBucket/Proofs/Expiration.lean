import TransferBucket.Proofs.Nearest
import TransferBucket.Token

/-!
# How large numbers become

The last place of a finite number of 64 bits is not above `2 ^ 971`. So its part left of the point
has few enough digits to be written (`Binary64.IsProper.isWritable_of_truncate?`). In particular the
expiration of an issued token can be written (`AccessToken.isWritable_expirationAt`), whatever the
instant at which the token ends.
-/

namespace TransferBucket

theorem isWritable_of_le {n : Int} {b : Nat} (hb : b < 3 * digitLimit) (h : n.natAbs ≤ 2 ^ b) :
    isWritable n := by
  rw [isWritable, Bool.or_eq_true, decide_eq_true_eq]
  refine Or.inl ?_
  by_cases hzero : n.natAbs = 0
  · rw [hzero]
    decide
  · rw [Nat.log2_lt hzero]
    exact h.trans_lt (Nat.pow_lt_pow_right (by decide) hb)

namespace Binary64

variable {x y : Binary64} {m : Nat} {e n : Int}

/-- What a mantissa and an exponent stand for, without what is right of the point. -/
def wholePart (m : Nat) (e : Int) : Nat := (magnitude m e).1 / (magnitude m e).2

theorem natAbs_of_truncate? {negative : Bool}
    (h : (finite negative m e).truncate? = some n) : n.natAbs = wholePart m e := by
  simp only [truncate?, toRatio?, Option.map_some, Option.some.injEq] at h
  subst h
  cases negative <;> simp [wholePart] <;> rfl

theorem wholePart_le {b : Nat} (hm : m ≤ 2 ^ 53) (he : e ≤ b) :
    wholePart m e ≤ 2 ^ (b + 53) := by
  unfold wholePart magnitude
  by_cases hsign : 0 ≤ e
  · rw [if_pos hsign, Nat.div_one, Nat.add_comm, Nat.pow_add]
    exact Nat.mul_le_mul hm (Nat.pow_le_pow_right (by decide) (by omega))
  · rw [if_neg hsign]
    calc m / 2 ^ (-e).toNat ≤ m := Nat.div_le_self _ _
      _ ≤ 2 ^ 53 := hm
      _ ≤ 2 ^ (b + 53) := Nat.pow_le_pow_right (by decide) (by omega)

/-- The part left of the point of a number of the format can be written. -/
theorem IsProper.isWritable_of_truncate? (hx : x.IsProper) (h : x.truncate? = some n) :
    isWritable n := by
  obtain ⟨hm, -, hhigh, -⟩ := hx
  refine isWritable_of_le (b := 971 + 53) (by decide) ?_
  rw [natAbs_of_truncate? h]
  exact wholePart_le hm.le hhigh

theorem isWritable_of_truncate?_ofRatio {negative : Bool} {num den : Nat} (hden : 0 < den)
    (h : (ofRatio negative num den).truncate? = some n) : isWritable n := by
  rcases ofRatio_cases negative num hden with hproper | hinfinite
  · exact hproper.isWritable_of_truncate? h
  · rw [hinfinite] at h
    cases h

theorem isWritable_of_truncate?_mul (h : (x.mul y).truncate? = some n) : isWritable n := by
  cases x with
  | nan => cases h
  | infinite negative =>
    cases y <;> simp only [mul] at h
    · cases h
    · split at h <;> cases h
    · split at h <;> cases h
  | finite negative m e =>
    cases y with
    | nan => cases h
    | infinite negative =>
      simp only [mul] at h
      split at h <;> cases h
    | finite negative' m' e' =>
      exact isWritable_of_truncate?_ofRatio
        (Nat.mul_pos (magnitude_spec m e).1 (magnitude_spec m' e').1) h

end Binary64

/-- The expiration of an issued token can be written. -/
theorem AccessToken.isWritable_expirationAt (i : Instant) : isWritable (expirationAt i) := by
  unfold expirationAt
  dsimp only
  rcases h : ((Binary64.ofQuotient i.microseconds 1000000).mul (Binary64.ofInt 1000)).truncate?
    with _ | n
  · decide
  · exact Binary64.isWritable_of_truncate?_mul h

end TransferBucket
