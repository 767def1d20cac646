import TransferBucket.Proofs.Calm
import TransferBucket.Proofs.Chain
import TransferBucket.Proofs.Nearest
import TransferBucket.Proofs.TokenTexts

/-!
# The ends of tokens

**Theorem (`AccessToken.ends_within_a_millisecond`).** Quotients and products of numbers of 64 bits
are the exact results, rounded once. A token gives credentials exactly if its milliseconds are of
the years 1 to 9999, and is refused as no token otherwise. Credentials end exactly where the token
does, if that is less than `2 ^ 33` seconds from 1970. A token issued for an instant of the years
2004 to 2038 carries the whole milliseconds of the instant; so credentials made of it, directly or
by way of its text, end less than a millisecond before the instant and never after it.

**From milliseconds** (`Binary64.toMicroseconds?`). Seconds below `2 ^ 33` are rounded by at most
`2 ^ -21`, which is less than half a microsecond; the part right of the point is exact, and its
product with a million is off by `2 ^ -34` at most. So the whole number next to it is the right one.
A bound in whole seconds is kept however far away the token ends, since no rounding goes past a
number of the format (`Binary64.le_toMicroseconds?_iff`).

**To milliseconds** (`AccessToken.expirationAt_eq`). Here a fraction is cut off, and the rounded
product must not lie below a whole number that the exact one has reached. The seconds are off by at
most `2 ^ -23`, their thousandfold by `1000 / 2 ^ 23`: less than half of the last place `2 ^ -12` of
the product, which is then rounded up to the whole number (`Binary64.IsNearest.le_value_of_half`).
-/

namespace TransferBucket

namespace Binary64

variable {x : Binary64} {e i : Int}

/-! ## From milliseconds to an instant -/

/-- The microseconds nearest to a number of seconds. -/
def toMicroseconds? (x : Binary64) : Option Int :=
  match x.truncate?, (x.fraction.mul (.ofInt 1000000)).round? with
  | some whole, some micros => some (whole * 1000000 + micros)
  | _, _ => none

/-- The product with a million adds next to nothing to the half that is rounded away. -/
theorem toMicroseconds?_spec (hx : x.IsProper) : ∃ i : Int, x.toMicroseconds? = some i ∧
    |(i : ℚ) - x.value * 1000000| ≤ 1 / 2 + 1 / 2 ^ 34 := by
  obtain ⟨w, hw, hproper, hvalue, hless, -⟩ := truncate?_spec hx
  obtain ⟨hmillion, hmillion'⟩ := ofInt_spec (n := 1000000) (by norm_num)
  have hproduct : |x.fraction.value * (ofInt 1000000).value| ≤ 2 ^ (-33 + 53 : Int) := by
    rw [hvalue, hmillion', abs_mul]
    norm_num
    linarith
  have hnearest := isNearest_mul hproper hmillion
    (hproduct.trans_lt (two_zpow_lt_limit (by norm_num)))
  have herror := hnearest.abs_sub_le (by norm_num) (by norm_num) hproduct
  obtain ⟨n, hn, hhalf⟩ := round?_spec hnearest.proper
  refine ⟨w * 1000000 + n, by rw [toMicroseconds?, hw, hn], ?_⟩
  rw [hvalue, hmillion'] at herror
  rw [abs_le] at herror hhalf ⊢
  norm_num at herror hhalf ⊢
  constructor <;> linarith

theorem le_toMicroseconds?_iff {s : Int} (hs : |s| ≤ 2 ^ 41) (hx : IsNearest (e / 1000) x)
    (hi : x.toMicroseconds? = some i) : 1000000 * s ≤ i ↔ 1000 * s ≤ e := by
  obtain ⟨j, hj, hnear⟩ := toMicroseconds?_spec hx.proper
  obtain rfl : j = i := Option.some.inj (hj.symm.trans hi)
  obtain ⟨hbelow, habove⟩ := abs_le.1 hnear
  obtain ⟨hsLow, hsHigh⟩ := abs_le.1 hs
  constructor
  · intro hle
    by_contra hless
    -- the format has a number between the last millisecond before the bound and the bound
    have hr : Representable ((s * 2 ^ 11 - 1 : Int) * 2 ^ (-11 : Int)) :=
      representable_multiple (abs_le.2 ⟨by omega, by omega⟩) (by norm_num) (by norm_num)
    have he : (e : ℚ) ≤ 1000 * s - 1 := by
      exact_mod_cast Int.le_sub_one_of_lt (not_le.1 hless)
    have hle' : (1000000 * s : ℚ) ≤ j := by exact_mod_cast hle
    have hvalue := hx.value_le hr (by push_cast; norm_num; linarith)
    push_cast at hvalue
    norm_num at hvalue habove
    linarith
  · intro hle
    have hle' : (1000 * s : ℚ) ≤ e := by exact_mod_cast hle
    -- the bound itself is a number of the format, so rounding does not step over it
    have hvalue := hx.le_value (representable_int (n := s) (by omega)) (by linarith)
    have hless : (1000000 * s - 1 : ℚ) < j := by
      norm_num at hbelow
      linarith
    exact Int.sub_one_lt_iff.1 (by exact_mod_cast hless)

/-- **Milliseconds are kept exactly**, as long as the last place of the seconds is fine enough. -/
theorem toMicroseconds?_milliseconds (h : |e| < 1000 * 2 ^ 33) :
    (ofQuotient e 1000).toMicroseconds? = some (1000 * e) := by
  have he : |(e : ℚ)| / (1000 : Nat) ≤ 2 ^ (-20 + 53 : Int) := by
    have he' : |(e : ℚ)| ≤ 1000 * 2 ^ 33 := by exact_mod_cast h.le
    norm_num
    linarith
  have hnearest := isNearest_ofQuotient_of_le (by norm_num) (by norm_num) he
  have herror := abs_value_ofQuotient_sub_le (by norm_num) (by norm_num) (by norm_num) he
  obtain ⟨i, hi, hnear⟩ := toMicroseconds?_spec hnearest.proper
  have hless : |((i - 1000 * e : Int) : ℚ)| < 1 := by
    rw [abs_le] at herror hnear
    norm_num at herror hnear
    push_cast
    rw [abs_lt]
    constructor <;> linarith
  have hzero : i - 1000 * e = 0 := Int.abs_lt_one_iff.1 (by exact_mod_cast hless)
  rw [hi, sub_eq_zero.1 hzero]

end Binary64

theorem Instant.isWritable_iff {i : Int} : (Instant.mk i).isWritable ↔
    -62135596800000000 ≤ i ∧ i < 253402300800000000 := by
  rw [isWritable, Bool.and_eq_true, decide_eq_true_iff, decide_eq_true_iff]
  exact Iff.rfl

namespace AccessToken

open Binary64

theorem expiry?_eq (t : AccessToken) : t.expiry? =
    (ofQuotient t.expiration 1000).toMicroseconds?.bind fun n =>
      if (Instant.mk n).isWritable then some ⟨n⟩ else none := by
  rw [expiry?, toMicroseconds?]
  dsimp only
  rcases (ofQuotient t.expiration 1000).truncate? with _ | w
  · rfl
  · rcases ((ofQuotient t.expiration 1000).fraction.mul (ofInt 1000000)).round? with _ | n <;> rfl

/-- **A token has an end exactly if its milliseconds are of the years 1 to 9999.** -/
theorem isSome_expiry? (t : AccessToken) :
    t.expiry?.isSome = (Instant.mk (1000 * t.expiration)).isWritable := by
  rw [expiry?_eq]
  rcases lt_or_ge (|(t.expiration : ℚ)| / (1000 : Nat)) limit with hless | hle
  · have hnearest := isNearest_ofQuotient (by norm_num) hless
    obtain ⟨i, hi, -⟩ := toMicroseconds?_spec hnearest.proper
    have hsame : (Instant.mk i).isWritable = (Instant.mk (1000 * t.expiration)).isWritable := by
      have hfirst := le_toMicroseconds?_iff (s := -62135596800) (by norm_num) hnearest hi
      have hlimit := le_toMicroseconds?_iff (s := 253402300800) (by norm_num) hnearest hi
      rw [Bool.eq_iff_iff, Instant.isWritable_iff, Instant.isWritable_iff]
      omega
    rw [hi, ← hsame, Option.bind_some]
    cases (Instant.mk i).isWritable <;> rfl
  · have hfar : 1000 * 2 ^ 50 < |t.expiration| := by
      have hpower := (two_zpow_lt_limit (k := 50) (by norm_num)).trans_le hle
      have hfar : (1000 * 2 ^ 50 : ℚ) < |(t.expiration : ℚ)| := by
        norm_num at hpower ⊢
        linarith
      exact_mod_cast hfar
    have hoff : ¬ (Instant.mk (1000 * t.expiration)).isWritable := by
      rw [Instant.isWritable_iff]
      rcases abs_cases t.expiration with h | h <;> omega
    rw [ofQuotient_of_limit_le (by norm_num) hle]
    exact (Bool.eq_false_iff.2 hoff).symm

theorem expiry?_milliseconds {t : AccessToken} (h : |t.expiration| < 1000 * 2 ^ 33) :
    t.expiry? = some ⟨1000 * t.expiration⟩ := by
  obtain ⟨hlow, hhigh⟩ := abs_lt.1 h
  rw [expiry?_eq, toMicroseconds?_milliseconds h]
  exact if_pos (Instant.isWritable_iff.2 (by omega))

theorem ofToken_cases (t : AccessToken) (s : Session) :
    (∃ ends, (Credentials.ofToken t s).1 = .ok (.token t.secret ends) ∧
        (Instant.mk (1000 * t.expiration)).isWritable) ∨
      (Credentials.ofToken t s).1 = .error (.credential .tokenFormat) ∧
        ¬ (Instant.mk (1000 * t.expiration)).isWritable := by
  rw [← isSome_expiry?, Credentials.ofToken_fst]
  rcases t.expiry? with _ | ends
  · exact Or.inr ⟨rfl, nofun⟩
  · exact Or.inl ⟨ends, rfl, rfl⟩

/-! ## From an instant to milliseconds -/

section Issuing

variable {u : Int}

theorem truncate?_thousandfold {x : Binary64} (hlow : 1100000000000000 ≤ u)
    (hhigh : u < 2147483648000000) (hx : x.IsProper)
    (herror : |x.value - u / 1000000| ≤ 1 / 2 ^ 23) :
    (x.mul (ofInt 1000)).truncate? = some (u / 1000) := by
  obtain ⟨hthousand, hvalue⟩ := ofInt_spec (n := 1000) (by norm_num)
  obtain ⟨hbelow, habove⟩ := abs_le.1 herror
  have hlow' : (1100000000000000 : ℚ) ≤ u := by exact_mod_cast hlow
  have hhigh' : (u : ℚ) ≤ 2147483648000000 := by exact_mod_cast hhigh.le
  have hproduct : |x.value * (ofInt 1000).value| ≤ 2 ^ (-12 + 53 : Int) := by
    rw [hvalue, abs_of_nonneg] <;> norm_num <;> linarith
  have hnearest := isNearest_mul hx hthousand (hproduct.trans_lt (two_zpow_lt_limit (by norm_num)))
  obtain ⟨-, herror'⟩ := abs_le.1 (hnearest.abs_sub_le (by norm_num) (by norm_num) hproduct)
  rw [hvalue] at hnearest herror'
  norm_num at hnearest herror'
  -- the fraction is cut off, so nothing below `n` may come out, however small the error
  obtain ⟨n, hn⟩ : ∃ n, n = u / 1000 := ⟨_, rfl⟩
  have hfloor : (1000 * n : ℚ) ≤ u := by exact_mod_cast (by omega : 1000 * n ≤ u)
  have hceil : (u : ℚ) ≤ 1000 * n + 999 := by exact_mod_cast (by omega : u ≤ 1000 * n + 999)
  have hleast : (n : ℚ) ≤ (x.mul (ofInt 1000)).value := by
    -- a whole number of milliseconds is a multiple of the last place, with all 53 digits
    have hmultiple := hnearest.le_value_of_half (n := n * 2 ^ 12) (k := -12) (by norm_num)
      (by norm_num) (by omega) (by omega) (by push_cast; norm_num; linarith)
    push_cast at hmultiple
    norm_num at hmultiple
    linarith
  rw [← hn]
  exact truncate?_eq hnearest.proper (by omega) hleast (by linarith)

/-- **A token issued carries the whole milliseconds of its end.** -/
theorem expirationAt_eq (hlow : 1100000000000000 ≤ u) (hhigh : u < 2147483648000000) :
    expirationAt ⟨u⟩ = u / 1000 := by
  have hu : |(u : ℚ)| / (1000000 : Nat) ≤ 2 ^ (-22 + 53 : Int) := by
    have hu' : |(u : ℚ)| ≤ 2147483648000000 := by
      exact_mod_cast abs_le.2 ⟨by omega, hhigh.le⟩
    norm_num
    linarith
  have hseconds := isNearest_ofQuotient_of_le (by norm_num) (by norm_num) hu
  have herror := abs_value_ofQuotient_sub_le (by norm_num) (by norm_num) (by norm_num) hu
  norm_num at herror
  rw [expirationAt]
  dsimp only
  rw [truncate?_thousandfold hlow hhigh hseconds.proper (by norm_num; exact herror),
    Option.getD_some]

end Issuing

/-! ## Tokens issued and used -/

theorem used_within_a_millisecond {t : AccessToken} {i : Instant}
    (hlow : 1100000000000000 ≤ i.microseconds) (hhigh : i.microseconds < 2147483648000000)
    (hsecret : t.secret ≠ "") (ht : t.expiration = expirationAt i) (later : Session) :
    ∃ ends, (Credentials.ofToken t later).1 = .ok (.token t.secret ends) ∧
      (Credentials.ofTokenText t.toText later).1 = .ok (.token t.secret ends) ∧
      ends.microseconds ≤ i.microseconds ∧ i.microseconds < ends.microseconds + 1000 := by
  have hwhole : t.expiration = i.microseconds / 1000 := ht.trans (expirationAt_eq hlow hhigh)
  have hends : t.expiry? = some ⟨1000 * t.expiration⟩ :=
    expiry?_milliseconds (abs_lt.2 ⟨by omega, by omega⟩)
  have hread : ofText t.toText = .ok t :=
    (ofText_toText hsecret (ht ▸ isWritable_expirationAt i)).2
  refine ⟨⟨1000 * t.expiration⟩, ?_, ?_, ?_, ?_⟩
  · rw [Credentials.ofToken_fst, hends]
  · rw [Credentials.ofTokenText_fst, hread]
    dsimp only
    rw [hends]
  · show 1000 * t.expiration ≤ i.microseconds
    omega
  · show i.microseconds < 1000 * t.expiration + 1000
    omega

/-- **The end of a token is kept to the millisecond.** -/
theorem ends_within_a_millisecond :
    (∀ (n : Int) (den : Nat), 0 < den → |(n : ℚ)| / den < limit →
      (ofQuotient n den).IsNearest (n / den)) ∧
    (∀ x y : Binary64, x.IsProper → y.IsProper → |x.value * y.value| < limit →
      (x.mul y).IsNearest (x.value * y.value)) ∧
    (∀ (t : AccessToken) (s : Session),
      (∃ ends, (Credentials.ofToken t s).1 = .ok (.token t.secret ends) ∧
          (Instant.mk (1000 * t.expiration)).isWritable) ∨
        (Credentials.ofToken t s).1 = .error (.credential .tokenFormat) ∧
          ¬ (Instant.mk (1000 * t.expiration)).isWritable) ∧
    (∀ (t : AccessToken) (s : Session), |t.expiration| < 1000 * 2 ^ 33 →
      (Credentials.ofToken t s).1 = .ok (.token t.secret ⟨1000 * t.expiration⟩)) ∧
    ∀ (cr : Credentials) (lifetime : Value) (email : String) (s : Session),
      1100000000000000 ≤ s.cloud.tokenEnd.microseconds →
      s.cloud.tokenEnd.microseconds < 2147483648000000 →
      (∀ seconds, s.schedule = .none → Identity.lifetimeOf lifetime = .ok seconds →
        ∃ t s', Identity.issueToken cr lifetime email s = (.ok t, s')) ∧
      ∀ t s', Identity.issueToken cr lifetime email s = (.ok t, s') →
        t.expiration = s.cloud.tokenEnd.microseconds / 1000 ∧
        ∀ later, ∃ ends, (Credentials.ofToken t later).1 = .ok (.token t.secret ends) ∧
          (Credentials.ofTokenText t.toText later).1 = .ok (.token t.secret ends) ∧
          ends.microseconds ≤ s.cloud.tokenEnd.microseconds ∧
          s.cloud.tokenEnd.microseconds < ends.microseconds + 1000 := by
  refine ⟨fun n den hden h => isNearest_ofQuotient hden h, fun x y hx hy h => isNearest_mul hx hy h,
    ofToken_cases, fun t s h => ?_, fun cr lifetime email s hlow hhigh => ⟨?_, ?_⟩⟩
  · rw [Credentials.ofToken_fst, expiry?_milliseconds h]
  · intro seconds hs hlifetime
    obtain ⟨t, ht, -⟩ := (Identity.issueToken_computes cr lifetime email).run_of_some hs
      (by rw [Identity.tokenFor, hlifetime]; rfl)
    exact ⟨_, t, ht⟩
  · intro t s' ht
    rcases Identity.issueToken_ending cr lifetime email s with ⟨e, u, hstop, -⟩ | ⟨u, hissued, -⟩
    · rw [hstop] at ht
      cases ht
    · rw [hissued] at ht
      cases ht
      have hsecret : s!"issued-{s.cloud.tokensIssued + 1}" ≠ "" := by simp
      exact ⟨expirationAt_eq hlow hhigh, used_within_a_millisecond hlow hhigh hsecret rfl⟩

/-- A tenth, which is rounded, and its square; the first end before 1970 that is kept exactly; and a
token issued for the last microsecond of the range. -/
theorem ends_within_a_millisecond_at_the_edges :
    (∃ tenth : Binary64, tenth.IsProper ∧ tenth.IsNearest (((1 : Int) : ℚ) / (10 : Nat)) ∧
      tenth.value ≠ 1 / 10 ∧ |tenth.value * tenth.value| < limit ∧
      (tenth.mul tenth).IsNearest (tenth.value * tenth.value)) ∧
    (|(-8589934591999 : Int)| < 1000 * 2 ^ 33 ∧ ∀ s,
      (Credentials.ofToken ⟨"t", -8589934591999⟩ s).1 =
        .ok (.token "t" ⟨-8589934591999000⟩)) ∧
    ∃ s : Session, s.cloud.tokenEnd = ⟨2147483647999999⟩ ∧ ∃ t s',
      Identity.issueToken .direct (.int 3600) "a@b" s = (.ok t, s') ∧
      t.expiration = 2147483647999 ∧ ∃ ends,
        (Credentials.ofTokenText t.toText s').1 = .ok (.token t.secret ends) ∧
        ends.microseconds ≤ 2147483647999999 ∧ 2147483647999999 < ends.microseconds + 1000 := by
  obtain ⟨hquotient, hproduct, -, hkept, hissued⟩ := ends_within_a_millisecond
  have htenth := hquotient 1 10 (by decide) (lt_limit_of_lt_one (by norm_num))
  have hvalue : (ofQuotient 1 10).value = 7205759403792794 / 2 ^ 56 := by
    rw [show ofQuotient 1 10 = .finite false 7205759403792794 (-56) by decide]
    norm_num [value, sign]
  have hsquare : |(ofQuotient 1 10).value * (ofQuotient 1 10).value| < limit := by
    rw [hvalue]
    exact lt_limit_of_lt_one (by norm_num)
  have hedge : |(-8589934591999 : Int)| < 1000 * 2 ^ 33 := by decide
  let s : Session :=
    { vault := { kind := .environment }, cloud := { tokenEnd := ⟨2147483647999999⟩ } }
  obtain ⟨hissues, hends⟩ := hissued .direct (.int 3600) "a@b" s (by decide) (by decide)
  obtain ⟨t, s', ht⟩ := hissues 3600 rfl rfl
  obtain ⟨hexpiration, hused⟩ := hends t s' ht
  obtain ⟨ends, -, htext, hbefore, hafter⟩ := hused s'
  refine ⟨⟨_, htenth.proper, htenth, ?_, hsquare,
    hproduct _ _ htenth.proper htenth.proper hsquare⟩, ⟨hedge, fun u => hkept ⟨"t", _⟩ u hedge⟩,
    s, rfl, t, s', ht, hexpiration, ends, htext, hbefore, hafter⟩
  rw [hvalue]
  norm_num

end AccessToken

end TransferBucket
