import Mathlib.Algebra.Order.Field.Power
import Mathlib.Algebra.Order.Round
import Mathlib.Data.Rat.Floor
import Mathlib.Tactic.Linarith
import Mathlib.Tactic.NormNum
import Mathlib.Tactic.Positivity
import Mathlib.Tactic.Ring
import TransferBucket.Number.Binary64

/-!
# Nearest numbers

The numbers of 64 bits stand for rational numbers (`Binary64.value`), those with at most 53 binary
digits in the range of the format (`Binary64.Representable`).

**Theorem (`Binary64.isNearest_ofRatio`).** A quotient below the limit of the format is rounded to
the number nearest to it, a tie going to the even mantissa (`Binary64.IsNearest`); from the limit on
it becomes an infinity (`Binary64.ofRatio_of_limit_le`). So quotients and products are the exact
results, rounded once (`Binary64.isNearest_ofQuotient`, `Binary64.isNearest_mul`).

**The proof** rounds to a multiple of the unit in the last place first (`Binary64.Rounds`). Numbers
of the format are multiples of that unit too, or else so small that a power of two lies between
(`Binary64.Representable.multiple_or_small`).

**What is used of the nearest number.** It is the number itself, if the format has it; rounding goes
past no number of the format; and the error is at most half a unit (`Binary64.IsNearest.value_eq`,
`le_value`, `value_le`, `abs_sub_le`).
-/

namespace TransferBucket

/-! ## Powers of two -/

theorem two_zpow_pos (k : Int) : (0 : ℚ) < 2 ^ k := zpow_pos two_pos k

theorem two_zpow_of_nonneg {e : Int} (h : 0 ≤ e) : ((Nat.pow 2 e.toNat : Nat) : ℚ) = 2 ^ e := by
  obtain ⟨n, rfl⟩ := Int.eq_ofNat_of_zero_le h
  simp

theorem two_zpow_of_neg {e : Int} (h : e < 0) :
    ((Nat.pow 2 (-e).toNat : Nat) : ℚ) = (2 ^ e)⁻¹ := by
  rw [two_zpow_of_nonneg (by omega), zpow_neg]

/-! ## Quotients of whole numbers -/

/-- A quotient against a power, by whole numbers only. -/
theorem lt_mul_two_pow_iff {num den : Nat} (hden : 0 < den) {k : Int} (hk : 0 ≤ k) :
    num < den * Nat.pow 2 k.toNat ↔ (num : ℚ) / den < 2 ^ k := by
  have hd : (0 : ℚ) < den := by exact_mod_cast hden
  rw [div_lt_iff₀' hd, ← two_zpow_of_nonneg hk]
  norm_cast

theorem mul_two_pow_lt_iff {num den : Nat} (hden : 0 < den) {k : Int} (hk : k < 0) :
    num * Nat.pow 2 (-k).toNat < den ↔ (num : ℚ) / den < 2 ^ k := by
  have hd : (0 : ℚ) < den := by exact_mod_cast hden
  rw [div_lt_iff₀' hd, ← div_lt_iff₀ (two_zpow_pos k), div_eq_mul_inv, ← two_zpow_of_neg hk]
  norm_cast

/-- A quotient is its whole part and a proper fraction. -/
theorem div_eq_div_add_mod (num : Nat) {den : Nat} (hden : 0 < den) :
    (num : ℚ) / den = (num / den : Nat) + (num % den : Nat) / den ∧
      ((num % den : Nat) : ℚ) / den < 1 := by
  have hd : (0 : ℚ) < den := by exact_mod_cast hden
  refine ⟨?_, ?_⟩
  · rw [div_eq_iff hd.ne', add_mul, div_mul_cancel₀ _ hd.ne']
    exact_mod_cast (Nat.div_add_mod' num den).symm
  · rw [div_lt_one hd]
    exact_mod_cast Nat.mod_lt num hden

/-- `n` is the whole number nearest to `q`, and even if another one is as near. -/
structure IsNearestWhole (q : ℚ) (n : Nat) : Prop where
  near : |(n : ℚ) - q| ≤ 1 / 2
  even : |(n : ℚ) - q| = 1 / 2 → Even n

theorem isNearestWhole_roundHalfEven (num : Nat) {den : Nat} (hden : 0 < den) :
    IsNearestWhole (num / den) (roundHalfEven num den) := by
  have hd : (0 : ℚ) < den := by exact_mod_cast hden
  obtain ⟨hquotient, hbelow⟩ := div_eq_div_add_mod num hden
  rw [hquotient, roundHalfEven]
  generalize num / den = q
  generalize num % den = r at hbelow ⊢
  have habove : (0 : ℚ) ≤ r / den := by positivity
  have hdown : |(q : ℚ) - (q + r / den)| = r / den := by
    rw [sub_add_cancel_left, abs_neg, abs_of_nonneg habove]
  have hup : |((q + 1 : Nat) : ℚ) - (q + r / den)| = 1 - r / den := by
    rw [Nat.cast_add_one, add_sub_add_left_eq_sub, abs_of_nonneg (by linarith)]
  split_ifs with hlow hhigh hparity
  · have hhalf : (r : ℚ) / den < 1 / 2 := by
      rw [div_lt_div_iff₀ hd two_pos, one_mul, mul_comm]
      exact_mod_cast hlow
    exact ⟨by linarith, fun h => by linarith⟩
  · have hhalf : 1 / 2 < (r : ℚ) / den := by
      rw [div_lt_div_iff₀ two_pos hd, one_mul, mul_comm]
      exact_mod_cast hhigh
    exact ⟨by linarith, fun h => by linarith⟩
  all_goals
    have hhalf : (r : ℚ) / den = 1 / 2 := by
      rw [div_eq_div_iff hd.ne' two_ne_zero]
      norm_cast
      omega
  · exact ⟨by linarith, fun _ => Nat.even_iff.2 hparity⟩
  · exact ⟨by linarith, fun _ => Nat.even_iff.2 (by omega)⟩

/-- The logarithms of the parts leave two powers to choose from. -/
theorem ratioLog2_eq (num : Nat) {den : Nat} (hden : 0 < den) :
    ratioLog2 num den =
      if (num : ℚ) / den < 2 ^ ((Nat.log2 num : Int) - Nat.log2 den)
      then (Nat.log2 num : Int) - Nat.log2 den - 1 else (Nat.log2 num : Int) - Nat.log2 den := by
  unfold ratioLog2
  dsimp only
  generalize (Nat.log2 num : Int) - Nat.log2 den = k
  by_cases hk : 0 ≤ k
  · rw [if_pos hk]
    exact if_congr (lt_mul_two_pow_iff hden hk) rfl rfl
  · rw [if_neg hk]
    exact if_congr (mul_two_pow_lt_iff hden (not_le.1 hk)) rfl rfl

theorem ratioLog2_spec {num den : Nat} (hnum : 0 < num) (hden : 0 < den) :
    (2 : ℚ) ^ ratioLog2 num den ≤ num / den ∧ (num : ℚ) / den < 2 ^ (ratioLog2 num den + 1) := by
  have hd : (0 : ℚ) < den := by exact_mod_cast hden
  have hnumLow : (2 : ℚ) ^ (Nat.log2 num : Int) ≤ num := by
    exact_mod_cast Nat.log2_self_le hnum.ne'
  have hnumHigh : (num : ℚ) < 2 ^ ((Nat.log2 num : Int) + 1) := by
    exact_mod_cast Nat.lt_log2_self (n := num)
  have hdenLow : (2 : ℚ) ^ (Nat.log2 den : Int) ≤ den := by
    exact_mod_cast Nat.log2_self_le hden.ne'
  have hdenHigh : (den : ℚ) < 2 ^ ((Nat.log2 den : Int) + 1) := by
    exact_mod_cast Nat.lt_log2_self (n := den)
  rw [ratioLog2_eq num hden]
  generalize (Nat.log2 num : Int) = a at *
  generalize (Nat.log2 den : Int) = b at *
  have hlow : (2 : ℚ) ^ (a - b - 1) ≤ num / den := by
    rw [le_div_iff₀ hd]
    calc (2 : ℚ) ^ (a - b - 1) * den ≤ 2 ^ (a - b - 1) * 2 ^ (b + 1) :=
          mul_le_mul_of_nonneg_left hdenHigh.le (two_zpow_pos _).le
      _ = 2 ^ a := by rw [← zpow_add₀ two_ne_zero]; congr 1; ring
      _ ≤ num := hnumLow
  have hhigh : (num : ℚ) / den < 2 ^ (a - b + 1) := by
    rw [div_lt_iff₀ hd]
    calc (num : ℚ) < 2 ^ (a + 1) := hnumHigh
      _ = 2 ^ (a - b + 1) * 2 ^ b := by rw [← zpow_add₀ two_ne_zero]; congr 1; ring
      _ ≤ 2 ^ (a - b + 1) * den := mul_le_mul_of_nonneg_left hdenLow (two_zpow_pos _).le
  split_ifs with hless
  · rw [sub_add_cancel]
    exact ⟨hlow, hless⟩
  · exact ⟨not_lt.1 hless, hhigh⟩

/-- No whole number is nearer than one at most a half away, and only in a tie another is as near. -/
theorem abs_sub_le_of_half {a : ℚ} {n : Int} (h : |(n : ℚ) - a| ≤ 1 / 2) (b : Int) :
    |(n : ℚ) - a| ≤ |(b : ℚ) - a| ∧
      (b ≠ n → |(b : ℚ) - a| = |(n : ℚ) - a| → |(n : ℚ) - a| = 1 / 2) := by
  by_cases hb : b = n
  · subst hb
    exact ⟨le_rfl, fun hne => absurd rfl hne⟩
  · have hone : (1 : ℚ) ≤ |(b : ℚ) - n| := by
      exact_mod_cast Int.one_le_abs (sub_ne_zero.2 hb)
    have hsum : |(b : ℚ) - n| ≤ |(b : ℚ) - a| + |(n : ℚ) - a| := by
      rw [abs_sub_comm (n : ℚ) a]
      exact abs_sub_le _ _ _
    exact ⟨by linarith, fun _ hsame => by linarith⟩

namespace Binary64

variable {num den : Nat} {q r : ℚ} {x y : Binary64} {k : Int}

/-! ## The numbers of the format -/

/-- The sign as a factor. -/
def sign (negative : Bool) : ℚ := if negative then -1 else 1

/-- What a finite number stands for; zero for the others. -/
def value : Binary64 → ℚ
  | .finite negative m e => sign negative * (m * 2 ^ e)
  | _ => 0

/-- The mantissa of a finite number. -/
def mantissa : Binary64 → Nat
  | .finite _ m _ => m
  | _ => 0

/-- The finite numbers of the format. -/
inductive IsProper : Binary64 → Prop
  | mk {negative : Bool} {m : Nat} {e : Int} (hm : m < 2 ^ 53) (hlow : -1074 ≤ e) (hhigh : e ≤ 971)
    (hfull : e = -1074 ∨ 2 ^ 52 ≤ m) : IsProper (.finite negative m e)

/-- The rational numbers that the format has: those of 53 binary digits, in its range. -/
def Representable (r : ℚ) : Prop :=
  ∃ n e : Int, |n| < 2 ^ 53 ∧ -1074 ≤ e ∧ e ≤ 971 ∧ r = n * 2 ^ e

theorem IsProper.representable (h : x.IsProper) : Representable x.value := by
  obtain @⟨negative, m, e, hm, hlow, hhigh, -⟩ := h
  refine ⟨if negative then -m else m, e, ?_, hlow, hhigh, ?_⟩
  · cases negative <;> simpa using hm
  · cases negative <;> simp [value, sign]

theorem Representable.neg (h : Representable r) : Representable (-r) := by
  obtain ⟨n, e, hn, hlow, hhigh, rfl⟩ := h
  exact ⟨-n, e, by rwa [abs_neg], hlow, hhigh, by push_cast; ring⟩

/-- Numbers of the format are multiples of a power of two, or small beside it. -/
theorem Representable.multiple_or_small (h : Representable r) (k : Int) :
    (∃ b : Int, r = b * 2 ^ k) ∨ -1074 < k ∧ |r| < 2 ^ (k + 52) := by
  obtain ⟨n, e, hn, hlow, -, rfl⟩ := h
  by_cases hk : k ≤ e
  · refine Or.inl ⟨n * 2 ^ (e - k).toNat, ?_⟩
    push_cast
    rw [mul_assoc, ← zpow_natCast, Int.toNat_of_nonneg (by omega), ← zpow_add₀ two_ne_zero,
      sub_add_cancel]
  · refine Or.inr ⟨by omega, ?_⟩
    have hn' : |(n : ℚ)| < 2 ^ (53 : Int) := by exact_mod_cast hn
    rw [abs_mul, abs_of_pos (two_zpow_pos e)]
    calc |(n : ℚ)| * 2 ^ e < 2 ^ (53 : Int) * 2 ^ e := mul_lt_mul_of_pos_right hn' (two_zpow_pos e)
      _ = 2 ^ (53 + e) := (zpow_add₀ two_ne_zero _ _).symm
      _ ≤ 2 ^ (k + 52) := zpow_le_zpow_right₀ one_le_two (by omega)

theorem representable_multiple {n : Int} (hn : |n| ≤ 2 ^ 53) (hlow : -1074 ≤ k) (hhigh : k ≤ 970) :
    Representable (n * 2 ^ k) := by
  rcases hn.lt_or_eq with hless | hsame
  · exact ⟨n, k, hless, hlow, by omega, rfl⟩
  · have hcarry : (2 : ℚ) ^ (k + 1) = 2 ^ k * 2 := zpow_add_one₀ two_ne_zero k
    rcases (abs_eq (by positivity)).1 hsame with rfl | rfl
    · exact ⟨2 ^ 52, k + 1, by norm_num, by omega, by omega, by rw [hcarry]; push_cast; ring⟩
    · exact ⟨-2 ^ 52, k + 1, by norm_num, by omega, by omega, by rw [hcarry]; push_cast; ring⟩

/-! ## Rounding at a place -/

/-- The multiple `n · 2 ^ e` is nearest to a number that is not negative, at the place where 53
digits are kept. -/
structure Rounds (q : ℚ) (n : Nat) (e : Int) : Prop where
  low : -1074 ≤ e
  below : q < 2 ^ (e + 53)
  full : e = -1074 ∨ 2 ^ (e + 52) ≤ q
  whole : IsNearestWhole (q / 2 ^ e) n

theorem isNearestWhole_scaled (num : Nat) (hden : 0 < den) (e : Int) :
    IsNearestWhole (num / den / 2 ^ e) (scaled num den e) := by
  unfold scaled
  split_ifs with hsign
  · have hunit : (num : ℚ) / den / 2 ^ e = num / (den * Nat.pow 2 e.toNat : Nat) := by
      rw [Nat.cast_mul, two_zpow_of_nonneg hsign, div_div]
    rw [hunit]
    exact isNearestWhole_roundHalfEven _ (Nat.mul_pos hden (Nat.two_pow_pos _))
  · have hunit : (num : ℚ) / den / 2 ^ e = (num * Nat.pow 2 (-e).toNat : Nat) / den := by
      rw [Nat.cast_mul, two_zpow_of_neg (not_le.1 hsign), div_right_comm, div_eq_mul_inv (num : ℚ)]
    rw [hunit]
    exact isNearestWhole_roundHalfEven _ hden

theorem rounds_scaled (hnum : 0 < num) (hden : 0 < den) :
    Rounds (num / den) (scaled num den (lastPlace num den)) (lastPlace num den) := by
  obtain ⟨hlow, hhigh⟩ := ratioLog2_spec hnum hden
  refine ⟨le_max_right _ _, hhigh.trans_le ?_, ?_, isNearestWhole_scaled _ hden _⟩
  · exact zpow_le_zpow_right₀ one_le_two (by unfold lastPlace; omega)
  · rcases max_choice (ratioLog2 num den - 52) (-1074) with h | h
    · right
      rw [lastPlace, h, sub_add_cancel]
      exact hlow
    · exact Or.inl h

namespace Rounds

variable {n : Nat} {e : Int}

theorem le_two_pow (h : Rounds q n e) : n ≤ 2 ^ 53 := by
  have hquotient : q / 2 ^ e < 2 ^ 53 := by
    rw [div_lt_iff₀ (two_zpow_pos e), ← zpow_natCast, ← zpow_add₀ two_ne_zero, add_comm]
    exact h.below
  have hless : (n : ℚ) < 2 ^ 53 + 1 := by
    have hnear := (abs_le.1 h.whole.near).2
    linarith
  exact Nat.lt_succ_iff.1 (by exact_mod_cast hless)

theorem two_pow_le (h : Rounds q n e) : e = -1074 ∨ 2 ^ 52 ≤ n := by
  refine h.full.imp_right fun hfull => ?_
  have hquotient : (2 : ℚ) ^ 52 ≤ q / 2 ^ e := by
    rw [le_div_iff₀ (two_zpow_pos e), ← zpow_natCast, ← zpow_add₀ two_ne_zero, add_comm]
    exact hfull
  have hless : (2 ^ 52 : ℚ) < n + 1 := by
    have hnear := (abs_le.1 h.whole.near).1
    linarith
  exact Nat.lt_succ_iff.1 (by exact_mod_cast hless)

theorem abs_sub_eq (n : Int) (q : ℚ) (e : Int) : |n * 2 ^ e - q| = |n - q / 2 ^ e| * 2 ^ e := by
  rw [← abs_of_pos (two_zpow_pos e), ← abs_mul, abs_of_pos (two_zpow_pos e), sub_mul,
    div_mul_cancel₀ _ (two_zpow_pos e).ne']

/-- **No number of the format is nearer**, and none is as near unless the multiple is even. -/
theorem nearest (h : Rounds q n e) (hr : Representable r) :
    |n * 2 ^ e - q| ≤ |r - q| ∧ (r ≠ n * 2 ^ e → |r - q| = |n * 2 ^ e - q| → Even n) := by
  have hmultiple : ∀ b : Int, |n * 2 ^ e - q| ≤ |b * 2 ^ e - q| ∧ (b ≠ n →
      |b * 2 ^ e - q| = |n * 2 ^ e - q| → Even n) := by
    intro b
    obtain ⟨hle, htie⟩ := abs_sub_le_of_half (n := (n : Int)) (by exact_mod_cast h.whole.near) b
    have hn := abs_sub_eq n q e
    have hb := abs_sub_eq b q e
    rw [Int.cast_natCast] at hn hle htie
    rw [hn, hb]
    refine ⟨mul_le_mul_of_nonneg_right hle (two_zpow_pos e).le, fun hne hsame => ?_⟩
    exact h.whole.even (htie hne (mul_right_cancel₀ (two_zpow_pos e).ne' hsame))
  rcases hr.multiple_or_small e with ⟨b, rfl⟩ | ⟨hplace, hsmall⟩
  · obtain ⟨hle, htie⟩ := hmultiple b
    refine ⟨hle, fun hne => htie fun hb => hne ?_⟩
    rw [hb, Int.cast_natCast]
  · have hfull : (2 : ℚ) ^ (e + 52) ≤ q := h.full.resolve_left (by omega)
    have hpower : ((2 ^ 52 : Int) : ℚ) * 2 ^ e = 2 ^ (e + 52) := by
      rw [zpow_add₀ two_ne_zero, mul_comm]
      norm_num
    have hless : |(2 : ℚ) ^ (e + 52) - q| < |r - q| := by
      have hrless := (abs_lt.1 hsmall).2
      rw [abs_of_nonpos (by linarith), abs_of_neg (by linarith)]
      linarith
    have hle := (hmultiple (2 ^ 52)).1
    rw [hpower] at hle
    exact ⟨by linarith, fun _ hsame => by linarith⟩

end Rounds

/-- The largest number of the format and half of its last place: what lies below is rounded to a
finite number. -/
def limit : ℚ := (2 ^ 53 - 1 / 2) * 2 ^ (971 : Int)

theorem two_zpow_lt_limit (hk : k ≤ 1023) : 2 ^ k < limit :=
  calc (2 : ℚ) ^ k ≤ 2 ^ (1023 : Int) := zpow_le_zpow_right₀ one_le_two hk
    _ = 2 ^ 52 * 2 ^ (971 : Int) := by rw [← zpow_natCast, ← zpow_add₀ two_ne_zero]; norm_num
    _ < limit := mul_lt_mul_of_pos_right (by norm_num) (two_zpow_pos _)

theorem lt_limit_of_lt_one (h : q < 1) : q < limit :=
  h.trans (two_zpow_lt_limit (k := 0) (by norm_num))

/-- A rounded multiple as a number of the format: a carry goes to the next place. -/
def packed (negative : Bool) (n : Nat) (e : Int) : Binary64 :=
  let (m, e) := if n = Nat.pow 2 53 then (Nat.pow 2 52, e + 1) else (n, e)
  if 971 < e then .infinite negative else .finite negative m e

theorem ofRatio_eq_packed (negative : Bool) (num : Nat) (hden : 0 < den) :
    ∃ n e, Rounds (num / den) n e ∧ ofRatio negative num den = packed negative n e := by
  rcases Nat.eq_zero_or_pos num with rfl | hnum
  · refine ⟨0, -1074, ⟨le_rfl, ?_, Or.inl rfl, ?_, fun _ => Even.zero⟩, rfl⟩
    · simp
    · simp
  · exact ⟨_, _, rounds_scaled hnum hden, if_neg hnum.ne'⟩

namespace Rounds

variable {n : Nat} {e : Int}

theorem le_quotient (h : Rounds q n e) : (n - 1 / 2) * 2 ^ e ≤ q := by
  have hnear := (abs_le.1 h.whole.near).2
  rw [← le_div_iff₀ (two_zpow_pos e)]
  linarith

theorem limit_le_of_place (h : Rounds q n e) (he : 971 < e) : limit ≤ q := by
  have hfull := h.full.resolve_left (by omega)
  calc limit ≤ 2 ^ 53 * 2 ^ (971 : Int) := by
        exact mul_le_mul_of_nonneg_right (by norm_num) (two_zpow_pos _).le
    _ = 2 ^ (1024 : Int) := by rw [← zpow_natCast, ← zpow_add₀ two_ne_zero]; norm_num
    _ ≤ 2 ^ (e + 52) := zpow_le_zpow_right₀ one_le_two (by omega)
    _ ≤ q := hfull

/-- Below the limit the multiple is a number of the format. -/
theorem exists_packed (h : Rounds q n e) (hq : q < limit) (negative : Bool) :
    ∃ m e', packed negative n e = .finite negative m e' ∧
      IsProper (packed negative n e) ∧ (m : ℚ) * 2 ^ e' = n * 2 ^ e ∧ (Even n → Even m) := by
  have hplace : e ≤ 971 := by
    by_contra hhigh
    exact absurd (h.limit_le_of_place (by omega)) (not_le.2 hq)
  unfold packed
  by_cases hcarry : n = Nat.pow 2 53
  · have hbelow : e ≤ 970 := by
      by_contra hhigh
      obtain rfl : e = 971 := by omega
      refine absurd h.le_quotient (not_le.2 (hq.trans_le (le_of_eq ?_)))
      rw [hcarry, limit]
      norm_num
    rw [if_pos hcarry]
    dsimp only
    rw [if_neg (by omega)]
    refine ⟨_, _, rfl, .mk (by decide) (by have := h.low; omega) (by omega) (Or.inr le_rfl), ?_,
      fun _ => by decide⟩
    rw [hcarry, zpow_add_one₀ two_ne_zero]
    norm_num
    ring
  · rw [if_neg hcarry]
    dsimp only
    rw [if_neg (by omega)]
    exact ⟨_, _, rfl, .mk (lt_of_le_of_ne h.le_two_pow hcarry) h.low hplace h.two_pow_le, rfl, id⟩

/-- From the limit on there is only an infinity. -/
theorem packed_of_limit_le (h : Rounds q n e) (hq : limit ≤ q) (negative : Bool) :
    packed negative n e = .infinite negative := by
  have hplace : 971 ≤ e := by
    by_contra hlow
    exact absurd (h.below.trans (two_zpow_lt_limit (by omega))) (not_lt.2 hq)
  have hcarry : e = 971 → n = Nat.pow 2 53 := by
    rintro rfl
    refine Nat.le_antisymm h.le_two_pow (not_lt.1 fun hless => ?_)
    have hquotient : (2 ^ 53 - 1 / 2 : ℚ) ≤ q / 2 ^ (971 : Int) := by
      rwa [le_div_iff₀ (two_zpow_pos _)]
    have hmost : (n : ℚ) ≤ 2 ^ 53 - 1 := by
      have hsucc : ((n + 1 : Nat) : ℚ) ≤ (2 ^ 53 : Nat) := by exact_mod_cast hless
      push_cast at hsucc
      linarith
    have hnear := h.whole.near
    rw [abs_of_nonpos (by linarith)] at hnear
    -- so it is a tie, which an odd mantissa does not win
    have hn : (n : ℚ) = (2 ^ 53 - 1 : Nat) := by
      push_cast
      linarith
    obtain rfl : n = 2 ^ 53 - 1 := by exact_mod_cast hn
    refine absurd (h.whole.even ?_) (by decide)
    rw [abs_of_nonpos (by linarith)]
    linarith
  unfold packed
  split_ifs with hn
  · exact if_pos (by omega)
  · refine if_pos (lt_of_le_of_ne hplace fun he => hn (hcarry he.symm))

end Rounds

/-! ## The nearest number -/

/-- `x` is the number of the format that is nearest to `q`, and if another one is as near, the one
with the even mantissa. -/
structure IsNearest (q : ℚ) (x : Binary64) : Prop where
  proper : x.IsProper
  nearest : ∀ r, Representable r → |x.value - q| ≤ |r - q|
  even : ∀ r, Representable r → r ≠ x.value → |r - q| = |x.value - q| → Even x.mantissa

theorem abs_sub_sign (negative : Bool) (a b : ℚ) :
    |a - sign negative * b| = |sign negative * a - b| := by
  cases negative
  · simp [sign]
  · rw [← abs_neg]
    simp [sign, sub_eq_add_neg, add_comm]

theorem sign_mul_sign (negative : Bool) (a : ℚ) : sign negative * (sign negative * a) = a := by
  cases negative <;> simp [sign]

theorem Representable.sign (h : Representable r) (negative : Bool) :
    Representable (sign negative * r) := by
  cases negative
  · simpa [Binary64.sign] using h
  · simpa [Binary64.sign] using h.neg

/-- **A quotient is rounded to the nearest number of the format**, if it is below the limit. -/
theorem isNearest_ofRatio (negative : Bool) (hden : 0 < den) (h : (num : ℚ) / den < limit) :
    IsNearest (sign negative * (num / den)) (ofRatio negative num den) := by
  obtain ⟨n, e, hrounds, heq⟩ := ofRatio_eq_packed negative num hden
  obtain ⟨m, e', hpacked, hproper, hsame, heven⟩ := hrounds.exists_packed h negative
  rw [heq]
  refine ⟨hproper, fun r hr => ?_, fun r hr hne htie => ?_⟩
  · rw [hpacked, value, hsame, abs_sub_sign, abs_sub_sign, sign_mul_sign]
    exact (hrounds.nearest (hr.sign negative)).1
  · rw [hpacked, value, hsame] at hne htie
    rw [hpacked]
    rw [abs_sub_sign, abs_sub_sign, sign_mul_sign] at htie
    refine heven ((hrounds.nearest (hr.sign negative)).2 (fun hr' => hne ?_) htie)
    rw [← hr', sign_mul_sign]

theorem ofRatio_of_limit_le (negative : Bool) (hden : 0 < den) (h : limit ≤ (num : ℚ) / den) :
    ofRatio negative num den = .infinite negative := by
  obtain ⟨n, e, hrounds, heq⟩ := ofRatio_eq_packed negative num hden
  rw [heq, hrounds.packed_of_limit_le h negative]

theorem ofRatio_cases (negative : Bool) (num : Nat) (hden : 0 < den) :
    (ofRatio negative num den).IsProper ∨ ofRatio negative num den = .infinite negative := by
  rcases lt_or_ge ((num : ℚ) / den) limit with hless | hle
  · exact Or.inl (isNearest_ofRatio negative hden hless).proper
  · exact Or.inr (ofRatio_of_limit_le negative hden hle)

namespace IsNearest

/-- What the format has is kept. -/
theorem value_eq (h : IsNearest q x) (hq : Representable q) : x.value = q := by
  have hle := h.nearest q hq
  rwa [sub_self, abs_zero, abs_nonpos_iff, sub_eq_zero] at hle

/-- Rounding goes past no number of the format. -/
theorem le_value (h : IsNearest q x) (hr : Representable r) (hrq : r ≤ q) : r ≤ x.value := by
  by_contra hless
  have hle := h.nearest r hr
  rw [abs_of_nonpos (by linarith), abs_of_nonpos (by linarith)] at hle
  linarith

theorem value_le (h : IsNearest q x) (hr : Representable r) (hqr : q ≤ r) : x.value ≤ r := by
  by_contra hless
  have hle := h.nearest r hr
  rw [abs_of_nonneg (by linarith), abs_of_nonneg (by linarith)] at hle
  linarith

/-- **The error** is at most half of the last place. -/
theorem abs_sub_le (h : IsNearest q x) (hlow : -1074 ≤ k) (hhigh : k ≤ 970)
    (hq : |q| ≤ 2 ^ (k + 53)) : |x.value - q| ≤ 2 ^ k / 2 := by
  have hround : |(round (q / 2 ^ k) : ℚ) - q / 2 ^ k| ≤ 1 / 2 := by
    rw [abs_sub_comm]
    exact abs_sub_round _
  have hbound : |round (q / 2 ^ k)| ≤ 2 ^ 53 := by
    have hquotient : |q / 2 ^ k| ≤ 2 ^ 53 := by
      rw [abs_div, abs_of_pos (two_zpow_pos k), div_le_iff₀ (two_zpow_pos k), ← zpow_natCast,
        ← zpow_add₀ two_ne_zero, add_comm]
      exact hq
    have hless : |(round (q / 2 ^ k) : ℚ)| < 2 ^ 53 + 1 := by
      rw [abs_lt]
      rw [abs_le] at hround hquotient
      constructor <;> linarith
    exact Int.lt_add_one_iff.1 (by exact_mod_cast hless)
  calc |x.value - q| ≤ |round (q / 2 ^ k) * 2 ^ k - q| :=
        h.nearest _ (representable_multiple hbound hlow hhigh)
    _ = |round (q / 2 ^ k) - q / 2 ^ k| * 2 ^ k := Rounds.abs_sub_eq _ _ _
    _ ≤ 1 / 2 * 2 ^ k := mul_le_mul_of_nonneg_right hround (two_zpow_pos k).le
    _ = 2 ^ k / 2 := by ring

/-- A number that is less than half of the last place below a multiple of it is rounded to no less
than the multiple. -/
theorem le_value_of_half {n : Int} (h : IsNearest q x) (hlow : -1074 ≤ k) (hhigh : k ≤ 970)
    (hn : 2 ^ 52 < n) (hn' : n ≤ 2 ^ 53) (hq : n * 2 ^ k - 2 ^ k / 2 < q) :
    n * 2 ^ k ≤ x.value := by
  have hr : Representable (n * 2 ^ k) :=
    representable_multiple (abs_le.2 ⟨by omega, hn'⟩) hlow hhigh
  have hpower := two_zpow_pos k
  by_contra hless
  have hqless : q < n * 2 ^ k := not_le.1 fun hle => hless (h.le_value hr hle)
  have hbefore : x.value ≤ (n - 1) * 2 ^ k := by
    rcases h.proper.representable.multiple_or_small k with ⟨b, hb⟩ | ⟨-, hsmall⟩
    · rw [hb] at hless ⊢
      have hbn : b < n := by
        exact_mod_cast lt_of_mul_lt_mul_right (not_le.1 hless) hpower.le
      have hbn' : (b : ℚ) ≤ n - 1 := by exact_mod_cast Int.le_sub_one_of_lt hbn
      exact mul_le_mul_of_nonneg_right hbn' hpower.le
    · have hn'' : (2 : ℚ) ^ 52 ≤ n - 1 := by exact_mod_cast Int.le_sub_one_of_lt hn
      calc x.value ≤ 2 ^ (k + 52) := (lt_of_abs_lt hsmall).le
        _ = 2 ^ 52 * 2 ^ k := by rw [zpow_add₀ two_ne_zero, mul_comm]; norm_num
        _ ≤ (n - 1) * 2 ^ k := mul_le_mul_of_nonneg_right hn'' hpower.le
  have hle := h.nearest _ hr
  rw [abs_of_nonneg (by linarith : (0 : ℚ) ≤ n * 2 ^ k - q), abs_of_nonpos (by linarith)] at hle
  linarith

end IsNearest

/-! ## The operations -/

theorem magnitude_spec (m : Nat) (e : Int) : 0 < (magnitude m e).2 ∧
    ((magnitude m e).1 : ℚ) / (magnitude m e).2 = m * 2 ^ e := by
  unfold magnitude
  split_ifs with hsign
  · refine ⟨Nat.one_pos, ?_⟩
    rw [Nat.cast_mul, two_zpow_of_nonneg hsign, Nat.cast_one, div_one]
  · refine ⟨Nat.two_pow_pos _, ?_⟩
    rw [two_zpow_of_neg (not_le.1 hsign), div_inv_eq_mul]

theorem sign_mul_natAbs (n : Int) : sign (decide (n < 0)) * n.natAbs = n := by
  rw [Nat.cast_natAbs, Int.cast_abs, sign]
  by_cases hn : n < 0
  · have hn' : (n : ℚ) < 0 := by exact_mod_cast hn
    simp [hn, abs_of_neg hn']
  · have hn' : (0 : ℚ) ≤ n := by exact_mod_cast not_lt.1 hn
    simp [hn, abs_of_nonneg hn']

/-- Quotients of whole numbers are rounded once. -/
theorem isNearest_ofQuotient {n : Int} (hden : 0 < den) (h : |(n : ℚ)| / den < limit) :
    IsNearest (n / den) (ofQuotient n den) := by
  rw [← Int.cast_abs, ← Nat.cast_natAbs] at h
  have hnearest := isNearest_ofRatio (decide (n < 0)) hden h
  rwa [← mul_div_assoc, sign_mul_natAbs] at hnearest

theorem ofQuotient_of_limit_le {n : Int} (hden : 0 < den) (h : limit ≤ |(n : ℚ)| / den) :
    ofQuotient n den = .infinite (decide (n < 0)) := by
  rw [← Int.cast_abs, ← Nat.cast_natAbs] at h
  exact ofRatio_of_limit_le _ hden h

section Quotients

variable {n : Int}

theorem isNearest_ofQuotient_of_le (hden : 0 < den) (hhigh : k ≤ 970)
    (h : |(n : ℚ)| / den ≤ 2 ^ (k + 53)) : IsNearest (n / den) (ofQuotient n den) :=
  isNearest_ofQuotient hden (h.trans_lt (two_zpow_lt_limit (by omega)))

theorem abs_value_ofQuotient_sub_le (hden : 0 < den) (hlow : -1074 ≤ k) (hhigh : k ≤ 970)
    (h : |(n : ℚ)| / den ≤ 2 ^ (k + 53)) : |(ofQuotient n den).value - n / den| ≤ 2 ^ k / 2 := by
  refine (isNearest_ofQuotient_of_le hden hhigh h).abs_sub_le hlow hhigh ?_
  rwa [abs_div, Nat.abs_cast]

theorem representable_int (h : |n| ≤ 2 ^ 53) : Representable n := by
  simpa using representable_multiple (k := 0) h (by norm_num) (by norm_num)

/-- Whole numbers of 53 digits are kept. -/
theorem ofInt_spec (h : |n| ≤ 2 ^ 53) : (ofInt n).IsProper ∧ (ofInt n).value = n := by
  have hn : |(n : ℚ)| / (1 : Nat) ≤ 2 ^ (0 + 53 : Int) := by
    rw [Nat.cast_one, div_one]
    exact_mod_cast h
  have hnearest := isNearest_ofQuotient_of_le Nat.one_pos (by norm_num) hn
  rw [Nat.cast_one, div_one] at hnearest
  exact ⟨hnearest.proper, hnearest.value_eq (representable_int h)⟩

end Quotients

theorem abs_sign (negative : Bool) : |sign negative| = 1 := by
  cases negative <;> simp [sign]

theorem sign_bne (s s' : Bool) : sign (s != s') = sign s * sign s' := by
  cases s <;> cases s' <;> simp [sign]

theorem natAbs_signed (negative : Bool) (a : Nat) :
    (if negative then -(a : Int) else a).natAbs = a := by
  cases negative <;> simp

/-- Products are rounded once. -/
theorem isNearest_mul (hx : x.IsProper) (hy : y.IsProper) (h : |x.value * y.value| < limit) :
    IsNearest (x.value * y.value) (x.mul y) := by
  obtain @⟨s, m, e, -, -, -, -⟩ := hx
  obtain @⟨s', m', e', -, -, -, -⟩ := hy
  obtain ⟨hb, hab⟩ := magnitude_spec m e
  obtain ⟨hd, hcd⟩ := magnitude_spec m' e'
  have hmul : (finite s m e).mul (finite s' m' e') = ofRatio (s != s')
      ((magnitude m e).1 * (magnitude m' e').1) ((magnitude m e).2 * (magnitude m' e').2) := by
    simp only [mul, toRatio?, isNegative, Int.natAbs_mul, natAbs_signed]
  have hproduct : (((magnitude m e).1 * (magnitude m' e').1 : Nat) : ℚ) /
      ((magnitude m e).2 * (magnitude m' e').2 : Nat) = m * 2 ^ e * (m' * 2 ^ e') := by
    rw [← hab, ← hcd, Nat.cast_mul, Nat.cast_mul, mul_div_mul_comm]
  have hvalue : (finite s m e).value * (finite s' m' e').value =
      sign (s != s') * (m * 2 ^ e * (m' * 2 ^ e')) := by
    rw [value, value, sign_bne]
    ring
  rw [hmul, hvalue, ← hproduct]
  refine isNearest_ofRatio _ (Nat.mul_pos hb hd) ?_
  rw [hvalue, abs_mul, abs_sign, one_mul, ← hproduct, abs_of_nonneg (by positivity)] at h
  exact h

/-- A number of the format as a quotient, and what is right of its point. -/
theorem IsProper.exists_quotient (hx : x.IsProper) : ∃ a b : Nat, 0 < b ∧
    x.toRatio? = some (if x.isNegative then -(a : Int) else a, b) ∧
    x.value = sign x.isNegative * (a / b) ∧ Representable ((a % b : Nat) / b) := by
  obtain @⟨s, m, e, hm, hlow, hhigh, -⟩ := hx
  obtain ⟨hb, hab⟩ := magnitude_spec m e
  refine ⟨(magnitude m e).1, (magnitude m e).2, hb, rfl, by rw [hab]; rfl, ?_⟩
  unfold magnitude
  split_ifs with hsign
  · rw [Nat.mod_one]
    exact ⟨0, 0, by norm_num, by norm_num, by norm_num, by simp⟩
  · refine ⟨(m % Nat.pow 2 (-e).toNat : Nat), e, ?_, hlow, hhigh, ?_⟩
    · rw [Nat.abs_cast]
      exact_mod_cast (Nat.mod_le _ _).trans_lt hm
    · rw [two_zpow_of_neg (not_le.1 hsign), div_inv_eq_mul, Int.cast_natCast]

theorem cast_signed (negative : Bool) (a : Nat) :
    ((if negative then -(a : Int) else a : Int) : ℚ) = sign negative * a := by
  cases negative <;> simp [sign]

/-- The parts of a number left and right of the point: nothing is lost. -/
theorem truncate?_spec (hx : x.IsProper) : ∃ w : Int, x.truncate? = some w ∧
    x.fraction.IsProper ∧ x.fraction.value = x.value - w ∧ |x.value - w| < 1 ∧
    (0 ≤ x.value → (w : ℚ) ≤ x.value) := by
  obtain ⟨a, b, hb, hratio, hvalue, hrest⟩ := hx.exists_quotient
  obtain ⟨hparts, hbelow⟩ := div_eq_div_add_mod a hb
  have habove : (0 : ℚ) ≤ (a % b : Nat) / b := by positivity
  have htruncate : x.truncate? =
      some (if x.isNegative then -((a / b : Nat) : Int) else (a / b : Nat)) := by
    rw [truncate?, hratio]
    cases x.isNegative <;> simp [Int.neg_tdiv]
  have hfraction : x.fraction = ofRatio x.isNegative (a % b) b := by
    rw [fraction, hratio]
    dsimp only
    rw [natAbs_signed]
  have hnearest := isNearest_ofRatio x.isNegative hb (lt_limit_of_lt_one hbelow)
  have hright : x.value -
      ((if x.isNegative then -((a / b : Nat) : Int) else (a / b : Nat) : Int) : ℚ) =
        sign x.isNegative * ((a % b : Nat) / b) := by
    rw [hvalue, cast_signed, hparts]
    ring
  refine ⟨_, htruncate, hfraction ▸ hnearest.proper, ?_, ?_, fun hpos => ?_⟩
  · rw [hfraction, hnearest.value_eq (hrest.sign _), hright]
  · rw [hright, abs_mul, abs_sign, one_mul, abs_of_nonneg habove]
    exact hbelow
  · rw [← sub_nonneg, hright]
    rw [hvalue, hparts] at hpos
    cases hs : x.isNegative with
    | false =>
      rw [sign, if_neg nofun, one_mul]
      exact habove
    | true =>
      rw [hs, sign, if_pos rfl] at hpos
      rw [sign, if_pos rfl]
      have hwhole : (0 : ℚ) ≤ (a / b : Nat) := Nat.cast_nonneg _
      linarith

theorem truncate?_eq {n : Int} (hx : x.IsProper) (hn : 0 ≤ n) (hlow : n ≤ x.value)
    (hhigh : x.value < n + 1) : x.truncate? = some n := by
  obtain ⟨w, hw, -, -, hless, hdown⟩ := truncate?_spec hx
  have hn' : (0 : ℚ) ≤ n := by exact_mod_cast hn
  have hle := hdown (hn'.trans hlow)
  have hwn : (w : ℚ) < n + 1 := hle.trans_lt hhigh
  have hnw : (n : ℚ) < w + 1 := by
    have hright := (abs_lt.1 hless).2
    linarith
  rw [hw, Option.some.injEq]
  exact le_antisymm (Int.lt_add_one_iff.1 (by exact_mod_cast hwn))
    (Int.lt_add_one_iff.1 (by exact_mod_cast hnw))

/-- The whole number next to a number. -/
theorem round?_spec (hx : x.IsProper) :
    ∃ n : Int, x.round? = some n ∧ |(n : ℚ) - x.value| ≤ 1 / 2 := by
  obtain ⟨a, b, hb, hratio, hvalue, -⟩ := hx.exists_quotient
  have hhalf := (isNearestWhole_roundHalfEven a hb).near
  rw [round?, hratio, hvalue]
  refine ⟨_, rfl, ?_⟩
  dsimp only
  rw [natAbs_signed]
  cases hs : x.isNegative with
  | false =>
    have hpos : ¬ (a : Int) < 0 := by omega
    simpa [hpos, sign] using hhalf
  | true =>
    rw [if_pos rfl, sign, if_pos rfl, neg_one_mul]
    split_ifs with hneg
    · rw [Int.cast_neg, Int.cast_natCast, neg_sub_neg, abs_sub_comm]
      exact hhalf
    · -- a negative zero
      obtain rfl : a = 0 := by omega
      simpa using hhalf

end Binary64

end TransferBucket
