import Mathlib.Algebra.Group.Nat.Defs
import Mathlib.Data.List.Basic
import Mathlib.Data.List.TakeWhile
import Mathlib.Tactic.SplitIfs
import TransferBucket.Number.Literal

/-!
# The grammar of whole numbers

**Theorem (`wholeNumber_eq_ok_iff`).** A text makes a whole number exactly if it is written as that
number (`Literal.WritesWhole`): blanks, perhaps a sign, digits of any script with single
underscores between them, blanks; and the digits are not too many.

**Digits** (`Literal.WritesDigits`). No digit is a blank, a sign or an underscore. So what is taken
away at both ends are the blanks and nothing else (`Literal.trim_append`), and a sign is told from
the digits behind it.

**Size** (`Literal.WritesWhole.natAbs_lt`). A number with so many digits is below that power of ten.
-/

namespace TransferBucket

/-- Characters of a kind are taken off the front of a text, up to one that is not of the kind. -/
theorem span_append {p : Char → Bool} {cs rest : List Char} (hcs : ∀ c ∈ cs, p c)
    (hrest : ∀ c ∈ rest.head?, p c = false) :
    (cs ++ rest).takeWhile p = cs ∧ (cs ++ rest).dropWhile p = rest := by
  rw [List.takeWhile_append_of_pos hcs, List.dropWhile_append_of_pos hcs]
  cases rest with
  | nil => exact ⟨List.append_nil cs, rfl⟩
  | cons c rest => simp [hrest c rfl]

theorem ofDigits_lt {ds : List Nat} (h : ∀ d ∈ ds, d < 10) : ofDigits 10 ds < 10 ^ ds.length := by
  suffices hfold : ∀ m, ds.foldl (fun n d => n * 10 + d) m < (m + 1) * 10 ^ ds.length by
    simpa [ofDigits] using hfold 0
  induction ds with
  | nil => exact fun m => by simp
  | cons d ds ih =>
    intro m
    rw [List.forall_mem_cons] at h
    calc (d :: ds).foldl (fun n d => n * 10 + d) m < (m * 10 + d + 1) * 10 ^ ds.length :=
        ih h.2 _
      _ ≤ ((m + 1) * 10) * 10 ^ ds.length := Nat.mul_le_mul_right _ (by omega)
      _ = (m + 1) * 10 ^ (d :: ds).length := by
        rw [Nat.mul_assoc, List.length_cons, Nat.pow_succ, Nat.mul_comm 10]

theorem log2_lt_or_lt_iff {n k : Nat} :
    Nat.log2 n < 3 * k ∨ n < Nat.pow 10 k ↔ n < 10 ^ k := by
  refine ⟨fun h => h.elim (fun h => ?_) id, Or.inr⟩
  calc n < 2 ^ (Nat.log2 n + 1) := Nat.lt_log2_self
    _ ≤ 2 ^ (3 * k) := Nat.pow_le_pow_right (by decide) h
    _ = 8 ^ k := Nat.pow_mul 2 3 k
    _ ≤ 10 ^ k := Nat.pow_le_pow_left (by decide) k

theorem isWritable_iff {n : Int} : isWritable n ↔ n.natAbs < 10 ^ digitLimit := by
  rw [isWritable, Bool.or_eq_true, decide_eq_true_eq, decide_eq_true_eq]
  exact log2_lt_or_lt_iff

namespace Literal

/-! ## Signs -/

/-- A sign, and whether it is a minus. -/
inductive WritesSign : List Char → Bool → Prop
  | none : WritesSign [] false
  | plus : WritesSign ['+'] false
  | minus : WritesSign ['-'] true

/-- A number with a sign. -/
def signed (negative : Bool) (n : Nat) : Int := if negative then -(n : Int) else n

theorem natAbs_signed (negative : Bool) (n : Nat) : (signed negative n).natAbs = n := by
  cases negative
  · exact Int.natAbs_natCast n
  · exact (Int.natAbs_neg n).trans (Int.natAbs_natCast n)

/-- A sign is told from what is no sign. -/
theorem WritesSign.sign_append {cs ds : List Char} {negative : Bool} (h : WritesSign cs negative)
    (hds : ∀ d ∈ ds.head?, d ≠ '-' ∧ d ≠ '+') : sign (cs ++ ds) = (negative, ds) := by
  cases h with
  | none =>
    rw [List.nil_append, sign.eq_def]
    split
    · exact absurd rfl (hds '-' rfl).1
    · exact absurd rfl (hds '+' rfl).2
    · rfl
  | plus => rfl
  | minus => rfl

theorem exists_sign (cs : List Char) :
    ∃ s, cs = s ++ (sign cs).2 ∧ WritesSign s (sign cs).1 := by
  rw [sign.eq_def]
  split
  · exact ⟨_, rfl, .minus⟩
  · exact ⟨_, rfl, .plus⟩
  · exact ⟨[], rfl, .none⟩

/-! ## Digits -/

/-- Digits of any script, with single underscores between them, and their values. -/
inductive WritesDigits : List Char → List Nat → Prop
  | single {c : Char} {d : Nat} (h : decimalDigit? c = some d) : WritesDigits [c] [d]
  | next {c : Char} {d : Nat} {cs : List Char} {ds : List Nat} (h : decimalDigit? c = some d)
    (hs : WritesDigits cs ds) : WritesDigits (c :: cs) (d :: ds)
  | under {c : Char} {d : Nat} {cs : List Char} {ds : List Nat} (h : decimalDigit? c = some d)
    (hs : WritesDigits cs ds) : WritesDigits (c :: '_' :: cs) (d :: ds)

theorem foreignZeros_apart : ∀ z ∈ foreignZeros, 0x660 ≤ z ∧
    (z + 10 ≤ 0x1680 ∨ 0x1680 < z) ∧ (z + 10 ≤ 0x2000 ∨ 0x3000 < z) := by decide

section Digits

variable {c : Char} {d : Nat}

/-- A digit is one of the plain ones, or one of another script. -/
theorem decimalDigit?_eq_some (h : decimalDigit? c = some d) :
    0x30 ≤ c.toNat ∧ c.toNat ≤ 0x39 ∧ d = c.toNat - 0x30 ∨
      ∃ z ∈ foreignZeros, 127 ≤ c.toNat ∧ z ≤ c.toNat ∧ c.toNat < z + 10 ∧ d = c.toNat - z := by
  unfold decimalDigit? at h
  dsimp only at h
  split_ifs at h with hlow hdigit
  · exact .inl ⟨hdigit.1, hdigit.2, (Option.some.inj h).symm⟩
  · obtain ⟨z, hz, rfl⟩ := Option.map_eq_some_iff.1 h
    have hmem := List.mem_of_find?_eq_some hz
    have hrange := List.find?_some hz
    simp only [Bool.and_eq_true, decide_eq_true_eq] at hrange
    exact .inr ⟨z, hmem, Nat.le_of_not_lt hlow, hrange.1, hrange.2, rfl⟩

theorem lt_ten_of_decimalDigit? (h : decimalDigit? c = some d) : d < 10 := by
  rcases decimalDigit?_eq_some h with ⟨-, hhigh, rfl⟩ | ⟨z, -, -, hlow, hhigh, rfl⟩ <;> omega

theorem isNumberBlank_of_decimalDigit? (h : decimalDigit? c = some d) :
    isNumberBlank c = false := by
  rcases decimalDigit?_eq_some h with ⟨hlow, hhigh, -⟩ | ⟨z, hz, hforeign, hlow, hhigh, -⟩
  · have hspace : c ≠ ' ' := by
      rintro rfl
      exact absurd hlow (by decide)
    have hbreak : ¬ c.toNat ≤ 0x0d := by omega
    rw [isNumberBlank, if_pos (by omega)]
    simp [hspace, hbreak]
  · have hapart := foreignZeros_apart z hz
    rw [isNumberBlank, if_neg (by omega), isBlank, Bool.eq_false_iff]
    simp only [ne_eq, Bool.or_eq_true, Bool.and_eq_true, decide_eq_true_eq, beq_iff_eq]
    omega

theorem ne_of_decimalDigit? {c' : Char} (h : decimalDigit? c = some d)
    (hc' : decimalDigit? c' = none) : c ≠ c' := by
  rintro rfl
  rw [hc'] at h
  cases h

end Digits

namespace WritesDigits

variable {cs : List Char} {ds : List Nat}

theorem ends (h : WritesDigits cs ds) :
    (∀ c ∈ cs.head?, (decimalDigit? c).isSome) ∧ ∀ c ∈ cs.getLast?, (decimalDigit? c).isSome := by
  have hone : ∀ {c d}, decimalDigit? c = some d → ∀ c' ∈ some c, (decimalDigit? c').isSome := by
    rintro c d h _ ⟨⟩
    rw [h]
    rfl
  induction h with
  | single h => exact ⟨hone h, hone h⟩
  | @next c d cs ds h hs ih =>
    obtain ⟨x, xs, rfl⟩ : ∃ x xs, cs = x :: xs := by cases hs <;> exact ⟨_, _, rfl⟩
    exact ⟨hone h, ih.2⟩
  | @under c d cs ds h hs ih =>
    obtain ⟨x, xs, rfl⟩ : ∃ x xs, cs = x :: xs := by cases hs <;> exact ⟨_, _, rfl⟩
    exact ⟨hone h, ih.2⟩

theorem lt_ten (h : WritesDigits cs ds) : ∀ d ∈ ds, d < 10 := by
  induction h with
  | single h => exact List.forall_mem_cons.2 ⟨lt_ten_of_decimalDigit? h, nofun⟩
  | next h _ ih => exact List.forall_mem_cons.2 ⟨lt_ten_of_decimalDigit? h, ih⟩
  | under h _ ih => exact List.forall_mem_cons.2 ⟨lt_ten_of_decimalDigit? h, ih⟩

end WritesDigits

/-- Digits are read from what the grammar calls digits. Behind a digit the text may also end, or go
on with an underscore. -/
theorem digitsBetween_eq_some_iff (cs : List Char) : ∀ ds : List Nat,
    (digitsBetween decimalDigit? false cs = some ds ↔ WritesDigits cs ds) ∧
    (digitsBetween decimalDigit? true cs = some ds ↔
      cs = [] ∧ ds = [] ∨ WritesDigits cs ds ∨
        ∃ rest, cs = '_' :: rest ∧ WritesDigits rest ds) := by
  induction cs with
  | nil =>
    refine fun ds => ⟨iff_of_false nofun nofun, ?_⟩
    simp only [digitsBetween, if_true, Option.some.injEq, true_and]
    refine ⟨fun h => .inl h.symm, ?_⟩
    rintro (rfl | h | ⟨rest, h, -⟩)
    · rfl
    · cases h
    · cases h
  | cons c cs ih =>
    intro ds
    by_cases hunder : c = '_'
    · subst hunder
      have hno : ∀ ds, ¬ WritesDigits ('_' :: cs) ds := fun ds h => by
        have hdigit := h.ends.1 '_' rfl
        revert hdigit
        decide
      refine ⟨iff_of_false nofun (hno ds), ?_⟩
      simp only [digitsBetween, if_true, (ih ds).1, hno ds, reduceCtorEq, false_and, false_or,
        List.cons.injEq, true_and, exists_eq_left']
    · have hplain : WritesDigits (c :: cs) ds ↔ ∃ d ds', decimalDigit? c = some d ∧
          digitsBetween decimalDigit? true cs = some ds' ∧ ds = d :: ds' := by
        constructor
        · rintro (h | ⟨h, hs⟩ | ⟨h, hs⟩)
          · exact ⟨_, [], h, rfl, rfl⟩
          · exact ⟨_, _, h, (ih _).2.2 (.inr (.inl hs)), rfl⟩
          · exact ⟨_, _, h, (ih _).2.2 (.inr (.inr ⟨_, rfl, hs⟩)), rfl⟩
        · rintro ⟨d, ds', h, hs, rfl⟩
          rcases (ih ds').2.1 hs with ⟨rfl, rfl⟩ | hmore | ⟨rest, rfl, hmore⟩
          · exact .single h
          · exact .next h hmore
          · exact .under h hmore
      have hread : ∀ b, digitsBetween decimalDigit? b (c :: cs) = some ds ↔
          ∃ d ds', decimalDigit? c = some d ∧
            digitsBetween decimalDigit? true cs = some ds' ∧ ds = d :: ds' := by
        intro b
        rw [digitsBetween, if_neg hunder]
        rcases decimalDigit? c with _ | d
        · simp
        · simp [Option.map_eq_some_iff, @eq_comm _ ds]
      rw [hread, hread, hplain]
      simp [hunder]

/-! ## Blanks at both ends -/

/-- Blanks only, as numbers have them around. -/
def IsPadding (cs : List Char) : Prop := ∀ c ∈ cs, isNumberBlank c

/-- Padding is taken away, up to what is no blank at either end. -/
theorem trim_append {before core after : List Char} (hbefore : IsPadding before)
    (hafter : IsPadding after) (hne : core ≠ [])
    (hfirst : ∀ c ∈ core.head?, isNumberBlank c = false)
    (hlast : ∀ c ∈ core.getLast?, isNumberBlank c = false) :
    trim (before ++ (core ++ after)) = core := by
  have hfront : ∀ c ∈ (core ++ after).head?, isNumberBlank c = false := by
    rwa [List.head?_append_of_ne_nil _ hne]
  have hback : ∀ c ∈ core.reverse.head?, isNumberBlank c = false := by rwa [List.head?_reverse]
  rw [trim, (span_append hbefore hfront).2, List.reverse_append,
    (span_append (fun c hc => hafter c (List.mem_reverse.1 hc)) hback).2, List.reverse_reverse]

theorem exists_trim (cs : List Char) : ∃ before after, IsPadding before ∧ IsPadding after ∧
    cs = before ++ (trim cs ++ after) := by
  have hsplit : ∀ ds : List Char, ∃ padding, IsPadding padding ∧
      ds = padding ++ ds.dropWhile isNumberBlank := fun ds =>
    ⟨ds.takeWhile isNumberBlank, fun _ hc => List.mem_takeWhile_imp hc,
      List.takeWhile_append_dropWhile.symm⟩
  obtain ⟨before, hbefore, hcs⟩ := hsplit cs
  obtain ⟨after, hafter, hback⟩ := hsplit (cs.dropWhile isNumberBlank).reverse
  refine ⟨before, after.reverse, hbefore, fun c hc => hafter c (List.mem_reverse.1 hc), ?_⟩
  rw [trim, ← List.reverse_append, ← hback, List.reverse_reverse]
  exact hcs

/-! ## Whole numbers -/

/-- A whole number as a text gives it. -/
inductive WritesWhole : List Char → Int → Prop
  | mk {before s digits after : List Char} {negative : Bool} {ds : List Nat}
    (hbefore : IsPadding before) (hsign : WritesSign s negative) (hdigits : WritesDigits digits ds)
    (hlength : ds.length ≤ digitLimit) (hafter : IsPadding after) :
    WritesWhole (before ++ (s ++ digits ++ after)) (signed negative (ofDigits 10 ds))

theorem WritesWhole.natAbs_lt {cs : List Char} {n : Int} (h : WritesWhole cs n) :
    n.natAbs < 10 ^ digitLimit := by
  obtain ⟨-, -, hdigits, hlength, -⟩ := h
  rw [natAbs_signed]
  exact Nat.lt_of_lt_of_le (ofDigits_lt hdigits.lt_ten) (Nat.pow_le_pow_right (by decide) hlength)

theorem WritesSign.ends_append {s digits : List Char} {negative : Bool} {ds : List Nat}
    (hsign : WritesSign s negative) (hdigits : WritesDigits digits ds) :
    s ++ digits ≠ [] ∧ (∀ c ∈ (s ++ digits).head?, isNumberBlank c = false) ∧
      ∀ c ∈ (s ++ digits).getLast?, isNumberBlank c = false := by
  have hblank : ∀ c, (decimalDigit? c).isSome → isNumberBlank c = false := fun c hc => by
    obtain ⟨d, hd⟩ := Option.isSome_iff_exists.1 hc
    exact isNumberBlank_of_decimalDigit? hd
  obtain ⟨hfirst, hlast⟩ := hdigits.ends
  obtain ⟨x, xs, rfl⟩ : ∃ x xs, digits = x :: xs := by cases hdigits <;> exact ⟨_, _, rfl⟩
  refine ⟨by simp, ?_, ?_⟩
  · cases hsign with
    | none => exact fun c hc => hblank c (hfirst c hc)
    | plus => rintro _ ⟨⟩; decide
    | minus => rintro _ ⟨⟩; decide
  · rw [List.getLast?_append_cons]
    exact fun c hc => hblank c (hlast c hc)

end Literal

open Literal in
/-- **A text makes the whole number that is written in it.** -/
theorem wholeNumber_eq_ok_iff {text : List Char} {n : Int} :
    wholeNumber text = .ok n ↔ WritesWhole text n := by
  constructor
  · intro h
    obtain ⟨before, after, hbefore, hafter, htext⟩ := exists_trim text
    obtain ⟨s, hs, hsign⟩ := exists_sign (trim text)
    rw [wholeNumber] at h
    rcases hrun : sign (trim text) with ⟨negative, cs⟩
    rw [hrun] at h hs hsign
    dsimp only at h hs hsign
    rcases hdigits : digitsBetween decimalDigit? false cs with _ | ds <;> rw [hdigits] at h
    · cases h
    dsimp only at h
    rw [← signed] at h
    split at h
    · cases h
    · rename_i hlength
      cases h
      rw [htext, hs]
      exact .mk hbefore hsign ((digitsBetween_eq_some_iff cs ds).1.1 hdigits)
        (Nat.le_of_not_lt hlength) hafter
  · rintro ⟨hbefore, hsign, hdigits, hlength, hafter⟩
    obtain ⟨hne, hfirst, hlast⟩ := hsign.ends_append hdigits
    have hnosign : ∀ d ∈ List.head? _, d ≠ '-' ∧ d ≠ '+' := fun c hc => by
      obtain ⟨d, hd⟩ := Option.isSome_iff_exists.1 (hdigits.ends.1 c hc)
      exact ⟨ne_of_decimalDigit? hd (by decide), ne_of_decimalDigit? hd (by decide)⟩
    rw [wholeNumber, trim_append hbefore hafter hne hfirst hlast, hsign.sign_append hnosign]
    dsimp only
    rw [(digitsBetween_eq_some_iff _ _).1.2 hdigits]
    exact if_neg (Nat.not_lt.2 hlength)

end TransferBucket
