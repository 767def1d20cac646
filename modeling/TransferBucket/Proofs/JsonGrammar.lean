import Mathlib.Data.List.TakeWhile
import Mathlib.Tactic.SplitIfs
import TransferBucket.Json.Reader
import TransferBucket.Proofs.LiteralGrammar

/-!
# The grammar of JSON texts

**Theorem (`Json.decode_eq_ok_iff`).** A text is read as a value exactly if it is written as that
value by the grammar (`Writes`): a word, a number, a string, or a list or object whose parts are
written between blanks, with commas between them; and blanks around the whole.

**Every text of the grammar is read** (`Writes.isRead`). A part is read up to where it ends, if
nothing follows that a number would go on with (`Ends`); commas, brackets and blanks never do. The
depth that the reader has is twice the number of characters: every part takes two steps down and at
least one character.

**Only texts of the grammar are read** (`ReadsGrammar`). What was taken off the front of a text is
written by the grammar, by induction on the depth; blanks that were passed over stand before the
part that was read next.
-/

namespace TransferBucket.Json

open Literal (WritesSign signed exists_sign)

/-! ## Blanks -/

/-- Blanks only. -/
def IsBlank (cs : List Char) : Prop := ∀ c ∈ cs, isSpace c

theorem isBlank_nil : IsBlank [] := nofun

theorem IsBlank.append {cs ds : List Char} (hcs : IsBlank cs) (hds : IsBlank ds) :
    IsBlank (cs ++ ds) := fun c hc => (List.mem_append.1 hc).elim (hcs c) (hds c)

theorem skip_cons {c : Char} (h : isSpace c = false) (cs : List Char) :
    skip (c :: cs) = c :: cs := by
  rw [skip, List.dropWhile_cons_of_neg (by simp [h])]

theorem IsBlank.skip_append {blank : List Char} (h : IsBlank blank) (cs : List Char) :
    skip (blank ++ cs) = skip cs := List.dropWhile_append_of_pos h

theorem exists_skip (cs : List Char) : ∃ blank, IsBlank blank ∧ cs = blank ++ skip cs :=
  ⟨cs.takeWhile isSpace, fun _ hc => List.mem_takeWhile_imp hc,
    List.takeWhile_append_dropWhile.symm⟩

/-! ## Strings -/

/-- What stands for one code unit in a string: a character, a short escape, or an escape of four
digits. -/
inductive WritesUnit : List Char → Nat → Prop
  | plain {c : Char} (hlow : 0x20 ≤ c.toNat) (hquote : c ≠ '"') (hback : c ≠ '\\') :
    WritesUnit [c] c.toNat
  | short {e c : Char} (h : shortEscape? e = some c) : WritesUnit ['\\', e] c.toNat
  | digits {a b c d : Char} {n : Nat} (h : fourDigits? a b c d = some n) :
    WritesUnit ['\\', 'u', a, b, c, d] n

/-- What stands for the code units of a string, between its quotes. -/
inductive WritesUnits : List Char → List Nat → Prop
  | nil : WritesUnits [] []
  | cons {cs ds : List Char} {n : Nat} {ns : List Nat} (h : WritesUnit cs n)
    (hs : WritesUnits ds ns) : WritesUnits (cs ++ ds) (n :: ns)

theorem WritesUnits.append {cs ds : List Char} {ms ns : List Nat} (h : WritesUnits cs ms)
    (h' : WritesUnits ds ns) : WritesUnits (cs ++ ds) (ms ++ ns) := by
  induction h with
  | nil => exact h'
  | cons h _ ih =>
    rw [List.append_assoc]
    exact .cons h ih

section Units

variable {opening : Nat} {cs rest : List Char} {n : Nat} {us : List Nat}

/-- Put a code unit before a reading. -/
def before (n : Nat) (r : Except Stop (List Nat × List Char)) :
    Except Stop (List Nat × List Char) := r.map fun r => (n :: r.1, r.2)

theorem WritesUnit.readUnits_append (h : WritesUnit cs n) (hrest : rest ≠ []) :
    readUnits opening (cs ++ rest) = before n (readUnits opening rest) := by
  cases h with
  | plain hlow hquote hback =>
    rw [List.singleton_append, readUnits.eq_def]
    dsimp only
    rw [if_neg hquote, if_neg (by omega), if_pos hback, before]
  | @short e c h =>
    have he : e ≠ 'u' := by
      rintro rfl
      cases h
    rw [List.cons_append, List.singleton_append, readUnits.eq_def]
    simp [he, h, before]
  | digits h =>
    have hsome : rest.isEmpty = false := by simpa using hrest
    rw [readUnits.eq_def]
    simp [h, hsome, before]

/-- A string is read up to its closing quote. -/
theorem WritesUnits.readUnits_append (h : WritesUnits cs us) :
    readUnits opening (cs ++ '"' :: rest) = .ok (us, rest) := by
  induction h with
  | nil =>
    rw [List.nil_append, readUnits.eq_def]
    rfl
  | cons h _ ih =>
    rw [List.append_assoc, h.readUnits_append (by simp), ih]
    rfl

theorem before_eq_ok {r : Except Stop (List Nat × List Char)}
    (h : before n r = .ok (us, rest)) : ∃ ns, r = .ok (ns, rest) ∧ us = n :: ns := by
  rcases r with e | ⟨ns, left⟩ <;> cases h
  exact ⟨ns, rfl, rfl⟩

/-- Code units are read only from what stands for them. -/
theorem writesUnits_of_readUnits (h : readUnits opening cs = .ok (us, rest)) :
    ∃ body, cs = body ++ '"' :: rest ∧ WritesUnits body us := by
  fun_induction readUnits opening cs generalizing us with
  | case2 _ => cases h; exact ⟨[], rfl, .nil⟩
  | case4 c _ hquote hlow hback ih =>
    obtain ⟨ns, hns, rfl⟩ := before_eq_ok h
    obtain ⟨body, rfl, hbody⟩ := ih hns
    exact ⟨c :: body, rfl, .cons (.plain (Nat.le_of_not_lt hlow) hquote hback) hbody⟩
  | case6 c _ _ hback a b c' d _ n _ hdigits ih =>
    obtain ⟨ns, hns, rfl⟩ := before_eq_ok h
    obtain ⟨body, rfl, hbody⟩ := ih hns
    rw [Decidable.not_not.1 hback]
    exact ⟨'\\' :: 'u' :: a :: b :: c' :: d :: body, rfl, .cons (.digits hdigits) hbody⟩
  | case9 c _ _ hback e _ _ c' hshort ih =>
    obtain ⟨ns, hns, rfl⟩ := before_eq_ok h
    obtain ⟨body, rfl, hbody⟩ := ih hns
    rw [Decidable.not_not.1 hback]
    exact ⟨'\\' :: e :: body, rfl, .cons (.short hshort) hbody⟩
  | _ => cases h

end Units

theorem readString_append {opening : Nat} {body rest : List Char} {us : List Nat}
    (h : WritesUnits body us) :
    readString opening (body ++ '"' :: rest) = .ok (joinHalves us, rest) := by
  rw [readString, h.readUnits_append]
  rfl

theorem writesUnits_of_readString {opening : Nat} {cs s rest : List Char}
    (h : readString opening cs = .ok (s, rest)) :
    ∃ body us, cs = body ++ '"' :: rest ∧ WritesUnits body us ∧ s = joinHalves us := by
  rw [readString] at h
  rcases hr : readUnits opening cs with e | ⟨us, left⟩ <;> rw [hr] at h <;> cases h
  obtain ⟨body, hcs, hbody⟩ := writesUnits_of_readUnits hr
  exact ⟨body, us, hcs, hbody, rfl⟩

/-! ## Numbers -/

/-- Digits of a whole number: at least one, and no zero before others. -/
structure IsWhole (ds : List Char) : Prop where
  digits : ∀ d ∈ ds, isDigit d
  nonempty : ds ≠ []
  noZero : ds.head? = some '0' → ds = ['0']

/-- A fraction: nothing, or a point and digits. -/
inductive WritesFraction : List Char → Option (List Nat) → Prop
  | none : WritesFraction [] none
  | digits {ds : List Char} (hne : ds ≠ []) (hds : ∀ d ∈ ds, isDigit d) :
    WritesFraction ('.' :: ds) (some (digitValues ds))

/-- An exponent: nothing, or a mark, perhaps a sign, and digits. -/
inductive WritesExponent : List Char → Option Int → Prop
  | none : WritesExponent [] none
  | digits {mark : Char} {sign ds : List Char} {negative : Bool} (hmark : mark = 'e' ∨ mark = 'E')
    (hsign : WritesSign sign negative) (hne : ds ≠ []) (hds : ∀ d ∈ ds, isDigit d) :
    WritesExponent (mark :: (sign ++ ds)) (some (signed negative (ofDigits 10 (digitValues ds))))

/-- A minus before a number, or nothing. -/
def minus (negative : Bool) : List Char := if negative then ['-'] else []

/-- A number as it is written. It is a whole one if it has neither fraction nor exponent. -/
inductive WritesNumber : List Char → Value → Prop
  | whole (negative : Bool) {ds : List Char} (hds : IsWhole ds) (hlength : ds.length ≤ digitLimit) :
    WritesNumber (minus negative ++ ds)
      (.int (signed negative (ofDigits 10 (digitValues ds))))
  | decimal (negative : Bool) {ds fs es : List Char} {fraction? : Option (List Nat)}
    {exponent? : Option Int} (hds : IsWhole ds) (hfs : WritesFraction fs fraction?)
    (hes : WritesExponent es exponent?) (hne : fraction?.isSome ∨ exponent?.isSome) :
    WritesNumber (minus negative ++ (ds ++ (fs ++ es)))
      (.float (.ofDecimal negative (digitValues ds) (fraction?.getD []) (exponent?.getD 0)))

/-- A text that does not go on with a number. -/
def Ends (rest : List Char) : Prop :=
  ∀ c ∈ rest.head?, isDigit c = false ∧ c ≠ '.' ∧ c ≠ 'e' ∧ c ≠ 'E'

theorem ends_nil : Ends [] := nofun

theorem ends_cons {c : Char} (h : isDigit c = false ∧ c ≠ '.' ∧ c ≠ 'e' ∧ c ≠ 'E')
    (rest : List Char) : Ends (c :: rest) := fun _ hc => Option.some.inj hc ▸ h

/-- Blanks do not go on with a number. -/
theorem IsBlank.ends_append {blank rest : List Char} (h : IsBlank blank) (hrest : Ends rest) :
    Ends (blank ++ rest) := by
  cases blank with
  | nil => exact hrest
  | cons c blank =>
    have hc := h c List.mem_cons_self
    refine ends_cons ⟨?_, ?_, ?_, ?_⟩ _ <;> revert hc <;>
      simp only [isSpace, isDigit, Bool.or_eq_true, beq_iff_eq] <;>
      rintro (((rfl | rfl) | rfl) | rfl) <;> decide

section Numbers

variable {cs ds rest : List Char} {negative : Bool}

theorem ne_of_isDigit {c d : Char} (hd : isDigit d) (hc : isDigit c = false) : c ≠ d := by
  rintro rfl
  rw [hc] at hd
  cases hd

theorem isDigit_of_mem_takeWhile {d : Char} (h : d ∈ cs.takeWhile isDigit) : isDigit d :=
  List.mem_takeWhile_imp h

theorem IsWhole.readWhole_append (h : IsWhole ds) (hrest : ∀ c ∈ rest.head?, isDigit c = false) :
    readWhole (ds ++ rest) = some (ds, rest) := by
  obtain ⟨d, ds, rfl⟩ := List.exists_cons_of_ne_nil h.nonempty
  rw [List.cons_append, readWhole]
  by_cases hzero : d = '0'
  · have hone : ds = [] := (List.cons.inj (h.noZero (hzero ▸ rfl))).2
    rw [if_pos hzero, hone, List.nil_append]
  · obtain ⟨htake, hdrop⟩ := span_append (fun c hc => h.digits c (List.mem_cons_of_mem _ hc)) hrest
    rw [if_neg hzero, if_pos (h.digits d List.mem_cons_self), htake, hdrop]

theorem isWhole_of_readWhole (h : readWhole cs = some (ds, rest)) :
    cs = ds ++ rest ∧ IsWhole ds := by
  unfold readWhole at h
  split at h
  · cases h
  · rename_i c left
    split_ifs at h with hzero hdigit <;> cases h
    · exact ⟨rfl, by simp [hzero, isDigit], List.cons_ne_nil _ _, fun _ => by rw [hzero]⟩
    · refine ⟨?_, ?_, List.cons_ne_nil _ _, fun h => absurd (Option.some.inj h) hzero⟩
      · rw [List.cons_append, List.takeWhile_append_dropWhile]
      · exact List.forall_mem_cons.2 ⟨hdigit, fun _ => isDigit_of_mem_takeWhile⟩

theorem WritesFraction.readFraction_append {fs : List Char} {fraction? : Option (List Nat)}
    (h : WritesFraction fs fraction?)
    (hrest : ∀ c ∈ rest.head?, isDigit c = false ∧ c ≠ '.') :
    readFraction (fs ++ rest) = fraction?.map (·, rest) := by
  cases h with
  | none =>
    rw [List.nil_append, readFraction.eq_def]
    split
    · exact absurd rfl (hrest '.' rfl).2
    · rfl
  | digits hne hds =>
    obtain ⟨htake, hdrop⟩ := span_append hds fun c hc => (hrest c hc).1
    rw [List.cons_append, readFraction]
    simp only [htake, hdrop, List.isEmpty_eq_false_iff.2 hne]
    rfl

/-- A fraction, perhaps none, is taken off the front of every text. -/
theorem exists_fraction (cs : List Char) : ∃ fs fraction? left, cs = fs ++ left ∧
    WritesFraction fs fraction? ∧ readFraction cs = fraction?.map (·, left) := by
  rcases hread : readFraction cs with _ | ⟨digits, rest⟩
  · exact ⟨[], none, cs, rfl, .none, rfl⟩
  · unfold readFraction at hread
    split at hread
    · rename_i left
      dsimp only at hread
      split_ifs at hread with hempty
      cases hread
      refine ⟨'.' :: left.takeWhile isDigit, _, _, ?_, .digits ?_ fun _ => isDigit_of_mem_takeWhile,
        rfl⟩
      · rw [List.cons_append, List.takeWhile_append_dropWhile]
      · simpa using hempty
    · cases hread

theorem WritesExponent.readExponent_append {es : List Char} {exponent? : Option Int}
    (h : WritesExponent es exponent?) (hrest : Ends rest) :
    readExponent (es ++ rest) = exponent?.map (·, rest) := by
  cases h with
  | none =>
    cases rest with
    | nil => rfl
    | cons c rest =>
      obtain ⟨-, -, he, hE⟩ := hrest c rfl
      rw [List.nil_append, readExponent, if_neg (not_or.2 ⟨he, hE⟩)]
      rfl
  | @digits mark sign ds negative hmark hsign hne hds =>
    obtain ⟨d, ds, rfl⟩ := List.exists_cons_of_ne_nil hne
    obtain ⟨htake, hdrop⟩ := span_append hds fun c hc => (hrest c hc).1
    have hrun : Literal.sign (sign ++ (d :: ds ++ rest)) = (negative, d :: ds ++ rest) :=
      hsign.sign_append fun c hc => by
        have hc := hds c (Option.some.inj hc ▸ List.mem_cons_self)
        exact ⟨(ne_of_isDigit hc rfl).symm, (ne_of_isDigit hc rfl).symm⟩
    rw [List.cons_append, List.append_assoc, readExponent, if_pos hmark, hrun]
    simp only [htake, hdrop]
    rfl

/-- An exponent, perhaps none, is taken off the front of every text. -/
theorem exists_exponent (cs : List Char) : ∃ es exponent? left, cs = es ++ left ∧
    WritesExponent es exponent? ∧ readExponent cs = exponent?.map (·, left) := by
  rcases hread : readExponent cs with _ | ⟨exponent, rest⟩
  · exact ⟨[], none, cs, rfl, .none, rfl⟩
  · unfold readExponent at hread
    split at hread
    · cases hread
    · rename_i mark left
      obtain ⟨sign, hleft, hsign⟩ := exists_sign left
      rcases hrun : Literal.sign left with ⟨negative, ds⟩
      rw [hrun] at hleft hsign hread
      dsimp only at hread hleft hsign
      rw [← signed] at hread
      split_ifs at hread with hmark hempty
      cases hread
      refine ⟨mark :: (sign ++ ds.takeWhile isDigit), _, _, ?_,
        .digits hmark hsign (by simpa using hempty) fun _ => isDigit_of_mem_takeWhile, rfl⟩
      rw [List.cons_append, List.append_assoc, List.takeWhile_append_dropWhile, ← hleft]

/-- What goes on with a fraction or an exponent ends the digits before it. -/
theorem WritesExponent.head?_append {es : List Char} {exponent? : Option Int}
    (h : WritesExponent es exponent?) (hrest : Ends rest) :
    ∀ c ∈ (es ++ rest).head?, isDigit c = false ∧ c ≠ '.' := by
  cases h with
  | none => exact fun c hc => ⟨(hrest c hc).1, (hrest c hc).2.1⟩
  | digits hmark =>
    intro c hc
    cases hc
    rcases hmark with rfl | rfl <;> decide

theorem WritesFraction.head?_append {fs : List Char} {fraction? : Option (List Nat)}
    (h : WritesFraction fs fraction?) (hrest : ∀ c ∈ rest.head?, isDigit c = false ∧ c ≠ '.') :
    ∀ c ∈ (fs ++ rest).head?, isDigit c = false := by
  cases h with
  | none => exact fun c hc => (hrest c hc).1
  | digits =>
    intro c hc
    cases hc
    decide

/-- A minus is there exactly before a negative number. -/
theorem IsWhole.head?_minus_append (h : IsWhole ds) (negative : Bool) (rest : List Char) :
    (minus negative ++ (ds ++ rest)).head? = some '-' ↔ negative := by
  cases negative with
  | true => exact iff_of_true rfl rfl
  | false =>
    refine iff_of_false (fun hminus => ?_) Bool.false_ne_true
    obtain ⟨d, ds, rfl⟩ := List.exists_cons_of_ne_nil h.nonempty
    have hd := h.digits d List.mem_cons_self
    rw [Option.some.inj hminus] at hd
    exact absurd hd (by decide)

/-- What is made of the parts of a number. -/
def ofParts (negative : Bool) (ds : List Char) (fraction? : Option (List Nat))
    (exponent? : Option Int) : Except Stop Value :=
  if fraction?.isNone && exponent?.isNone then
    if digitLimit < ds.length then .error (.tooLong ds.length)
    else .ok (.int (signed negative (ofDigits 10 (digitValues ds))))
  else .ok (.float (.ofDecimal negative (digitValues ds) (fraction?.getD []) (exponent?.getD 0)))

section Parts

variable {fs es : List Char} {fraction? : Option (List Nat)} {exponent? : Option Int}

theorem ofParts_none (negative : Bool) : ofParts negative ds none none =
    if digitLimit < ds.length then .error (.tooLong ds.length)
    else .ok (.int (signed negative (ofDigits 10 (digitValues ds)))) := if_pos rfl

theorem ofParts_of_isSome (negative : Bool) (h : fraction?.isSome ∨ exponent?.isSome) :
    ofParts negative ds fraction? exponent? =
      .ok (.float (.ofDecimal negative (digitValues ds) (fraction?.getD [])
        (exponent?.getD 0))) := by
  refine if_neg fun hnone => ?_
  obtain ⟨hfraction, hexponent⟩ := Bool.and_eq_true_iff.1 hnone
  rw [Option.isNone_iff_eq_none.1 hfraction, Option.isNone_iff_eq_none.1 hexponent] at h
  exact h.elim nofun nofun

/-- A number is made of its parts, if they are taken off one after the other. -/
theorem readNumber_parts (negative : Bool) (hds : IsWhole ds)
    (hwhole : readWhole (ds ++ (fs ++ (es ++ rest))) = some (ds, fs ++ (es ++ rest)))
    (hfs : WritesFraction fs fraction?)
    (hfraction : readFraction (fs ++ (es ++ rest)) = fraction?.map (·, es ++ rest))
    (hes : WritesExponent es exponent?)
    (hexponent : readExponent (es ++ rest) = exponent?.map (·, rest)) :
    readNumber (minus negative ++ (ds ++ (fs ++ (es ++ rest)))) =
      (ofParts negative ds fraction? exponent?).map (·, rest) := by
  have hunsigned : readWhole (if negative then
      (minus negative ++ (ds ++ (fs ++ (es ++ rest)))).drop 1
      else minus negative ++ (ds ++ (fs ++ (es ++ rest)))) = some (ds, fs ++ (es ++ rest)) := by
    cases negative <;> exact hwhole
  rw [readNumber]
  simp only [hds.head?_minus_append, hunsigned, hfraction, Bool.decide_eq_true]
  -- behind a part that is not there stands the same text
  cases hfs <;> cases hes <;>
    simp only [List.nil_append, Option.map_none, Option.map_some] at hexponent ⊢ <;>
    rw [hexponent]
  · refine (if_pos rfl).trans ?_
    rw [ofParts_none, signed]
    split_ifs <;> rfl
  all_goals rfl

/-- The parts of a number that is written are taken off one after the other. -/
theorem IsWhole.readNumber_append (negative : Bool) (hds : IsWhole ds)
    (hfs : WritesFraction fs fraction?) (hes : WritesExponent es exponent?) (hrest : Ends rest) :
    readNumber (minus negative ++ (ds ++ (fs ++ (es ++ rest)))) =
      (ofParts negative ds fraction? exponent?).map (·, rest) :=
  have hpower := hes.head?_append hrest
  readNumber_parts negative hds (hds.readWhole_append (hfs.head?_append hpower)) hfs
    (hfs.readFraction_append hpower) hes (hes.readExponent_append hrest)

end Parts

/-- A number is read up to where it ends. -/
theorem WritesNumber.readNumber_append {v : Value} (h : WritesNumber cs v) (hrest : Ends rest) :
    readNumber (cs ++ rest) = .ok (v, rest) := by
  cases h with
  | whole negative hds hlength =>
    have hread := hds.readNumber_append negative .none .none hrest
    rw [ofParts_none, if_neg (Nat.not_lt.2 hlength)] at hread
    rw [List.append_assoc]
    exact hread
  | decimal negative hds hfs hes hne =>
    rw [List.append_assoc, List.append_assoc, List.append_assoc,
      hds.readNumber_append negative hfs hes hrest, ofParts_of_isSome negative hne]
    rfl

theorem exists_minus (cs : List Char) : ∃ negative unsigned, cs = minus negative ++ unsigned ∧
    (if cs.head? = some '-' then cs.drop 1 else cs) = unsigned := by
  by_cases hminus : cs.head? = some '-'
  · obtain ⟨unsigned, rfl⟩ := List.head?_eq_some_iff.1 hminus
    exact ⟨true, unsigned, rfl, rfl⟩
  · exact ⟨false, cs, rfl, if_neg hminus⟩

/-- Numbers are read only from what the grammar calls one. -/
theorem writesNumber_of_readNumber {v : Value} (h : readNumber cs = .ok (v, rest)) :
    ∃ number, cs = number ++ rest ∧ WritesNumber number v := by
  obtain ⟨negative, unsigned, rfl, hunsigned⟩ := exists_minus cs
  rcases hwhole : readWhole unsigned with _ | ⟨ds, left⟩
  · rw [readNumber, hunsigned, hwhole] at h
    cases h
  obtain ⟨rfl, hds⟩ := isWhole_of_readWhole hwhole
  obtain ⟨fs, fraction?, left, rfl, hfs, hfraction⟩ := exists_fraction left
  obtain ⟨es, exponent?, left, rfl, hes, hexponent⟩ := exists_exponent left
  rw [readNumber_parts negative hds hwhole hfs hfraction hes hexponent] at h
  by_cases hne : fraction?.isSome ∨ exponent?.isSome
  · rw [ofParts_of_isSome negative hne] at h
    cases h
    exact ⟨_, by simp only [List.append_assoc], .decimal negative hds hfs hes hne⟩
  · cases hfs with
    | digits => exact absurd (.inl rfl) hne
    | none =>
      cases hes with
      | digits => exact absurd (.inr rfl) hne
      | none =>
        rw [ofParts_none] at h
        split_ifs at h with hlength <;> cases h
        exact ⟨_, (List.append_assoc _ _ _).symm, .whole negative hds (Nat.le_of_not_lt hlength)⟩

end Numbers

/-! ## Values -/

/-- A part of a list or object: the text of a value, and the blanks around it. -/
structure Part where
  before : List Char
  core : List Char
  after : List Char
  value : Value
  before_blank : IsBlank before
  after_blank : IsBlank after

/-- The text of a part. -/
def Part.text (p : Part) : List Char := p.before ++ (p.core ++ p.after)

/-- A part after more blanks. -/
def Part.indent {blank : List Char} (h : IsBlank blank) (p : Part) : Part :=
  { p with before := blank ++ p.before, before_blank := h.append p.before_blank }

/-- A member of an object: a name and a value, with blanks around the name. -/
structure Member where
  before : List Char
  body : List Char
  units : List Nat
  gap : List Char
  part : Part
  before_blank : IsBlank before
  gap_blank : IsBlank gap
  named : WritesUnits body units

namespace Member

/-- The name of a member. -/
def name (m : Member) : String := String.ofList (joinHalves m.units)

/-- The text of a member: its name in quotes, a colon, its value. -/
def text (m : Member) : List Char :=
  m.before ++ ('"' :: (m.body ++ ('"' :: (m.gap ++ (':' :: m.part.text)))))

/-- The entry that a member makes. -/
def entry (m : Member) : Value × Value := (.text m.name, m.part.value)

/-- A member after more blanks. -/
def indent {blank : List Char} (h : IsBlank blank) (m : Member) : Member :=
  { m with before := blank ++ m.before, before_blank := h.append m.before_blank }

end Member

/-- Texts with commas between them. -/
def commas (first : List Char) (more : List (List Char)) : List Char :=
  first ++ more.flatMap (',' :: ·)

/-- **The grammar of values.** Of members with the same name the last one counts, in the place of
the first. -/
inductive Writes : List Char → Value → Prop
  | word {cs : List Char} {v : Value} (h : (cs, v) ∈ words) : Writes cs v
  | number {cs : List Char} {v : Value} (h : WritesNumber cs v) : Writes cs v
  | string {body : List Char} {us : List Nat} (h : WritesUnits body us) :
    Writes ('"' :: (body ++ ['"'])) (.text (String.ofList (joinHalves us)))
  | noItems {blank : List Char} (h : IsBlank blank) : Writes ('[' :: (blank ++ [']'])) (.list [])
  | list {p : Part} {ps : List Part} (h : ∀ q ∈ p :: ps, Writes q.core q.value) :
    Writes ('[' :: (commas p.text (ps.map Part.text) ++ [']'])) (.list ((p :: ps).map Part.value))
  | noMembers {blank : List Char} (h : IsBlank blank) :
    Writes ('{' :: (blank ++ ['}'])) (.mapping [])
  | object {m : Member} {ms : List Member} (h : ∀ q ∈ m :: ms, Writes q.part.core q.part.value) :
    Writes ('{' :: (commas m.text (ms.map Member.text) ++ ['}']))
      (.mapping (Value.ofEntries ((m :: ms).map Member.entry)))

/-- A text is JSON for a value: the value is written in it, between blanks. -/
def WritesText (cs : List Char) (v : Value) : Prop :=
  ∃ p : Part, Writes p.core p.value ∧ cs = p.text ∧ v = p.value

theorem commas_cons (first next : List Char) (more : List (List Char)) :
    commas first (next :: more) = first ++ ',' :: commas next more := by
  rw [commas, commas, List.flatMap_cons, List.cons_append]

theorem append_commas (cs first : List Char) (more : List (List Char)) :
    cs ++ commas first more = commas (cs ++ first) more := (List.append_assoc _ _ _).symm

/-! ## Every text of the grammar is read -/

/-- A value begins with a character that is no blank, nor the end of a list, nor a mark of the
order of bytes. -/
def StartsWell (cs : List Char) : Prop :=
  ∃ c rest, cs = c :: rest ∧ isSpace c = false ∧ c ≠ ']' ∧ c ≠ '\ufeff'

/-- A number begins with a digit, perhaps after a minus. -/
theorem WritesNumber.exists_digit {cs : List Char} {v : Value} (h : WritesNumber cs v) :
    ∃ negative d rest, isDigit d ∧ cs = minus negative ++ d :: rest := by
  have hfirst : ∀ negative ds tail, IsWhole ds → ∃ negative' d rest, isDigit d ∧
      minus negative ++ (ds ++ tail) = minus negative' ++ d :: rest := by
    intro negative ds tail hds
    obtain ⟨d, ds, rfl⟩ := List.exists_cons_of_ne_nil hds.nonempty
    exact ⟨negative, d, ds ++ tail, hds.digits d List.mem_cons_self, rfl⟩
  cases h with
  | @whole negative ds hds =>
    rw [← List.append_nil ds]
    exact hfirst negative ds [] hds
  | @decimal negative ds fs es _ _ hds => exact hfirst negative ds (fs ++ es) hds

theorem Writes.startsWell {cs : List Char} {v : Value} (h : Writes cs v) : StartsWell cs := by
  cases h with
  | word h =>
    simp only [words, List.mem_cons, Prod.mk.injEq, List.not_mem_nil, or_false] at h
    rcases h with ⟨rfl, -⟩ | ⟨rfl, -⟩ | ⟨rfl, -⟩ | ⟨rfl, -⟩ | ⟨rfl, -⟩ | ⟨rfl, -⟩ <;>
      exact ⟨_, _, rfl, by decide⟩
  | number h =>
    obtain ⟨negative, d, rest, hd, rfl⟩ := h.exists_digit
    cases negative with
    | true => exact ⟨_, _, rfl, by decide⟩
    | false =>
      have hne := fun c hc => (ne_of_isDigit (c := c) hd hc).symm
      refine ⟨d, rest, rfl, ?_, hne _ rfl, hne _ rfl⟩
      simp [isSpace, hne ' ' rfl, hne '\t' rfl, hne '\n' rfl, hne '\r' rfl]
  | _ => exact ⟨_, _, rfl, by decide⟩

theorem Writes.ne_nil {cs : List Char} {v : Value} (h : Writes cs v) : cs ≠ [] := by
  obtain ⟨c, rest, rfl, -⟩ := h.startsWell
  exact List.cons_ne_nil _ _

theorem StartsWell.skip_append {cs : List Char} (h : StartsWell cs) (rest : List Char) :
    skip (cs ++ rest) = cs ++ rest := by
  obtain ⟨c, cs, rfl, hc, -⟩ := h
  exact skip_cons hc _

/-- A part is reached by passing over the blanks before it. -/
theorem Part.skip_append {p : Part} (h : Writes p.core p.value) (rest : List Char) :
    skip (p.text ++ rest) = p.core ++ (p.after ++ rest) := by
  rw [Part.text, List.append_assoc, p.before_blank.skip_append, List.append_assoc,
    h.startsWell.skip_append]

/-- No word begins like a number. -/
theorem WritesNumber.readPlain_append {cs rest : List Char} {v : Value} (h : WritesNumber cs v)
    (hrest : Ends rest) : readPlain (cs ++ rest) = .ok (v, rest) := by
  have hread := h.readNumber_append hrest
  obtain ⟨negative, d, left, hd, rfl⟩ := h.exists_digit
  have hne := fun c hc => ne_of_isDigit (c := c) hd hc
  have hwords : (words.findSome? fun w => (afterWord? w.1 (minus negative ++ d :: left ++ rest)).map
      fun rest => (w.2, rest)) = none := by
    cases negative <;>
      simp [minus, words, afterWord?, hne 'n' rfl, hne 't' rfl, hne 'f' rfl, hne 'N' rfl,
        hne 'I' rfl, hne '-' rfl]
  rw [readPlain, hwords]
  exact hread

section Heads

variable {fuel : Nat} {rest : List Char}

theorem readValue_list {c : Char} {cs : List Char} (h : skip rest = c :: cs) (hc : c ≠ ']') :
    readValue (fuel + 1) ('[' :: rest) =
      (readItems fuel (c :: cs)).map fun r => (.list r.1, r.2) := by
  simp only [readValue]
  rw [h]
  split
  · rename_i heq
    exact absurd (List.cons.inj heq).1 hc
  · rfl

theorem readValue_mapping {c : Char} {cs : List Char} (h : skip rest = c :: cs) (hc : c ≠ '}') :
    readValue (fuel + 1) ('{' :: rest) =
      (readEntries fuel (c :: cs)).map fun r => (.mapping (Value.ofEntries r.1), r.2) := by
  simp only [readValue]
  rw [h]
  split
  · rename_i heq
    exact absurd (List.cons.inj heq).1 hc
  · rfl

theorem readValue_plain {c : Char} {cs : List Char} (h : c ≠ '"' ∧ c ≠ '[' ∧ c ≠ '{') :
    readValue (fuel + 1) (c :: cs) = readPlain (c :: cs) := by
  rw [readValue.eq_def]
  dsimp only
  split
  · rename_i heq
    cases heq
  · rename_i heq
    exact absurd (List.cons.inj heq).1 h.1
  · rename_i heq
    exact absurd (List.cons.inj heq).1 h.2.1
  · rename_i heq
    exact absurd (List.cons.inj heq).1 h.2.2
  · rfl

end Heads

/-- A text is read as a value, whatever follows. -/
def IsRead (cs : List Char) (v : Value) : Prop :=
  ∀ fuel rest, 2 * cs.length ≤ fuel → Ends rest → readValue fuel (cs ++ rest) = .ok (v, rest)

/-- No text of a value is empty, so it is never read without fuel. -/
theorem IsRead.of_succ {cs : List Char} {v : Value} (hcs : cs ≠ [])
    (hread : ∀ f rest, 2 * cs.length ≤ f + 1 → Ends rest →
      readValue (f + 1) (cs ++ rest) = .ok (v, rest)) : IsRead cs v := by
  intro fuel rest hfuel hrest
  have hlength : 0 < cs.length := List.length_pos_iff.2 hcs
  obtain ⟨f, rfl⟩ := Nat.exists_eq_add_of_le' (show 1 ≤ fuel by omega)
  exact hread f rest hfuel hrest

section Parts

variable {rest : List Char}

/-- A part is read up to the blanks behind its value. -/
theorem Part.readValue_skip {p : Part} (hwrites : Writes p.core p.value)
    (hread : IsRead p.core p.value) {fuel : Nat} (hfuel : 2 * p.text.length ≤ fuel)
    (hrest : Ends rest) :
    readValue fuel (skip (p.text ++ rest)) = .ok (p.value, p.after ++ rest) := by
  have hlength : p.core.length ≤ p.text.length := by
    simp only [Part.text, List.length_append]
    omega
  rw [Part.skip_append hwrites]
  exact hread fuel _ (by omega) (p.after_blank.ends_append hrest)

/-- The items of a list are read one after the other, up to the end of the list. -/
theorem readItems_commas (fuel : Nat) (rest : List Char) {p : Part} {ps : List Part}
    (hwrites : ∀ q ∈ p :: ps, Writes q.core q.value) (hread : ∀ q ∈ p :: ps, IsRead q.core q.value)
    (hfuel : 2 * (commas p.text (ps.map Part.text)).length + 1 ≤ fuel) :
    readItems fuel (skip (commas p.text (ps.map Part.text) ++ ']' :: rest)) =
      .ok ((p :: ps).map Part.value, rest) := by
  induction ps generalizing p fuel with
  | nil =>
    obtain ⟨f, rfl⟩ := Nat.exists_eq_add_of_le' (show 1 ≤ fuel by omega)
    simp only [List.map_nil, commas, List.flatMap_nil, List.append_nil] at hfuel ⊢
    have hvalue := p.readValue_skip (hwrites p List.mem_cons_self) (hread p List.mem_cons_self)
      (show 2 * p.text.length ≤ f by omega) (ends_cons (c := ']') (by decide) rest)
    simp only [readItems, hvalue, p.after_blank.skip_append, skip_cons (c := ']') rfl,
      List.map_singleton]
  | cons next ps ih =>
    obtain ⟨f, rfl⟩ := Nat.exists_eq_add_of_le' (show 1 ≤ fuel by omega)
    simp only [List.map_cons, commas_cons, List.append_assoc, List.cons_append, List.length_append,
      List.length_cons] at hfuel ⊢
    have hvalue := p.readValue_skip (hwrites p List.mem_cons_self) (hread p List.mem_cons_self)
      (show 2 * p.text.length ≤ f by omega) (ends_cons (c := ',') (by decide)
        (commas next.text (ps.map Part.text) ++ ']' :: rest))
    have hmore := ih f (fun q hq => hwrites q (List.mem_cons_of_mem _ hq))
      (fun q hq => hread q (List.mem_cons_of_mem _ hq)) (by omega)
    simp only [readItems, hvalue, p.after_blank.skip_append, skip_cons (c := ',') rfl, hmore]
    rfl

theorem Member.skip_append (m : Member) (rest : List Char) : skip (m.text ++ rest) =
    '"' :: (m.body ++ '"' :: (m.gap ++ ':' :: (m.part.text ++ rest))) := by
  rw [Member.text, List.append_assoc, m.before_blank.skip_append, List.cons_append,
    skip_cons (c := '"') rfl]
  simp only [List.append_assoc, List.cons_append]

/-- The name of a member is read, and what stands behind its colon. -/
theorem Member.readEntries_skip (m : Member) (fuel : Nat) (rest : List Char) :
    readEntries (fuel + 1) (skip (m.text ++ rest)) =
      match readValue fuel (skip (m.part.text ++ rest)) with
      | .error e => .error e
      | .ok (v, rest) => match skip rest with
        | '}' :: after => .ok ([(.text m.name, v)], after)
        | ',' :: after =>
          (readEntries fuel (skip after)).map fun r => ((.text m.name, v) :: r.1, r.2)
        | other => .error (.syntaxError .comma other.length) := by
  rw [m.skip_append, readEntries]
  simp only [readString_append m.named, m.gap_blank.skip_append, skip_cons (c := ':') rfl]
  rfl

/-- The members of an object are read one after the other, up to the end of the object. -/
theorem readEntries_commas (fuel : Nat) (rest : List Char) {m : Member} {ms : List Member}
    (hwrites : ∀ q ∈ m :: ms, Writes q.part.core q.part.value)
    (hread : ∀ q ∈ m :: ms, IsRead q.part.core q.part.value)
    (hfuel : 2 * (commas m.text (ms.map Member.text)).length + 1 ≤ fuel) :
    readEntries fuel (skip (commas m.text (ms.map Member.text) ++ '}' :: rest)) =
      .ok ((m :: ms).map Member.entry, rest) := by
  have hlength : ∀ m : Member, m.part.text.length ≤ m.text.length := by
    intro m
    simp only [Member.text, List.length_append, List.length_cons]
    omega
  induction ms generalizing m fuel with
  | nil =>
    obtain ⟨f, rfl⟩ := Nat.exists_eq_add_of_le' (show 1 ≤ fuel by omega)
    simp only [List.map_nil, commas, List.flatMap_nil, List.append_nil] at hfuel ⊢
    have hpart := hlength m
    have hvalue := m.part.readValue_skip (hwrites m List.mem_cons_self)
      (hread m List.mem_cons_self) (show 2 * m.part.text.length ≤ f by omega)
      (ends_cons (c := '}') (by decide) rest)
    simp only [Member.readEntries_skip, hvalue, m.part.after_blank.skip_append,
      skip_cons (c := '}') rfl, List.map_singleton]
    rfl
  | cons next ms ih =>
    obtain ⟨f, rfl⟩ := Nat.exists_eq_add_of_le' (show 1 ≤ fuel by omega)
    simp only [List.map_cons, commas_cons, List.append_assoc, List.cons_append, List.length_append,
      List.length_cons] at hfuel ⊢
    have hpart := hlength m
    have hvalue := m.part.readValue_skip (hwrites m List.mem_cons_self)
      (hread m List.mem_cons_self) (show 2 * m.part.text.length ≤ f by omega)
      (ends_cons (c := ',') (by decide) (commas next.text (ms.map Member.text) ++ '}' :: rest))
    have hmore := ih f (fun q hq => hwrites q (List.mem_cons_of_mem _ hq))
      (fun q hq => hread q (List.mem_cons_of_mem _ hq)) (by omega)
    simp only [Member.readEntries_skip, hvalue, m.part.after_blank.skip_append,
      skip_cons (c := ',') rfl, hmore]
    rfl

end Parts

/-- **Every text of a value is read as the value.** -/
theorem Writes.isRead {cs : List Char} {v : Value} (h : Writes cs v) : IsRead cs v := by
  induction h with
  | @word cs v h =>
    refine .of_succ (Writes.word h).ne_nil fun f rest _ _ => ?_
    simp only [words, List.mem_cons, Prod.mk.injEq, List.not_mem_nil, or_false] at h
    rcases h with ⟨rfl, rfl⟩ | ⟨rfl, rfl⟩ | ⟨rfl, rfl⟩ | ⟨rfl, rfl⟩ | ⟨rfl, rfl⟩ | ⟨rfl, rfl⟩ <;>
      rfl
  | number h =>
    refine .of_succ (Writes.number h).ne_nil fun f rest _ hrest => ?_
    have hplain := h.readPlain_append hrest
    obtain ⟨negative, d, left, hd, rfl⟩ := h.exists_digit
    have hdigit := fun c hc => (ne_of_isDigit (c := c) hd hc).symm
    rw [← hplain]
    cases negative with
    | true => exact readValue_plain (by decide)
    | false => exact readValue_plain ⟨hdigit _ rfl, hdigit _ rfl, hdigit _ rfl⟩
  | string h =>
    refine .of_succ (List.cons_ne_nil _ _) fun f rest _ _ => ?_
    rw [List.cons_append, List.append_assoc, List.singleton_append, readValue, readString_append h]
    rfl
  | noItems h =>
    refine .of_succ (List.cons_ne_nil _ _) fun f rest _ _ => ?_
    rw [List.cons_append, List.append_assoc, List.singleton_append]
    simp only [readValue, h.skip_append, skip_cons (c := ']') rfl]
  | @list p ps h ih =>
    refine .of_succ (List.cons_ne_nil _ _) fun f rest hfuel _ => ?_
    simp only [List.length_cons, List.length_append] at hfuel
    rw [List.cons_append, List.append_assoc, List.singleton_append]
    have hitems := readItems_commas f rest h ih (by omega)
    obtain ⟨c, cs, hcs, hc⟩ : ∃ c cs,
        skip (commas p.text (ps.map Part.text) ++ ']' :: rest) = c :: cs ∧ c ≠ ']' := by
      obtain ⟨c, cs, hcore, -, hc, -⟩ := (h p List.mem_cons_self).startsWell
      rw [commas, List.append_assoc, Part.skip_append (h p List.mem_cons_self), hcore]
      exact ⟨c, _, rfl, hc⟩
    rw [hcs] at hitems
    rw [readValue_list hcs hc, hitems]
    rfl
  | noMembers h =>
    refine .of_succ (List.cons_ne_nil _ _) fun f rest _ _ => ?_
    rw [List.cons_append, List.append_assoc, List.singleton_append]
    simp only [readValue, h.skip_append, skip_cons (c := '}') rfl]
  | @object m ms h ih =>
    refine .of_succ (List.cons_ne_nil _ _) fun f rest hfuel _ => ?_
    simp only [List.length_cons, List.length_append] at hfuel
    rw [List.cons_append, List.append_assoc, List.singleton_append]
    have hentries := readEntries_commas f rest h ih (by omega)
    obtain ⟨cs, hcs⟩ : ∃ cs,
        skip (commas m.text (ms.map Member.text) ++ '}' :: rest) = '"' :: cs := by
      rw [commas, List.append_assoc, Member.skip_append]
      exact ⟨_, rfl⟩
    rw [hcs] at hentries
    rw [readValue_mapping hcs (by decide), hentries]
    rfl

/-! ## Only texts of the grammar are read -/

/-- What stands between the brackets of a list with items. -/
def WritesItems (cs : List Char) (vs : List Value) : Prop :=
  ∃ (p : Part) (ps : List Part), cs = commas p.text (ps.map Part.text) ∧
    vs = (p :: ps).map Part.value ∧ ∀ q ∈ p :: ps, Writes q.core q.value

/-- What stands between the braces of an object with members. -/
def WritesEntries (cs : List Char) (es : List (Value × Value)) : Prop :=
  ∃ (m : Member) (ms : List Member), cs = commas m.text (ms.map Member.text) ∧
    es = (m :: ms).map Member.entry ∧ ∀ q ∈ m :: ms, Writes q.part.core q.part.value

section Items

variable {blank cs ds : List Char} {vs : List Value} {es : List (Value × Value)}

theorem WritesItems.indent (h : WritesItems cs vs) (hblank : IsBlank blank) :
    WritesItems (blank ++ cs) vs := by
  obtain ⟨p, ps, rfl, rfl, hall⟩ := h
  rw [List.forall_mem_cons] at hall
  refine ⟨p.indent hblank, ps, ?_, rfl, List.forall_mem_cons.2 hall⟩
  rw [append_commas, Part.text, Part.text, Part.indent, List.append_assoc]

theorem WritesEntries.indent (h : WritesEntries cs es) (hblank : IsBlank blank) :
    WritesEntries (blank ++ cs) es := by
  obtain ⟨m, ms, rfl, rfl, hall⟩ := h
  rw [List.forall_mem_cons] at hall
  refine ⟨m.indent hblank, ms, ?_, rfl, List.forall_mem_cons.2 hall⟩
  rw [append_commas, Member.text, Member.text, Member.indent, List.append_assoc]

theorem WritesItems.single (p : Part) (hp : Writes p.core p.value) :
    WritesItems p.text [p.value] :=
  ⟨p, [], by simp [commas], rfl, by simpa using hp⟩

theorem WritesEntries.single (m : Member) (hm : Writes m.part.core m.part.value) :
    WritesEntries m.text [m.entry] :=
  ⟨m, [], by simp [commas], rfl, by simpa using hm⟩

theorem WritesItems.cons (p : Part) (hp : Writes p.core p.value) (h : WritesItems cs vs) :
    WritesItems (p.text ++ ',' :: cs) (p.value :: vs) := by
  obtain ⟨q, qs, rfl, rfl, hall⟩ := h
  exact ⟨p, q :: qs, (commas_cons _ _ _).symm, rfl, List.forall_mem_cons.2 ⟨hp, hall⟩⟩

theorem WritesEntries.cons (m : Member) (hm : Writes m.part.core m.part.value)
    (h : WritesEntries cs es) : WritesEntries (m.text ++ ',' :: cs) (m.entry :: es) := by
  obtain ⟨q, qs, rfl, rfl, hall⟩ := h
  exact ⟨m, q :: qs, (commas_cons _ _ _).symm, rfl, List.forall_mem_cons.2 ⟨hm, hall⟩⟩

theorem WritesItems.writes (h : WritesItems cs vs) :
    Writes ('[' :: (cs ++ [']'])) (.list vs) := by
  obtain ⟨p, ps, rfl, rfl, hall⟩ := h
  exact .list hall

theorem WritesEntries.writes (h : WritesEntries cs es) :
    Writes ('{' :: (cs ++ ['}'])) (.mapping (Value.ofEntries es)) := by
  obtain ⟨m, ms, rfl, rfl, hall⟩ := h
  exact .object hall

end Items

theorem writes_of_readPlain {cs rest : List Char} {v : Value} (h : readPlain cs = .ok (v, rest)) :
    ∃ core, cs = core ++ rest ∧ Writes core v := by
  rw [readPlain] at h
  split at h
  · rename_i r hword
    cases h
    obtain ⟨⟨w, u⟩, hmem, hafter⟩ := List.exists_of_findSome?_eq_some hword
    rw [afterWord?] at hafter
    split_ifs at hafter with hprefix
    · cases hafter
      obtain ⟨left, rfl⟩ := List.isPrefixOf_iff_prefix.1 hprefix
      exact ⟨w, by rw [List.drop_left], .word hmem⟩
    · cases hafter
  · obtain ⟨number, rfl, hnumber⟩ := writesNumber_of_readNumber h
    exact ⟨number, rfl, .number hnumber⟩

/-- What the three readers take off the front of a text is written by the grammar. -/
structure ReadsGrammar (fuel : Nat) : Prop where
  value : ∀ cs v rest, readValue fuel cs = .ok (v, rest) → ∃ core, cs = core ++ rest ∧ Writes core v
  items : ∀ cs vs rest, readItems fuel cs = .ok (vs, rest) →
    ∃ inside, cs = inside ++ ']' :: rest ∧ WritesItems inside vs
  entries : ∀ cs es rest, readEntries fuel cs = .ok (es, rest) →
    ∃ inside, cs = inside ++ '}' :: rest ∧ WritesEntries inside es

namespace ReadsGrammar

variable {fuel : Nat} {cs rest : List Char}

/-- Behind a value come blanks. -/
theorem exists_part (h : ReadsGrammar fuel) {v : Value}
    (hv : readValue fuel cs = .ok (v, rest)) :
    ∃ p : Part, cs = p.text ++ skip rest ∧ p.value = v ∧ Writes p.core p.value := by
  obtain ⟨core, rfl, hcore⟩ := h.value _ _ _ hv
  obtain ⟨blank, hblank, hrest⟩ := exists_skip rest
  refine ⟨⟨[], core, blank, v, isBlank_nil, hblank⟩, ?_, rfl, hcore⟩
  rw [Part.text, List.nil_append, List.append_assoc, ← hrest]

theorem value_succ (h : ReadsGrammar fuel) {v : Value}
    (hv : readValue (fuel + 1) cs = .ok (v, rest)) : ∃ core, cs = core ++ rest ∧ Writes core v := by
  rw [readValue.eq_def] at hv
  dsimp only at hv
  split at hv
  · cases hv
  · rename_i left
    rcases hr : readString (left.length + 1) left with e | ⟨s, after⟩ <;> rw [hr] at hv <;> cases hv
    obtain ⟨body, us, rfl, hbody, rfl⟩ := writesUnits_of_readString hr
    exact ⟨'"' :: (body ++ ['"']), by simp, .string hbody⟩
  · rename_i left
    obtain ⟨blank, hblank, hleft⟩ := exists_skip left
    rw [hleft]
    split at hv
    · rename_i after hskip
      cases hv
      rw [hskip]
      exact ⟨'[' :: (blank ++ [']']), by simp, .noItems hblank⟩
    · rcases hr : readItems fuel (skip left) with e | ⟨vs, after⟩ <;> rw [hr] at hv <;> cases hv
      obtain ⟨inside, hinside, hitems⟩ := h.items _ _ _ hr
      exact ⟨'[' :: (blank ++ inside ++ [']']), by simp [hinside], (hitems.indent hblank).writes⟩
  · rename_i left
    obtain ⟨blank, hblank, hleft⟩ := exists_skip left
    rw [hleft]
    split at hv
    · rename_i after hskip
      cases hv
      rw [hskip]
      exact ⟨'{' :: (blank ++ ['}']), by simp, .noMembers hblank⟩
    · rcases hr : readEntries fuel (skip left) with e | ⟨es, after⟩ <;> rw [hr] at hv <;> cases hv
      obtain ⟨inside, hinside, hentries⟩ := h.entries _ _ _ hr
      exact ⟨'{' :: (blank ++ inside ++ ['}']), by simp [hinside], (hentries.indent hblank).writes⟩
  · exact writes_of_readPlain hv

theorem items_succ (h : ReadsGrammar fuel) {vs : List Value}
    (hvs : readItems (fuel + 1) cs = .ok (vs, rest)) :
    ∃ inside, cs = inside ++ ']' :: rest ∧ WritesItems inside vs := by
  rw [readItems] at hvs
  rcases hr : readValue fuel cs with e | ⟨v, left⟩ <;> rw [hr] at hvs
  · cases hvs
  obtain ⟨p, rfl, rfl, hp⟩ := h.exists_part hr
  dsimp only at hvs
  split at hvs
  · rename_i after hskip
    cases hvs
    rw [hskip]
    exact ⟨p.text, rfl, .single p hp⟩
  · rename_i after hskip
    rcases hmore : readItems fuel (skip after) with e | ⟨vs, last⟩ <;> rw [hmore] at hvs <;>
      cases hvs
    obtain ⟨blank, hblank, hafter⟩ := exists_skip after
    obtain ⟨inside, hinside, hitems⟩ := h.items _ _ _ hmore
    refine ⟨p.text ++ ',' :: (blank ++ inside), ?_, .cons p hp (hitems.indent hblank)⟩
    rw [hskip, hafter, hinside]
    simp
  · cases hvs

theorem entries_succ (h : ReadsGrammar fuel) {es : List (Value × Value)}
    (hes : readEntries (fuel + 1) cs = .ok (es, rest)) :
    ∃ inside, cs = inside ++ '}' :: rest ∧ WritesEntries inside es := by
  rw [readEntries.eq_def] at hes
  dsimp only at hes
  split at hes
  · rename_i left
    rcases hname : readString (left.length + 1) left with e | ⟨s, named⟩ <;> rw [hname] at hes
    · cases hes
    obtain ⟨body, us, rfl, hbody, rfl⟩ := writesUnits_of_readString hname
    dsimp only at hes
    obtain ⟨gap, hgap, hnamed⟩ := exists_skip named
    rw [hnamed]
    split at hes
    · rename_i colon hcolon
      obtain ⟨lead, hlead, hlast⟩ := exists_skip colon
      rcases hr : readValue fuel (skip colon) with e | ⟨v, valued⟩ <;> rw [hr] at hes
      · cases hes
      obtain ⟨p, hp, rfl, hwrites⟩ := h.exists_part hr
      dsimp only at hes
      let m : Member := ⟨[], body, us, gap, p.indent hlead, isBlank_nil, hgap, hbody⟩
      have hm : '"' :: (body ++ '"' :: (gap ++ skip named)) = m.text ++ skip valued := by
        rw [hcolon, hlast, hp]
        simp [m, Member.text, Part.text, Part.indent]
      rw [hm]
      split at hes
      · rename_i after hskip
        cases hes
        rw [hskip]
        exact ⟨m.text, rfl, .single m hwrites⟩
      · rename_i after hskip
        rcases hmore : readEntries fuel (skip after) with e | ⟨es, last⟩ <;>
          rw [hmore] at hes <;> cases hes
        obtain ⟨blank, hblank, hafter⟩ := exists_skip after
        obtain ⟨inside, hinside, hentries⟩ := h.entries _ _ _ hmore
        refine ⟨m.text ++ ',' :: (blank ++ inside), ?_, .cons m hwrites (hentries.indent hblank)⟩
        rw [hskip, hafter, hinside]
        simp
      · cases hes
    · cases hes
  · cases hes

/-- By induction on the depth that the readers have. -/
theorem all (fuel : Nat) : ReadsGrammar fuel := by
  induction fuel with
  | zero =>
    refine ⟨fun cs v rest h => ?_, fun cs vs rest h => ?_, fun cs es rest h => ?_⟩
    · rw [readValue] at h
      cases h
    · rw [readItems] at h
      cases h
    · rw [readEntries] at h
      cases h
  | succ fuel ih =>
    exact ⟨fun _ _ _ => ih.value_succ, fun _ _ _ => ih.items_succ, fun _ _ _ => ih.entries_succ⟩

end ReadsGrammar

/-- **What is read is what the grammar says.** -/
theorem decode_eq_ok_iff {cs : List Char} {v : Value} : decode cs = .ok v ↔ WritesText cs v := by
  constructor
  · intro h
    rw [decode, readAll] at h
    split at h
    · cases h
    dsimp only at h
    obtain ⟨blank, hblank, hcs⟩ := exists_skip cs
    rcases hr : readValue (2 * (skip cs).length + 2) (skip cs) with e | ⟨w, rest⟩ <;> rw [hr] at h
    · cases h
    obtain ⟨p, hp, rfl, hwrites⟩ := (ReadsGrammar.all _).exists_part hr
    dsimp only at h
    split at h
    · rename_i hskip
      cases h
      refine ⟨p.indent hblank, hwrites, ?_, rfl⟩
      rw [hcs, hp, hskip]
      simp [Part.text, Part.indent]
    · cases h
  · rintro ⟨p, hwrites, rfl, rfl⟩
    obtain ⟨c, core, hcore, -, -, hmark⟩ := hwrites.startsWell
    have hskip : skip p.text = p.core ++ p.after := by
      have h := Part.skip_append hwrites []
      rwa [List.append_nil, List.append_nil] at h
    have hhead : p.text.head? ≠ some '\ufeff' := by
      rw [Part.text]
      rcases hb : p.before with _ | ⟨b, bs⟩
      · rw [hcore]
        exact fun h => hmark (Option.some.inj h)
      · have hspace := p.before_blank b (hb ▸ List.mem_cons_self)
        rintro h
        rw [Option.some.inj h] at hspace
        exact absurd hspace (by decide)
    have hread := hwrites.isRead (2 * (skip p.text).length + 2) p.after (by simp [hskip]; omega) (by
      have h := p.after_blank.ends_append ends_nil
      rwa [List.append_nil] at h)
    have hafter : skip p.after = [] := by
      have h := p.after_blank.skip_append []
      rwa [List.append_nil] at h
    rw [decode, readAll, if_neg hhead]
    dsimp only
    rw [← hskip] at hread
    rw [hread]
    dsimp only
    rw [hafter]
    rfl

end TransferBucket.Json
