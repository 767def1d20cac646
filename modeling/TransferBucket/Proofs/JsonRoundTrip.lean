import Mathlib.Data.List.Nodup
import Mathlib.Data.Nat.Digits.Defs
import Mathlib.Tactic.SplitIfs
import TransferBucket.Json.Writer
import TransferBucket.Proofs.JsonGrammar

/-!
# JSON texts are read as what was written

**Theorem (`Json.decode_render`).** The text of a value, in every layout, is read as that value, if
the value is one that JSON can tell (`Value.IsJson`): its numbers are whole and can be written, the
keys of its mappings are texts and no two are the same.

What is written is a text of the grammar (`Json.Writes.of_isJson`), by induction on the value, and
the reader reads those.

**Strings.** Every character is written on its own, for one code unit or for the two halves of a
pair; halves that stand next to each other come of one character (`joinHalves_flatMap`).

**Numbers.** A number is written with at least one digit and no zero before others
(`isWhole_natDigits`).

**Layouts.** What a layout puts between items is blanks around a comma (`exists_separator`).
-/

namespace TransferBucket.Json

open Literal (signed)

/-! ## Digits -/

theorem hexDigit?_digitChar : ∀ d < 16, Literal.hexDigit? (Nat.digitChar d) = some d := by decide

/-- The last of several digits to base sixteen. -/
theorem padLeft_toDigits {width : Nat} (hw : 0 < width) (n : Nat) :
    padLeft (width + 1) (Nat.toDigits 16 n) =
      padLeft width (Nat.toDigits 16 (n / 16)) ++ [Nat.digitChar (n % 16)] := by
  by_cases h : n < 16
  · have hdiv : n / 16 = 0 := by omega
    have hmod : n % 16 = n := by omega
    obtain ⟨w, rfl⟩ : ∃ w, width = w + 1 := ⟨width - 1, by omega⟩
    rw [Nat.toDigits_of_lt_base h, hdiv, hmod, Nat.toDigits_of_lt_base (by omega)]
    simp [padLeft, List.replicate_succ', Nat.digitChar]
  · have happend : Nat.toDigits 16 n = Nat.toDigits 16 (n / 16) ++ [Nat.digitChar (n % 16)] := by
      rw [← Nat.toDigits_of_lt_base (show n % 16 < 16 by omega),
        Nat.toDigits_append_toDigits (by decide) (by omega) (by omega), Nat.div_add_mod]
    rw [happend]
    simp [padLeft, Nat.add_sub_add_right]

theorem fourDigits_eq {n : Nat} (h : n < 0x10000) :
    fourDigits n = [Nat.digitChar (n / 0x1000), Nat.digitChar (n / 0x100 % 16),
      Nat.digitChar (n / 0x10 % 16), Nat.digitChar (n % 16)] := by
  have hthird : n / 16 / 16 = n / 0x100 := by omega
  have hfourth : n / 0x100 / 16 = n / 0x1000 := by omega
  rw [fourDigits, padLeft_toDigits (by decide), padLeft_toDigits (by decide),
    padLeft_toDigits (by decide), hthird, hfourth, Nat.toDigits_of_lt_base (by omega)]
  rfl

theorem fourDigits?_digitChar {n : Nat} (h : n < 0x10000) :
    fourDigits? (Nat.digitChar (n / 0x1000)) (Nat.digitChar (n / 0x100 % 16))
      (Nat.digitChar (n / 0x10 % 16)) (Nat.digitChar (n % 16)) = some n := by
  rw [fourDigits?, hexDigit?_digitChar _ (by omega), hexDigit?_digitChar _ (by omega),
    hexDigit?_digitChar _ (by omega), hexDigit?_digitChar _ (by omega)]
  exact congrArg some (by omega)

/-! ## Strings -/

/-- The code units of a character: itself, or the halves of a pair. -/
def units (c : Char) : List Nat :=
  if c.toNat < 0x10000 then [c.toNat]
  else [0xd800 + (c.toNat - 0x10000) / 0x400, 0xdc00 + (c.toNat - 0x10000) % 0x400]

theorem writesUnit_unitEscape {n : Nat} (h : n < 0x10000) : WritesUnit (unitEscape n) n := by
  rw [unitEscape, fourDigits_eq h]
  exact .digits (fourDigits?_digitChar h)

theorem WritesUnit.single {cs : List Char} {n : Nat} (h : WritesUnit cs n) :
    WritesUnits cs [n] := by
  simpa using WritesUnits.cons h .nil

theorem writesUnits_charEscape (c : Char) : WritesUnits (charEscape c) (units c) := by
  have hc : c.toNat < 0xd800 ∨ 0xdfff < c.toNat ∧ c.toNat < 0x110000 := c.valid
  by_cases h : c.toNat < 0x10000
  · rw [charEscape, units, if_pos h, if_pos h]
    exact (writesUnit_unitEscape h).single
  · rw [charEscape, units, if_neg h, if_neg h]
    exact .cons (writesUnit_unitEscape (by omega)) (writesUnit_unitEscape (by omega)).single

theorem writesUnits_writeChar (c : Char) : WritesUnits (writeChar c) (units c) := by
  unfold writeChar
  split
  -- the cases before the last are the characters with short escapes
  case h_8 h₁ h₂ _ _ _ _ _ =>
    split_ifs with h
    · have hu : units c = [c.toNat] := if_pos (by omega)
      rw [hu]
      exact (WritesUnit.plain h.1 h₁ h₂).single
    · exact writesUnits_charEscape c
  all_goals exact (WritesUnit.short rfl).single

/-- What is written for a string stands for the code units of its characters. -/
theorem writesUnits_write (s : List Char) :
    WritesUnits (s.flatMap writeChar) (s.flatMap units) := by
  induction s with
  | nil => exact .nil
  | cons c s ih => exact (writesUnits_writeChar c).append ih

/-- Code units of characters are joined to those characters. -/
theorem joinHalves_units (c : Char) (us : List Nat) :
    joinHalves (units c ++ us) = c :: joinHalves us := by
  have hc : c.toNat < 0xd800 ∨ 0xdfff < c.toNat ∧ c.toNat < 0x110000 := c.valid
  rw [units]
  split_ifs with h
  · have hhigh : isHighHalf c.toNat = false := by
      simp [isHighHalf]
      omega
    have hlow : isLowHalf c.toNat = false := by
      simp [isLowHalf]
      omega
    have hchar : unitChar c.toNat = c := by simp [unitChar, hhigh, hlow, Char.ofNat_toNat]
    cases us with
    | nil => simp [joinHalves, hchar]
    | cons u us => simp [joinHalves, hhigh, hchar]
  · have hhigh : isHighHalf (0xd800 + (c.toNat - 0x10000) / 0x400) = true := by
      simp [isHighHalf]
      omega
    have hlow : isLowHalf (0xdc00 + (c.toNat - 0x10000) % 0x400) = true := by
      simp [isLowHalf]
      omega
    have hnat : 0x10000 + (0xd800 + (c.toNat - 0x10000) / 0x400 - 0xd800) * 0x400 +
        (0xdc00 + (c.toNat - 0x10000) % 0x400 - 0xdc00) = c.toNat := by omega
    simp only [List.cons_append, List.nil_append, joinHalves, hhigh, hlow, Bool.and_self, if_true,
      pairChar, hnat, Char.ofNat_toNat]

theorem joinHalves_flatMap (s : List Char) : joinHalves (s.flatMap units) = s := by
  induction s with
  | nil => rfl
  | cons c s ih => rw [List.flatMap_cons, joinHalves_units, ih]

/-- **A string is written by the grammar.** -/
theorem writes_writeString (s : List Char) : Writes (writeString s) (.text (String.ofList s)) := by
  have hstring := Writes.string (writesUnits_write s)
  rwa [joinHalves_flatMap] at hstring

/-! ## Numbers -/

theorem exists_natDigits (n : Nat) : ∃ d ds, natDigits n = d :: ds := by
  rw [natDigits, Nat.toList_repr]
  exact List.exists_cons_of_ne_nil Nat.toDigits_ne_nil

theorem isDigit_natDigits {n : Nat} {c : Char} (h : c ∈ natDigits n) : isDigit c := by
  rw [natDigits, Nat.toList_repr] at h
  exact Nat.isDigit_of_mem_toDigits (by decide) (by decide) h

theorem head?_natDigits {n : Nat} (h : 0 < n) : (natDigits n).head? ≠ some '0' := by
  rw [natDigits, Nat.toList_repr]
  induction n using Nat.strongRecOn with
  | ind n ih =>
    by_cases hn : n < 10
    · rw [Nat.toDigits_of_lt_base hn]
      revert h
      have htable : ∀ d < 10, 0 < d → [Nat.digitChar d].head? ≠ some '0' := by decide
      exact htable n hn
    · have happend : Nat.toDigits 10 n = Nat.toDigits 10 (n / 10) ++ Nat.toDigits 10 (n % 10) := by
        rw [Nat.toDigits_append_toDigits (by decide) (by omega) (by omega), Nat.div_add_mod]
      have hrest := ih (n / 10) (by omega) (by omega)
      obtain ⟨d, ds, hds⟩ := List.exists_cons_of_ne_nil
        (Nat.toDigits_ne_nil : Nat.toDigits 10 (n / 10) ≠ [])
      rw [hds] at hrest
      rw [happend, hds]
      exact hrest

/-- The digits of a number make the number. -/
theorem ofDigits_natDigits (n : Nat) : ofDigits 10 (digitValues (natDigits n)) = n := by
  have hfold : ∀ cs : List Char, ∀ m, (digitValues cs).foldl (fun n d => n * 10 + d) m =
      Nat.ofDigitChars 10 cs m := by
    intro cs
    induction cs with
    | nil => exact fun _ => rfl
    | cons c cs ih =>
      intro m
      rw [Nat.ofDigitChars_cons, ← ih, Nat.mul_comm]
      rfl
  rw [ofDigits, hfold, natDigits, Nat.toList_repr,
    Nat.ofDigitChars_toDigits (by decide) (by decide)]

/-- A number that can be written has no more digits than may be read. -/
theorem length_natDigits {n : Int} (h : isWritable n) :
    (natDigits n.natAbs).length ≤ digitLimit := by
  rw [natDigits, Nat.toList_repr]
  exact Nat.toDigits_length 10 n.natAbs digitLimit (by decide) (isWritable_iff.1 h)

theorem isWhole_natDigits (n : Nat) : IsWhole (natDigits n) where
  digits _ := isDigit_natDigits
  nonempty h := by
    obtain ⟨d, ds, hds⟩ := exists_natDigits n
    rw [h] at hds
    cases hds
  noZero h := by
    rcases Nat.eq_zero_or_pos n with rfl | hn
    · rfl
    · exact absurd h (head?_natDigits hn)

/-- **A number that can be written is written by the grammar.** -/
theorem writesNumber_writeInt {n : Int} (h : isWritable n) :
    WritesNumber (writeInt n) (.int n) := by
  have hdigits : ∀ negative, WritesNumber (minus negative ++ natDigits n.natAbs)
      (.int (signed negative n.natAbs)) := fun negative => by
    have hwhole := WritesNumber.whole negative (isWhole_natDigits n.natAbs) (length_natDigits h)
    rwa [ofDigits_natDigits] at hwhole
  rw [writeInt]
  split_ifs with hn
  · have hsigned : signed true n.natAbs = n := by
      rw [signed, if_pos rfl]
      omega
    have hminus := hdigits true
    rwa [hsigned] at hminus
  · have hsigned : signed false n.natAbs = n := by
      rw [signed, if_neg Bool.false_ne_true]
      omega
    have hplain := hdigits false
    rwa [hsigned] at hplain

end TransferBucket.Json

namespace TransferBucket

/-! ## Values that JSON can tell -/

/-- A value that JSON can tell. -/
inductive Value.IsJson : Value → Prop
  | null : IsJson .null
  | bool (b : Bool) : IsJson (.bool b)
  | int {n : Int} (h : isWritable n) : IsJson (.int n)
  | text (s : String) : IsJson (.text s)
  | list {vs : List Value} (h : ∀ v ∈ vs, IsJson v) : IsJson (.list vs)
  | record {fields : List (String × Value)} (hnames : (fields.map (·.1)).Nodup)
    (h : ∀ f ∈ fields, IsJson f.2) : IsJson (.record fields)

/-- A mapping with texts as keys, no two the same, is made of its entries. -/
theorem Value.ofEntries_record {fields : List (String × Value)} (h : (fields.map (·.1)).Nodup) :
    ofEntries (fields.map fun f => (.text f.1, f.2)) = fields.map fun f => (.text f.1, f.2) := by
  have hnew : ∀ (name : String) (v : Value) (done : List (String × Value)),
      name ∉ done.map (·.1) → insert (.text name) v (done.map fun f => (.text f.1, f.2)) =
        (done ++ [(name, v)]).map fun f => (.text f.1, f.2) := by
    intro name v done hname
    induction done with
    | nil => rfl
    | cons f done ih =>
      rw [List.map_cons, List.mem_cons, not_or] at hname
      rw [List.map_cons, insert, sameKey_text, beq_false_of_ne (Ne.symm hname.1),
        if_neg Bool.false_ne_true, ih hname.2]
      rfl
  suffices hgo : ∀ rest done : List (String × Value), ((done ++ rest).map (·.1)).Nodup →
      (rest.map fun f => (Value.text f.1, f.2)).foldl (fun m e => insert e.1 e.2 m)
        (done.map fun f => (Value.text f.1, f.2)) =
        (done ++ rest).map fun f => (Value.text f.1, f.2) by
    exact hgo fields [] h
  intro rest
  induction rest with
  | nil => intro done _; rw [List.append_nil]; rfl
  | cons f rest ih =>
    intro done hnodup
    have hname : f.1 ∉ done.map (·.1) := by
      rw [List.map_append, List.map_cons, List.nodup_middle, List.nodup_cons] at hnodup
      exact fun hm => hnodup.1 (List.mem_append_left _ hm)
    rw [List.map_cons, List.foldl_cons, hnew f.1 f.2 done hname,
      ih (done ++ [f]) (by simpa using hnodup), List.append_assoc, List.singleton_append]

namespace Json

/-! ## Layouts -/

theorem isBlank_break (l : Layout) (level : Nat) : IsBlank (l.break level) := by
  intro c h
  cases l with
  | line => cases h
  | indented step =>
    rcases List.mem_cons.1 h with rfl | h
    · rfl
    · rw [List.eq_of_mem_replicate h]
      rfl

/-- After a comma come only blanks. -/
theorem exists_separator (l : Layout) (level : Nat) :
    ∃ blank, l.separator level = ',' :: blank ∧ IsBlank blank := by
  cases l with
  | line => exact ⟨[' '], rfl, by simp [IsBlank, isSpace]⟩
  | indented step => exact ⟨_, rfl, isBlank_break (.indented step) level⟩

/-! ## Values -/

section Items

variable {l : Layout} {level : Nat} {closing : List Char}

/-- The items of a list stand one after the other. -/
theorem writesItems_render {v : Value} {vs : List Value}
    (h : ∀ w ∈ v :: vs, Writes (render l level w) w) (hclosing : IsBlank closing) :
    WritesItems (render l level v ++ (renderItems l level vs ++ closing)) (v :: vs) := by
  induction vs generalizing v with
  | nil =>
    exact .single ⟨[], render l level v, closing, v, isBlank_nil, hclosing⟩ (h v List.mem_cons_self)
  | cons w ws ih =>
    obtain ⟨blank, hsep, hblank⟩ := exists_separator l level
    have hrest := ih fun u hu => h u (List.mem_cons_of_mem _ hu)
    have hfirst := WritesItems.cons ⟨[], render l level v, [], v, isBlank_nil, isBlank_nil⟩
      (h v List.mem_cons_self) (hrest.indent hblank)
    simpa [renderItems, hsep, Part.text] using hfirst

/-- The member of an object that an entry is written as. -/
def memberOf (l : Layout) (level : Nat) (name : String) (v : Value) (closing : List Char)
    (hclosing : IsBlank closing) : Member where
  before := []
  body := name.toList.flatMap writeChar
  units := name.toList.flatMap units
  gap := []
  part := ⟨[' '], render l level v, closing, v, by simp [IsBlank, isSpace], hclosing⟩
  before_blank := isBlank_nil
  gap_blank := isBlank_nil
  named := writesUnits_write name.toList

theorem memberOf_text (name : String) (v : Value) (hclosing : IsBlank closing) :
    (memberOf l level name v closing hclosing).text =
      writeString name.toList ++ (':' :: ' ' :: (render l level v ++ closing)) := by
  simp [memberOf, Member.text, Part.text, writeString]

theorem memberOf_entry (name : String) (v : Value) (hclosing : IsBlank closing) :
    (memberOf l level name v closing hclosing).entry = (.text name, v) := by
  rw [Member.entry, Member.name, memberOf, joinHalves_flatMap, String.ofList_toList]

/-- The entries of a mapping stand one after the other. -/
theorem writesEntries_render {name : String} {v : Value} {fields : List (String × Value)}
    (h : ∀ f ∈ (name, v) :: fields, Writes (render l level f.2) f.2) (hclosing : IsBlank closing) :
    WritesEntries (writeString name.toList ++ (':' :: ' ' :: (render l level v ++
      (renderEntries l level (fields.map fun f => (.text f.1, f.2)) ++ closing))))
      (((name, v) :: fields).map fun f => (.text f.1, f.2)) := by
  induction fields generalizing name v with
  | nil =>
    have hlast := WritesEntries.single (memberOf l level name v closing hclosing)
      (h _ List.mem_cons_self)
    rwa [memberOf_text, memberOf_entry] at hlast
  | cons g fields ih =>
    obtain ⟨w, x⟩ := g
    obtain ⟨blank, hsep, hblank⟩ := exists_separator l level
    have hrest := ih fun u hu => h u (List.mem_cons_of_mem _ hu)
    have hfirst := WritesEntries.cons (memberOf l level name v [] isBlank_nil)
      (h _ List.mem_cons_self) (hrest.indent hblank)
    rw [memberOf_text, memberOf_entry] at hfirst
    simpa [renderEntries, keyText, hsep] using hfirst

end Items

/-- **What is written is a text of the grammar.** -/
theorem Writes.of_isJson {v : Value} (h : v.IsJson) (l : Layout) (level : Nat) :
    Writes (render l level v) v := by
  induction h generalizing level with
  | null => exact .word (by simp [render, words])
  | bool b => cases b <;> exact .word (by simp [render, words])
  | int h => exact .number (writesNumber_writeInt h)
  | text s =>
    have hstring := writes_writeString s.toList
    rwa [String.ofList_toList] at hstring
  | @list vs h ih =>
    cases vs with
    | nil => exact .noItems isBlank_nil
    | cons v vs =>
      have hitems := writesItems_render (fun w hw => ih w hw (level + 1)) (isBlank_break l level)
      simpa [render] using (hitems.indent (isBlank_break l (level + 1))).writes
  | @record fields hnames h ih =>
    have hrecord := Value.ofEntries_record hnames
    rw [Value.record]
    cases fields with
    | nil => exact .noMembers isBlank_nil
    | cons f fields =>
      have hentries :=
        writesEntries_render (fun g hg => ih g hg (level + 1)) (isBlank_break l level)
      have hobject := (hentries.indent (isBlank_break l (level + 1))).writes
      rw [hrecord] at hobject
      simpa [render, keyText] using hobject

/-- **What is written is read.** The text of a value that JSON can tell, in every layout, is read as
the value. -/
theorem decode_render {v : Value} (h : v.IsJson) (l : Layout) : decode (render l 0 v) = .ok v :=
  decode_eq_ok_iff.2 ⟨⟨[], render l 0 v, [], v, isBlank_nil, isBlank_nil⟩, Writes.of_isJson h l 0,
    by simp [Part.text], rfl⟩

theorem obstacle?_eq_none {v : Value} (h : v.IsJson) : obstacle? v = none := by
  induction h with
  | null => rfl
  | bool b => rfl
  | int h => rw [obstacle?, numberObstacle?, if_pos h]
  | text s => rfl
  | @list vs h ih =>
    rw [obstacle?]
    clear h
    induction vs with
    | nil => rfl
    | cons v vs ihvs =>
      rw [itemObstacle?, ih v List.mem_cons_self, Option.none_or]
      exact ihvs fun w hw => ih w (List.mem_cons_of_mem _ hw)
  | @record fields hnames h ih =>
    rw [Value.record, obstacle?]
    clear h hnames
    induction fields with
    | nil => rfl
    | cons f fields ihfs =>
      rw [List.map_cons, entryObstacle?, ih f List.mem_cons_self]
      exact ihfs fun w hw => ih w (List.mem_cons_of_mem _ hw)

/-- A value that JSON can tell is written. -/
theorem encode_of_isJson {v : Value} (h : v.IsJson) (l : Layout) :
    encode l v = .ok (render l 0 v) := by
  rw [encode, obstacle?_eq_none h]

end Json

end TransferBucket
