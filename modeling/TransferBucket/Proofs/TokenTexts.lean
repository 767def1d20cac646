import Mathlib.Data.List.Induction
import TransferBucket.Proofs.Entries
import TransferBucket.Proofs.Expiration
import TransferBucket.Proofs.JsonRoundTrip
import TransferBucket.Token

/-!
# Texts of access tokens

**Theorem (`AccessToken.read_by_grammar`).** A text is read as a token exactly if it is written as
that token (`AccessToken.IsWritten`): an object whose last member with the name of the secret is a
text that is not empty, and whose last member with the name of the end makes the whole number. Where
there is a secret of any kind, and the end is an infinity, reading breaks off with the failure of a
number out of range. Every other text is refused as no token.

**Theorem (`AccessToken.text_round_trip`).** The text of a token with a secret is read as the token,
if its end has no more digits than may be read; so is the text of every token that was read.

**Members.** Of members with the same name the last one counts (`Json.LastNamed`), because a mapping
keeps what was put in last (`Json.field?_ofEntries_iff`).

**Whole numbers** (`Value.Makes`). Truth values make zero and one, whole numbers themselves, finite
numbers lose their fraction, and texts are read by the grammar of whole numbers. What is made of a
value that stands in a text can be written again (`Value.Makes.isWritable`): a text has only so many
digits, and a floating-point number has far fewer.
-/

namespace TransferBucket

/-! ## Members of objects -/

namespace Json

/-- The value of the last member with a name. -/
def LastNamed (ms : List Member) (name : String) (v : Value) : Prop :=
  ∃ older m newer, ms = older ++ m :: newer ∧ m.name = name ∧ m.part.value = v ∧
    ∀ q ∈ newer, q.name ≠ name

theorem lastNamed_append_iff {ms : List Member} {m : Member} {name : String} {v : Value} :
    LastNamed (ms ++ [m]) name v ↔
      if m.name = name then m.part.value = v else LastNamed ms name v := by
  constructor
  · rintro ⟨older, n, newer, hms, hname, hvalue, hnewer⟩
    rcases List.eq_nil_or_concat newer with rfl | ⟨newer, last, rfl⟩
    · obtain ⟨-, hlast⟩ := List.append_inj' hms rfl
      obtain rfl := (List.cons.inj hlast).1
      rw [if_pos hname]
      exact hvalue
    · rw [List.concat_eq_append, ← List.cons_append, ← List.append_assoc] at hms
      obtain ⟨rfl, hlast⟩ := List.append_inj' hms rfl
      obtain rfl := (List.cons.inj hlast).1
      rw [List.concat_eq_append] at hnewer
      rw [if_neg (hnewer m (by simp))]
      exact ⟨older, n, newer, rfl, hname, hvalue, fun q hq => hnewer q (by simp [hq])⟩
  · intro h
    split_ifs at h with hname
    · exact ⟨ms, m, [], rfl, hname, h, nofun⟩
    · obtain ⟨older, n, newer, rfl, hn, hvalue, hnewer⟩ := h
      refine ⟨older, n, newer ++ [m], by simp, hn, hvalue, fun q hq => ?_⟩
      rcases List.mem_append.1 hq with hq | hq
      · exact hnewer q hq
      · rw [List.mem_singleton.1 hq]
        exact hname

theorem not_lastNamed_nil {name : String} {v : Value} : ¬ LastNamed [] name v := by
  rintro ⟨older, m, newer, h, -⟩
  simp at h

/-- **Of members with the same name the last one counts.** -/
theorem field?_ofEntries_iff {ms : List Member} {name : String} {v : Value} :
    Value.field? name (Value.ofEntries (ms.map Member.entry)) = some v ↔ LastNamed ms name v := by
  induction ms using List.reverseRecOn with
  | nil => exact iff_of_false nofun not_lastNamed_nil
  | append_singleton ms m ih =>
    have hlast : Value.ofEntries ((ms ++ [m]).map Member.entry) =
        Value.insert (.text m.name) m.part.value (Value.ofEntries (ms.map Member.entry)) := by
      simp [Value.ofEntries, Member.entry]
    rw [hlast, Value.field?_insert, lastNamed_append_iff]
    split_ifs with hname
    · exact Option.some_inj
    · exact ih

/-- What stands between the braces of an object. -/
inductive WritesMembers : List Char → List Member → Prop
  | none {blank : List Char} (h : IsBlank blank) : WritesMembers blank []
  | some {m : Member} {ms : List Member} (h : ∀ q ∈ m :: ms, Writes q.part.core q.part.value) :
    WritesMembers (commas m.text (ms.map Member.text)) (m :: ms)

/-- A text is an object with these members, between blanks. -/
inductive WritesObject : List Char → List Member → Prop
  | mk {before inside after : List Char} {ms : List Member} (hbefore : IsBlank before)
    (h : WritesMembers inside ms) (hafter : IsBlank after) :
    WritesObject (before ++ ('{' :: (inside ++ ['}']) ++ after)) ms

/-- The values of members are written in them. -/
theorem WritesObject.writes {cs : List Char} {ms : List Member} (h : WritesObject cs ms)
    {name : String} {v : Value} (hv : LastNamed ms name v) : ∃ core, Writes core v := by
  obtain ⟨-, hmembers, -⟩ := h
  obtain ⟨older, m, newer, hms, -, rfl, -⟩ := hv
  have hm : m ∈ ms := by simp [hms]
  cases hmembers with
  | none => cases hm
  | some h => exact ⟨_, h m hm⟩

/-- **Objects are read as their members say.** -/
theorem decode_eq_mapping_iff {cs : List Char} {m : Mapping} :
    decode cs = .ok (.mapping m) ↔
      ∃ ms, WritesObject cs ms ∧ m = Value.ofEntries (ms.map Member.entry) := by
  rw [decode_eq_ok_iff]
  constructor
  · rintro ⟨⟨before, core, after, v, hbefore, hafter⟩, hwrites, rfl, rfl⟩
    cases hwrites with
    | word h => simp [words] at h
    | number h => cases h
    | noMembers h => exact ⟨[], .mk hbefore (.none h) hafter, rfl⟩
    | object h => exact ⟨_, .mk hbefore (.some h) hafter, rfl⟩
  · rintro ⟨ms, ⟨hbefore, hmembers, hafter⟩, rfl⟩
    cases hmembers with
    | none h => exact ⟨⟨_, _, _, _, hbefore, hafter⟩, .noMembers h, rfl, rfl⟩
    | some h => exact ⟨⟨_, _, _, _, hbefore, hafter⟩, .object h, rfl, rfl⟩

end Json

/-! ## Whole numbers that values make -/

namespace Value

open Literal (signed WritesWhole)

/-- The whole number that a value makes. -/
inductive Makes : Value → Int → Prop
  | bool (b : Bool) : Makes (.bool b) (if b then 1 else 0)
  | int (n : Int) : Makes (.int n) n
  | float {negative : Bool} {m : Nat} {e : Int} :
    Makes (.float (.finite negative m e)) (signed negative (Binary64.wholePart m e))
  | text {s : String} {n : Int} (h : WritesWhole s.toList n) : Makes (.text s) n

theorem truncate?_finite (negative : Bool) (m : Nat) (e : Int) :
    (Binary64.finite negative m e).truncate? =
      some (signed negative (Binary64.wholePart m e)) := by
  simp only [Binary64.truncate?, Binary64.toRatio?, Option.map_some, Binary64.wholePart, signed]
  cases negative with
  | true => simp [Int.neg_tdiv]
  | false => simp

variable {v : Value} {n : Int}

theorem toWhole_eq_ok_iff : v.toWhole = .ok n ↔ v.Makes n := by
  constructor
  · intro h
    unfold toWhole at h
    split at h
    · cases h
      exact .bool _
    · cases h
      exact .int n
    · cases h
    · rename_i x _
      cases x with
      | nan => cases h
      | infinite negative => cases h
      | finite negative m e =>
        rw [truncate?_finite] at h
        cases h
        exact .float
    · rename_i s
      rcases hs : TransferBucket.wholeNumber s.toList with e | m <;> rw [hs] at h <;> cases h
      exact .text (wholeNumber_eq_ok_iff.1 hs)
    · cases h
  · rintro (b | n | _ | h)
    · rfl
    · rfl
    · rw [toWhole, truncate?_finite]
      nofun
    · rw [toWhole, wholeNumber_eq_ok_iff.2 h]
      rfl

theorem toWhole_eq_infinite_iff :
    v.toWhole = .error .infinite ↔ ∃ negative, v = .float (.infinite negative) := by
  constructor
  · intro h
    unfold toWhole at h
    split at h
    · cases h
    · cases h
    · exact ⟨_, rfl⟩
    · split at h <;> cases h
    · rename_i s
      rcases hs : TransferBucket.wholeNumber s.toList with e | m <;> rw [hs] at h <;> cases h
    · cases h
  · rintro ⟨negative, rfl⟩
    rfl

end Value

/-- A decimal has few enough digits left of its point. -/
theorem Binary64.isWritable_truncate?_ofDecimal {negative : Bool} {ws fs : List Nat} {e n : Int}
    (h : (ofDecimal negative ws fs e).truncate? = some n) : isWritable n := by
  unfold ofDecimal at h
  dsimp only at h
  split_ifs at h
  · exact isWritable_of_truncate?_ofRatio Nat.one_pos h
  · cases h
  · exact isWritable_of_truncate?_ofRatio Nat.one_pos h
  · exact isWritable_of_truncate?_ofRatio Nat.one_pos h
  · exact isWritable_of_truncate?_ofRatio (Nat.pow_pos (by decide)) h

theorem Json.lt_ten_of_mem_digitValues {cs : List Char} (h : ∀ c ∈ cs, isDigit c) :
    ∀ d ∈ digitValues cs, d < 10 := by
  intro d hd
  obtain ⟨c, hc, rfl⟩ := List.mem_map.1 hd
  have hrange := h c hc
  simp only [isDigit, Bool.and_eq_true, decide_eq_true_eq] at hrange
  have hhigh : c.toNat ≤ '9'.toNat := hrange.2
  have hnine : '9'.toNat = '0'.toNat + 9 := rfl
  omega

/-- **What is made of a value that was read can be written.** -/
theorem Value.Makes.isWritable {core : List Char} {v : Value} {n : Int} (h : v.Makes n)
    (hcore : Json.Writes core v) : isWritable n := by
  cases h with
  | bool b => cases b <;> decide
  | int =>
    cases hcore with
    | word h => simp [Json.words] at h
    | number h =>
      obtain ⟨-, hds, hlength⟩ := h
      rw [isWritable_iff, Literal.natAbs_signed]
      refine Nat.lt_of_lt_of_le (ofDigits_lt (Json.lt_ten_of_mem_digitValues hds.digits)) ?_
      rw [Json.digitValues, List.length_map]
      exact Nat.pow_le_pow_right (by decide) hlength
  | @float negative m e =>
    have hwhole := truncate?_finite negative m e
    cases hcore with
    | word h => simp [Json.words] at h
    | number h =>
      generalize hx : Binary64.finite negative m e = x at h hwhole
      cases h
      exact Binary64.isWritable_truncate?_ofDecimal hwhole
  | text h => exact isWritable_iff.2 h.natAbs_lt

/-! ## Tokens -/

namespace AccessToken

/-- A text is written as a token. -/
def IsWritten (content : String) (t : AccessToken) : Prop :=
  ∃ ms expiration, Json.WritesObject content.toList ms ∧
    Json.LastNamed ms "token" (.text t.secret) ∧ t.secret ≠ "" ∧
    Json.LastNamed ms "expiration" expiration ∧ expiration.Makes t.expiration

/-- A text has a secret of some kind, and an end beyond all numbers. -/
def IsEndless (content : String) : Prop :=
  ∃ ms secret negative, Json.WritesObject content.toList ms ∧
    Json.LastNamed ms "token" secret ∧
    Json.LastNamed ms "expiration" (.float (.infinite negative))

section Reading

variable {content : String} {m : Mapping} {t : AccessToken}

theorem ofValue_mapping_eq_ok_iff : ofValue (.mapping m) = .ok t ↔
    Value.field? "token" m = some (.text t.secret) ∧ t.secret ≠ "" ∧
      ∃ v, Value.field? "expiration" m = some v ∧ v.toWhole = .ok t.expiration := by
  rw [ofValue]
  constructor
  · intro h
    split at h
    · rename_i secret v hsecret hv
      split at h
      · cases h
      · rename_i n hn
        split at h
        · split_ifs at h with hempty
          cases h
          exact ⟨hsecret, hempty, v, hv, hn⟩
        · cases h
    · cases h
  · rintro ⟨hsecret, hempty, v, hv, hn⟩
    simp only [hsecret, hv, hn, hempty, if_false]

theorem ofValue_mapping_eq_infinite_iff : ofValue (.mapping m) = .error .infinite ↔
    (∃ secret, Value.field? "token" m = some secret) ∧
      ∃ v, Value.field? "expiration" m = some v ∧ v.toWhole = .error .infinite := by
  rw [ofValue]
  constructor
  · intro h
    split at h
    · rename_i secret v hsecret hv
      split at h
      · rename_i e he
        cases h
        exact ⟨⟨secret, hsecret⟩, v, hv, he⟩
      · split at h
        · split_ifs at h
          cases h
        · cases h
    · cases h
  · rintro ⟨⟨secret, hsecret⟩, v, hv, he⟩
    simp only [hsecret, hv, he]

/-- What comes of a text, but for the refusal, comes of an object. -/
theorem ofText_eq_iff {r : Except TokenProblem AccessToken} (hr : r ≠ .error .format) :
    ofText content = r ↔
      ∃ m, Json.decode content.toList = .ok (.mapping m) ∧ ofValue (.mapping m) = r := by
  rw [ofText]
  constructor
  · intro h
    rcases hdecode : Json.decode content.toList with e | v <;> rw [hdecode] at h
    · exact absurd h.symm hr
    · cases v with
      | mapping m => exact ⟨m, rfl, h⟩
      | _ => exact absurd h.symm hr
  · rintro ⟨m, hdecode, h⟩
    rw [hdecode]
    exact h

theorem ofText_eq_ok_iff : ofText content = .ok t ↔ IsWritten content t := by
  rw [ofText_eq_iff (r := .ok t) nofun]
  simp only [Json.decode_eq_mapping_iff, ofValue_mapping_eq_ok_iff, Value.toWhole_eq_ok_iff]
  constructor
  · rintro ⟨_, ⟨ms, hobject, rfl⟩, hsecret, hempty, v, hv, hn⟩
    exact ⟨ms, v, hobject, Json.field?_ofEntries_iff.1 hsecret, hempty,
      Json.field?_ofEntries_iff.1 hv, hn⟩
  · rintro ⟨ms, v, hobject, hsecret, hempty, hv, hn⟩
    exact ⟨_, ⟨ms, hobject, rfl⟩, Json.field?_ofEntries_iff.2 hsecret, hempty, v,
      Json.field?_ofEntries_iff.2 hv, hn⟩

theorem ofText_eq_infinite_iff : ofText content = .error .infinite ↔ IsEndless content := by
  rw [ofText_eq_iff (r := .error .infinite) nofun]
  simp only [Json.decode_eq_mapping_iff, ofValue_mapping_eq_infinite_iff,
    Value.toWhole_eq_infinite_iff]
  constructor
  · rintro ⟨_, ⟨ms, hobject, rfl⟩, ⟨secret, hsecret⟩, v, hv, negative, rfl⟩
    exact ⟨ms, secret, negative, hobject, Json.field?_ofEntries_iff.1 hsecret,
      Json.field?_ofEntries_iff.1 hv⟩
  · rintro ⟨ms, secret, negative, hobject, hsecret, hv⟩
    exact ⟨_, ⟨ms, hobject, rfl⟩, ⟨secret, Json.field?_ofEntries_iff.2 hsecret⟩, _,
      Json.field?_ofEntries_iff.2 hv, negative, rfl⟩

/-- **What is read as a token, and how reading fails.** -/
theorem read_by_grammar (content : String) :
    (∀ t, ofText content = .ok t ↔ IsWritten content t) ∧
    ((ofText content).mapError TokenProblem.failure = .error (.range .infinity) ↔
      IsEndless content) ∧
    ((ofText content).mapError TokenProblem.failure = .error (.credential .tokenFormat) ↔
      (∀ t, ¬ IsWritten content t) ∧ ¬ IsEndless content) ∧
    (Failure.credential .tokenFormat).message =
      "The access token is not in the expected format." := by
  refine ⟨fun t => ofText_eq_ok_iff, ?_⟩
  rw [← and_assoc]
  refine ⟨?_, rfl⟩
  simp only [← ofText_eq_ok_iff, ← ofText_eq_infinite_iff]
  rcases ofText content with (_ | _) | t
  · exact ⟨iff_of_false nofun nofun, iff_of_true rfl ⟨nofun, nofun⟩⟩
  · exact ⟨iff_of_true rfl rfl, iff_of_false nofun fun h => h.2 rfl⟩
  · exact ⟨iff_of_false nofun nofun, iff_of_false nofun fun h => h.1 t rfl⟩

/-- Not every text is read as a token or refused as none. -/
theorem infinite_end_out_of_range :
    ¬ ∀ content, (∃ t, ofText content = .ok t) ∨
      (ofText content).mapError TokenProblem.failure = .error (.credential .tokenFormat) := by
  intro h
  have hread : ofText "\x7b\"token\": \"abc\", \"expiration\": Infinity\x7d" =
      .error .infinite := by decide +kernel
  rcases h "\x7b\"token\": \"abc\", \"expiration\": Infinity\x7d" with ⟨t, ht⟩ | hrefused
  · rw [hread] at ht
    cases ht
  · rw [hread] at hrefused
    cases hrefused

end Reading

theorem isJson_toValue {t : AccessToken} (h : isWritable t.expiration) : t.toValue.IsJson := by
  refine .record (by simp) fun f hf => ?_
  simp only [List.mem_cons, List.not_mem_nil, or_false] at hf
  rcases hf with rfl | rfl
  · exact .text _
  · exact .int h

/-- A token with a secret is written, and read again, if its end can be written. -/
theorem ofText_toText {t : AccessToken} (hsecret : t.secret ≠ "") (h : isWritable t.expiration) :
    Json.encode .line t.toValue = .ok t.toText.toList ∧ ofText t.toText = .ok t := by
  have hjson := isJson_toValue h
  have htext : t.toText.toList = Json.render .line 0 t.toValue := String.toList_ofList
  refine ⟨by rw [Json.encode_of_isJson hjson, htext], ?_⟩
  rw [ofText, htext, Json.decode_render hjson]
  exact ofValue_mapping_eq_ok_iff.2 ⟨rfl, hsecret, _, rfl, rfl⟩

/-- **The text of a token is read as the token.** -/
theorem text_round_trip :
    (∀ t : AccessToken, t.secret ≠ "" → t.expiration.natAbs < 10 ^ digitLimit →
      Json.encode .line t.toValue = .ok t.toText.toList ∧ ofText t.toText = .ok t) ∧
    ∀ content t, ofText content = .ok t →
      Json.encode .line t.toValue = .ok t.toText.toList ∧ ofText t.toText = .ok t := by
  refine ⟨fun t hsecret h => ofText_toText hsecret (isWritable_iff.2 h), fun content t h => ?_⟩
  obtain ⟨ms, v, hobject, -, hsecret, hv, hn⟩ := ofText_eq_ok_iff.1 h
  obtain ⟨core, hcore⟩ := hobject.writes hv
  exact ofText_toText hsecret (hn.isWritable hcore)

/-- A secret beyond ASCII with an end before all calendars; and a text, not the one that is written,
with members of the same name and an end that is a text. -/
theorem text_round_trip_beyond_ascii :
    ("ключ🔑" ≠ "" ∧ (-9223372036854775809 : Int).natAbs < 10 ^ digitLimit ∧
      ofText (toText ⟨"ключ🔑", -9223372036854775809⟩) = .ok ⟨"ключ🔑", -9223372036854775809⟩) ∧
    ∃ content, content ≠ toText ⟨"к🔑", -12⟩ ∧ ofText content = .ok ⟨"к🔑", -12⟩ ∧
      ofText (toText ⟨"к🔑", -12⟩) = .ok ⟨"к🔑", -12⟩ := by
  have hsmall : (-9223372036854775809 : Int).natAbs < 10 ^ digitLimit :=
    isWritable_iff.1 (by decide)
  have hread : ofText (" \x7b\"token\": \"old\", \"more\": [1, \x7b\x7d], " ++
      "\"expiration\": \" -1_2\\n\", \"token\": \"\\u043a\\ud83d\\udd11\"\x7d\n") =
      .ok ⟨"к🔑", -12⟩ := by decide +kernel
  exact ⟨⟨by decide, hsmall, (text_round_trip.1 _ (by decide) hsmall).2⟩,
    _, by decide +kernel, hread, (text_round_trip.2 _ _ hread).2⟩

end AccessToken

end TransferBucket
