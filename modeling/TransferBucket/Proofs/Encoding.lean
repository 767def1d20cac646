import Mathlib.Tactic.SplitIfs
import TransferBucket.Text.Base64
import TransferBucket.Text.Utf8

/-!
# Texts, bytes and printable text

**Texts** (`Utf8.decode_eq_ok_iff`). Bytes are read as a text exactly if they are the bytes of the
text. A character of two bytes or more is written in groups of six bits, each in a byte that
continues; the lead byte alone says how many follow, and no character is overlong, a surrogate or
too high. So what was put together from bytes that agree is written in the same bytes.

**Bytes** (`Base64.decode?_eq_some_iff`). Bytes are read from groups of four letters, the last of
which may be padded (`Base64.Writes`), and also from whole groups that padding they do not need
stands behind (`Base64.WritesOver`); and from nothing else. All of it is plain ASCII.

**Printable text** (`Base64.decode?_encode`). The printable text of bytes writes them, whatever
number of bytes the last group has; so it is read as those bytes.
-/

namespace TransferBucket

/-! ## Characters in bytes -/

namespace Utf8

theorem toNat_byte {n : Nat} (h : n < 256) : (byte n).toNat = n := UInt8.toNat_ofNat_of_lt' h

theorem byte_beq {m n : Nat} (hm : m < 256) (hn : n < 256) :
    (byte m == byte n) = decide (m = n) := by
  rw [Bool.eq_iff_iff, beq_iff_eq, decide_eq_true_eq]
  refine ⟨fun h => ?_, fun h => h ▸ rfl⟩
  have hnat := congrArg UInt8.toNat h
  rwa [toNat_byte hm, toNat_byte hn] at hnat

theorem isContinuation_byte (n : Nat) : isContinuation (byte (0x80 + n % 0x40)) = true := by
  rw [isContinuation, toNat_byte (by omega)]
  simp only [Bool.and_eq_true, decide_eq_true_eq]
  omega

theorem low_byte (n : Nat) : low (byte (0x80 + n % 0x40)) = n % 0x40 := by
  rw [low, toNat_byte (by omega)]
  omega

/-- Six bits agree with a lead byte unless they make the character overlong, a surrogate or too
high. -/
theorem secondFits_byte {m n : Nat} (hm : m < 256)
    (h : (m = 0xe0 → 0x20 ≤ n % 0x40) ∧ (m = 0xed → n % 0x40 < 0x20) ∧
      (m = 0xf0 → 0x10 ≤ n % 0x40) ∧ (m = 0xf4 → n % 0x40 < 0x10)) :
    secondFits (byte m) (byte (0x80 + n % 0x40)) = true := by
  have he0 : (0xe0 : UInt8) = byte 0xe0 := rfl
  have hed : (0xed : UInt8) = byte 0xed := rfl
  have hf0 : (0xf0 : UInt8) = byte 0xf0 := rfl
  have hf4 : (0xf4 : UInt8) = byte 0xf4 := rfl
  rw [secondFits, isContinuation_byte, toNat_byte (by omega), he0, hed, hf0, hf4,
    byte_beq hm (by decide), byte_beq hm (by decide), byte_beq hm (by decide),
    byte_beq hm (by decide)]
  simp only [Bool.true_and, Bool.and_eq_true, Bool.not_eq_true', Bool.and_eq_false_iff,
    decide_eq_false_iff_not]
  omega

/-- The bytes of a character are read as the character, whatever bytes follow. -/
theorem decodeFrom_encodeChar (c : Char) (rest : List UInt8) (offset : Nat) :
    decodeFrom offset (encodeChar c ++ rest) =
      (decodeFrom (offset + (encodeChar c).length) rest).map (c :: ·) := by
  have hc : c.toNat < 0xd800 ∨ 0xdfff < c.toNat ∧ c.toNat < 0x110000 := c.valid
  have hback : ∀ n, n = c.toNat → Char.ofNat n = c := fun n hn => hn ▸ Char.ofNat_toNat c
  unfold encodeChar
  dsimp only
  split_ifs with h₁ h₂ h₃
  · rw [List.singleton_append, decodeFrom.eq_def]
    dsimp only
    rw [toNat_byte (by omega), if_pos h₁, hback _ rfl]
    rfl
  · rw [List.cons_append, List.singleton_append, decodeFrom.eq_def]
    dsimp only
    rw [toNat_byte (by omega), if_neg (by omega), if_neg (by simp; omega), if_pos (by omega),
      isContinuation_byte, if_pos rfl, low_byte, hback _ (by omega)]
    rfl
  · rw [List.cons_append, List.cons_append, List.singleton_append, decodeFrom.eq_def]
    dsimp only
    rw [toNat_byte (by omega), if_neg (by omega), if_neg (by simp; omega), if_neg (by omega),
      secondFits_byte (by omega) (by omega), isContinuation_byte, if_neg (by simp),
      if_neg (by simp), if_pos (by omega), low_byte, low_byte, hback _ (by omega)]
    rfl
  · rw [List.cons_append, List.cons_append, List.cons_append, List.singleton_append,
      decodeFrom.eq_def]
    dsimp only
    rw [toNat_byte (by omega), if_neg (by omega), if_neg (by simp; omega), if_neg (by omega),
      secondFits_byte (by omega) (by omega), isContinuation_byte, isContinuation_byte,
      if_neg (by simp), if_neg (by simp), if_neg (by omega), if_neg (by simp),
      low_byte, low_byte, low_byte, hback _ (by omega)]
    rfl

theorem decodeFrom_encode (cs : List Char) (offset : Nat) :
    decodeFrom offset (encode cs) = .ok cs := by
  induction cs generalizing offset with
  | nil => rw [encode, List.flatMap_nil, decodeFrom]
  | cons c cs ih =>
    rw [encode, List.flatMap_cons, decodeFrom_encodeChar, ← encode, ih]
    rfl

/-- **The bytes of a text are read as the text.** -/
theorem decode_encode (cs : List Char) : decode (encode cs) = .ok cs := decodeFrom_encode cs 0

/-! ### Bytes that are a text -/

theorem byte_toNat (b : UInt8) : byte b.toNat = b := UInt8.ofNat_toNat

theorem isContinuation_iff {b : UInt8} :
    isContinuation b = true ↔ 0x80 ≤ b.toNat ∧ b.toNat < 0xc0 := by
  rw [isContinuation, Bool.and_eq_true, decide_eq_true_eq, decide_eq_true_eq]

theorem beq_eq_decide_toNat (a : UInt8) {n : Nat} (hn : n < 256) :
    (a == byte n) = decide (a.toNat = n) := by
  rw [← byte_beq a.toNat_lt hn, byte_toNat]

/-- A second byte that agrees with the first continues, and makes the character neither overlong,
nor a surrogate, nor too high. -/
theorem secondFits_iff {a b : UInt8} : secondFits a b = true ↔
    (0x80 ≤ b.toNat ∧ b.toNat < 0xc0) ∧ (a.toNat = 0xe0 → 0xa0 ≤ b.toNat) ∧
      (a.toNat = 0xed → b.toNat < 0xa0) ∧ (a.toNat = 0xf0 → 0x90 ≤ b.toNat) ∧
      (a.toNat = 0xf4 → b.toNat < 0x90) := by
  have he0 : (0xe0 : UInt8) = byte 0xe0 := rfl
  have hed : (0xed : UInt8) = byte 0xed := rfl
  have hf0 : (0xf0 : UInt8) = byte 0xf0 := rfl
  have hf4 : (0xf4 : UInt8) = byte 0xf4 := rfl
  rw [secondFits, he0, hed, hf0, hf4, beq_eq_decide_toNat a (by decide),
    beq_eq_decide_toNat a (by decide), beq_eq_decide_toNat a (by decide),
    beq_eq_decide_toNat a (by decide)]
  simp only [Bool.and_eq_true, isContinuation_iff, Bool.not_eq_true', Bool.and_eq_false_iff,
    decide_eq_false_iff_not]
  omega

section Back

variable {n : Nat} {a b c d : UInt8}

theorem toNat_ofNat (h : n < 0xd800 ∨ 0xdfff < n ∧ n < 0x110000) : (Char.ofNat n).toNat = n := by
  rw [Char.ofNat, dif_pos (show n.isValidChar from h)]
  rfl

theorem byte_eq {b : UInt8} (h : n = b.toNat) : byte n = b := h ▸ byte_toNat b

/-- The bytes that were put together to a character are those that it is written in. -/
theorem encodeChar_one (ha : a.toNat < 0x80) : encodeChar (Char.ofNat a.toNat) = [a] := by
  rw [encodeChar, toNat_ofNat (by omega), if_pos ha, byte_toNat]

theorem encodeChar_two (ha : 0xc2 ≤ a.toNat ∧ a.toNat < 0xe0)
    (hb : 0x80 ≤ b.toNat ∧ b.toNat < 0xc0) :
    encodeChar (Char.ofNat ((a.toNat - 0xc0) * 0x40 + low b)) = [a, b] := by
  have hlow : low b = b.toNat - 0x80 := by
    rw [low]
    omega
  rw [encodeChar, hlow, toNat_ofNat (by omega), if_neg (by omega), if_pos (by omega),
    byte_eq (b := a) (by omega), byte_eq (b := b) (by omega)]

theorem encodeChar_three (ha : 0xe0 ≤ a.toNat ∧ a.toNat < 0xf0) (hb : secondFits a b = true)
    (hc : 0x80 ≤ c.toNat ∧ c.toNat < 0xc0) :
    encodeChar (Char.ofNat ((a.toNat - 0xe0) * 0x1000 + low b * 0x40 + low c)) = [a, b, c] := by
  rw [secondFits_iff] at hb
  have hlow : low b = b.toNat - 0x80 ∧ low c = c.toNat - 0x80 := by
    rw [low, low]
    omega
  rw [encodeChar, hlow.1, hlow.2, toNat_ofNat (by omega), if_neg (by omega), if_neg (by omega),
    if_pos (by omega), byte_eq (b := a) (by omega), byte_eq (b := b) (by omega),
    byte_eq (b := c) (by omega)]

theorem encodeChar_four (ha : 0xf0 ≤ a.toNat ∧ a.toNat < 0xf5) (hb : secondFits a b = true)
    (hc : 0x80 ≤ c.toNat ∧ c.toNat < 0xc0) (hd : 0x80 ≤ d.toNat ∧ d.toNat < 0xc0) :
    encodeChar (Char.ofNat ((a.toNat - 0xf0) * 0x40000 + low b * 0x1000 + low c * 0x40 + low d)) =
      [a, b, c, d] := by
  rw [secondFits_iff] at hb
  have hlow : low b = b.toNat - 0x80 ∧ low c = c.toNat - 0x80 ∧ low d = d.toNat - 0x80 := by
    rw [low, low, low]
    omega
  rw [encodeChar, hlow.1, hlow.2.1, hlow.2.2, toNat_ofNat (by omega), if_neg (by omega),
    if_neg (by omega), if_neg (by omega), byte_eq (b := a) (by omega), byte_eq (b := b) (by omega),
    byte_eq (b := c) (by omega), byte_eq (b := d) (by omega)]

end Back

theorem encode_of_map_cons {x : Char} {xs : List UInt8} {rest : List UInt8} {cs : List Char}
    {r : Except Malformed (List Char)} (hx : encodeChar x = xs)
    (ih : ∀ {cs}, r = .ok cs → encode cs = rest) (h : r.map (x :: ·) = .ok cs) :
    encode cs = xs ++ rest := by
  rcases r with e | ds <;> cases h
  rw [encode, List.flatMap_cons, hx, ← ih rfl, encode]

/-- What is read one character after the other is what the characters are written in. -/
theorem encode_of_decodeFrom {offset : Nat} {bs : List UInt8} {cs : List Char}
    (h : decodeFrom offset bs = .ok cs) : encode cs = bs := by
  fun_induction decodeFrom offset bs generalizing cs with
  | case1 => cases h; rfl
  | case2 _ a _ ha ih => exact encode_of_map_cons (encodeChar_one ha) ih h
  | case5 _ a _ hstart b _ hshort hb ih =>
    simp only [Bool.or_eq_true, decide_eq_true_eq] at hstart
    exact encode_of_map_cons (encodeChar_two (by omega) (isContinuation_iff.1 hb)) ih h
  | case10 _ a _ hstart b hlong hfits c _ hc hthree ih =>
    simp only [Bool.not_eq_true', Bool.not_eq_false, isContinuation_iff] at hfits hc
    exact encode_of_map_cons (encodeChar_three (by omega) hfits hc) ih h
  | case13 _ a _ hstart b hlong hfits c hc hfour d _ hd ih =>
    simp only [Bool.or_eq_true, decide_eq_true_eq] at hstart
    simp only [Bool.not_eq_true', Bool.not_eq_false, isContinuation_iff] at hfits hc hd
    exact encode_of_map_cons (encodeChar_four (by omega) hfits hc hd) ih h
  | _ => cases h

/-- **Bytes are read as a text exactly if they are the bytes of the text.** -/
theorem decode_eq_ok_iff {bs : List UInt8} {cs : List Char} :
    decode bs = .ok cs ↔ bs = encode cs :=
  ⟨fun h => (encode_of_decodeFrom h).symm, fun h => h ▸ decode_encode cs⟩

end Utf8

/-! ## Bytes in letters -/

namespace Base64

theorem value?_letter : ∀ n < 64, value? (letter n) = some n := by decide +kernel

theorem letter_ne_pad : ∀ n < 64, letter n ≠ '=' := by
  intro n hn hpad
  have hvalue := value?_letter n hn
  rw [hpad, show value? '=' = none by decide] at hvalue
  cases hvalue

theorem letter_isAscii : ∀ n < 64, (letter n).toNat < 128 := by decide +kernel

theorem ofNat_eq {b : UInt8} {n : Nat} (h : n = b.toNat) : UInt8.ofNat n = b := by
  rw [h, UInt8.ofNat_toNat]

/-- A character with a value is the letter with that value. -/
theorem letter_of_value? {c : Char} {n : Nat} (h : value? c = some n) : n < 64 ∧ c = letter n := by
  have hupper : ∀ n < 26, Char.ofNat (n + 'A'.toNat) = letter n := by decide
  have hlower : ∀ n < 26, Char.ofNat (n + 'a'.toNat) = letter (n + 26) := by decide
  have hdigit : ∀ n < 10, Char.ofNat (n + '0'.toNat) = letter (n + 52) := by decide
  have hback : ∀ m k, k ≤ c.toNat → m = c.toNat - k → c = Char.ofNat (m + k) := by
    rintro m k hk rfl
    rw [Nat.sub_add_cancel hk, Char.ofNat_toNat]
  have hspan : 'Z'.toNat = 'A'.toNat + 25 ∧ 'z'.toNat = 'a'.toNat + 25 ∧
    '9'.toNat = '0'.toNat + 9 := by decide
  unfold value? at h
  dsimp only at h
  split_ifs at h with hA ha h0 hplus hslash <;> cases h
  · exact ⟨by omega, (hback _ _ hA.1 rfl).trans (hupper _ (by omega))⟩
  · exact ⟨by omega, (hback _ _ ha.1 rfl).trans (hlower _ (by omega))⟩
  · exact ⟨by omega, (hback _ _ h0.1 rfl).trans (hdigit _ (by omega))⟩
  · exact ⟨by decide, hplus⟩
  · exact ⟨by decide, hslash⟩

/-- Groups of four letters, and the bytes that they write: the digits of the same numbers, to base
64 and to base 256. -/
inductive WritesGroups : List Char → List UInt8 → Prop
  | nil : WritesGroups [] []
  | cons {x y z w : Nat} {a b c : UInt8} {cs : List Char} {bs : List UInt8}
    (hletters : x < 64 ∧ y < 64 ∧ z < 64 ∧ w < 64)
    (hbits : ((x * 64 + y) * 64 + z) * 64 + w = (a.toNat * 256 + b.toNat) * 256 + c.toNat)
    (h : WritesGroups cs bs) :
    WritesGroups (letter x :: letter y :: letter z :: letter w :: cs) (a :: b :: c :: bs)

/-- A last group of two or three letters, with padding, if there is one. The bits that its bytes do
not need may be anything. -/
inductive WritesLast : List Char → List UInt8 → Prop
  | none : WritesLast [] []
  | two {x y : Nat} {a : UInt8} (hletters : x < 64 ∧ y < 64)
    (hbits : (x * 64 + y) / 16 = a.toNat) : WritesLast [letter x, letter y, '=', '='] [a]
  | three {x y z : Nat} {a b : UInt8} (hletters : x < 64 ∧ y < 64 ∧ z < 64)
    (hbits : ((x * 64 + y) * 64 + z) / 4 = a.toNat * 256 + b.toNat) :
    WritesLast [letter x, letter y, letter z, '='] [a, b]

/-- A text that writes bytes: groups, and perhaps a last one with padding. -/
inductive Writes : List Char → List UInt8 → Prop
  | mk {cs ds : List Char} {as bs : List UInt8} (hgroups : WritesGroups cs as)
    (hlast : WritesLast ds bs) : Writes (cs ++ ds) (as ++ bs)

/-- A text that writes bytes, but for padding that its groups do not need. -/
inductive WritesOver : List Char → List UInt8 → Prop
  | mk {cs : List Char} {bs : List UInt8} (hgroups : WritesGroups cs bs) (hne : cs ≠ []) (n : Nat) :
    WritesOver (cs ++ List.replicate (n + 1) '=') bs

section Reading

variable {cs ds : List Char} {as bs : List UInt8}

theorem WritesGroups.decodeGroups_append (h : WritesGroups cs bs) (rest : List Char) :
    decodeGroups (cs ++ rest) = (decodeGroups rest).map (bs ++ ·) := by
  induction h with
  | nil => exact Option.map_id'.symm
  | @cons x y z w a b c cs bs hletters hbits h ih =>
    have ha := a.toNat_lt
    have hb := b.toNat_lt
    have hc := c.toNat_lt
    obtain ⟨hx, hy, hz, hw⟩ := hletters
    rw [List.cons_append, List.cons_append, List.cons_append, List.cons_append,
      decodeGroups.eq_def]
    simp (disch := omega) only [letter_ne_pad, value?_letter, ↓reduceIte, ih, Option.map_map]
    rw [ofNat_eq (b := a) (by omega), ofNat_eq (b := b) (by omega), ofNat_eq (b := c) (by omega)]
    rfl

theorem WritesLast.decodeGroups_eq (h : WritesLast ds bs) : decodeGroups ds = some bs := by
  cases h with
  | none => rfl
  | @two x y a hletters hbits =>
    obtain ⟨hx, hy⟩ := hletters
    rw [decodeGroups.eq_def]
    simp (disch := omega) only [letter_ne_pad, value?_letter, ↓reduceIte, and_self]
    rw [ofNat_eq (b := a) (by omega)]
  | @three x y z a b hletters hbits =>
    have ha := a.toNat_lt
    have hb := b.toNat_lt
    obtain ⟨hx, hy, hz⟩ := hletters
    rw [decodeGroups.eq_def]
    simp (disch := omega) only [letter_ne_pad, value?_letter, ↓reduceIte]
    rw [ofNat_eq (b := a) (by omega), ofNat_eq (b := b) (by omega)]

theorem decodeGroups_replicate (n : Nat) : decodeGroups (List.replicate n '=') = some [] := by
  cases n with
  | zero => rfl
  | succ n =>
    rw [List.replicate_succ, decodeGroups.eq_def]
    simp

/-- What the reader of groups takes: groups, and then a last one or only padding. -/
theorem groups_of_decodeGroups (h : decodeGroups cs = some bs) :
    ∃ groups tail as es, WritesGroups groups as ∧ cs = groups ++ tail ∧ bs = as ++ es ∧
      (WritesLast tail es ∨ es = [] ∧ ∃ n, tail = List.replicate (n + 1) '=') := by
  have hnat : ∀ {n}, n < 256 → (UInt8.ofNat n).toNat = n := UInt8.toNat_ofNat_of_lt'
  fun_induction decodeGroups cs generalizing bs with
  | case1 => cases h; exact ⟨[], [], [], [], .nil, rfl, rfl, .inl .none⟩
  | case2 rest hpad =>
    cases h
    have hall : rest = List.replicate rest.length '=' :=
      List.eq_replicate_of_mem fun c hc => by simpa using List.all_eq_true.1 hpad c hc
    exact ⟨[], _, [], [], .nil, rfl, rfl, .inr ⟨rfl, rest.length, congrArg _ hall⟩⟩
  | case4 a _ b d rest x y hy hx hd =>
    cases h
    obtain ⟨hx', rfl⟩ := letter_of_value? hx
    obtain ⟨hy', rfl⟩ := letter_of_value? hy
    obtain ⟨rfl, rfl⟩ := hd
    exact ⟨[], _, [], _, .nil, rfl, rfl, .inl (.two ⟨hx', hy'⟩ (by rw [hnat] <;> omega))⟩
  | case7 a _ b c x y hy hx _ z hz =>
    cases h
    obtain ⟨hx', rfl⟩ := letter_of_value? hx
    obtain ⟨hy', rfl⟩ := letter_of_value? hy
    obtain ⟨hz', rfl⟩ := letter_of_value? hz
    exact ⟨[], _, [], _, .nil, rfl, rfl,
      .inl (.three ⟨hx', hy', hz'⟩ (by rw [hnat, hnat] <;> omega))⟩
  | case10 a _ b c d rest x y hy hx _ z hz _ w hw ih =>
    obtain ⟨bytes, hrest, rfl⟩ := Option.map_eq_some_iff.1 h
    obtain ⟨groups, tail, as, es, hgroups, rfl, rfl, htail⟩ := ih hrest
    obtain ⟨hx', rfl⟩ := letter_of_value? hx
    obtain ⟨hy', rfl⟩ := letter_of_value? hy
    obtain ⟨hz', rfl⟩ := letter_of_value? hz
    obtain ⟨hw', rfl⟩ := letter_of_value? hw
    exact ⟨_, tail, _, es, .cons ⟨hx', hy', hz', hw'⟩ (by rw [hnat, hnat, hnat] <;> omega) hgroups,
      rfl, rfl, htail⟩
  | _ => cases h

theorem WritesGroups.head?_append (h : WritesGroups cs bs) (hne : cs ≠ []) (rest : List Char) :
    (cs ++ rest).head? ≠ some '=' := by
  cases h with
  | nil => exact absurd rfl hne
  | cons hletters => exact fun h => letter_ne_pad _ hletters.1 (Option.some.inj h)

theorem WritesGroups.isAscii (h : WritesGroups cs bs) : ∀ c ∈ cs, c.toNat < 128 := by
  induction h with
  | nil => exact List.forall_mem_nil _
  | cons hletters _ _ ih =>
    obtain ⟨hx, hy, hz, hw⟩ := hletters
    simp only [List.forall_mem_cons]
    exact ⟨letter_isAscii _ hx, letter_isAscii _ hy, letter_isAscii _ hz, letter_isAscii _ hw, ih⟩

theorem WritesLast.isAscii (h : WritesLast ds bs) : ∀ c ∈ ds, c.toNat < 128 := by
  have hpad : ('=' : Char).toNat < 128 := by decide
  cases h with
  | none => exact List.forall_mem_nil _
  | two hletters =>
    simp only [List.forall_mem_cons, hpad, List.not_mem_nil, false_imp_iff, implies_true, and_true]
    exact ⟨letter_isAscii _ hletters.1, letter_isAscii _ hletters.2⟩
  | three hletters =>
    simp only [List.forall_mem_cons, hpad, List.not_mem_nil, false_imp_iff, implies_true, and_true]
    exact ⟨letter_isAscii _ hletters.1, letter_isAscii _ hletters.2.1,
      letter_isAscii _ hletters.2.2⟩

/-- What writes bytes is plain ASCII. -/
theorem Writes.isAscii (h : Writes cs bs) : ∀ c ∈ cs, c.toNat < 128 := by
  obtain ⟨hgroups, hlast⟩ := h
  exact fun c hc => (List.mem_append.1 hc).elim (hgroups.isAscii c) (hlast.isAscii c)

theorem WritesOver.isAscii (h : WritesOver cs bs) : ∀ c ∈ cs, c.toNat < 128 := by
  obtain ⟨hgroups, -, n⟩ := h
  refine fun c hc => (List.mem_append.1 hc).elim (hgroups.isAscii c) fun hpad => ?_
  rw [List.eq_of_mem_replicate hpad]
  decide

/-- **Bytes are read from what writes them, and from that with padding behind it.** -/
theorem decode?_eq_some_iff : decode? cs = some bs ↔ Writes cs bs ∨ WritesOver cs bs := by
  constructor
  · intro h
    rw [decode?] at h
    split_ifs at h with hhead
    obtain ⟨groups, tail, as, es, hgroups, rfl, rfl, hlast | ⟨rfl, n, rfl⟩⟩ :=
      groups_of_decodeGroups h
    · exact .inl (.mk hgroups hlast)
    · have hne : groups ≠ [] := by
        rintro rfl
        exact hhead rfl
      rw [List.append_nil]
      exact .inr (.mk hgroups hne n)
  · rintro (⟨hgroups, hlast⟩ | ⟨hgroups, hne, n⟩)
    · rename_i groups tail as es
      have hhead : (groups ++ tail).head? ≠ some '=' := by
        by_cases hne : groups = []
        · subst hne
          cases hlast with
          | none => nofun
          | two hletters => exact fun h => letter_ne_pad _ hletters.1 (Option.some.inj h)
          | three hletters => exact fun h => letter_ne_pad _ hletters.1 (Option.some.inj h)
        · exact hgroups.head?_append hne tail
      rw [decode?, if_neg hhead, hgroups.decodeGroups_append, hlast.decodeGroups_eq]
      rfl
    · rw [decode?, if_neg (hgroups.head?_append hne _), hgroups.decodeGroups_append,
        decodeGroups_replicate]
      exact congrArg some (List.append_nil _)

/-- What is read is plain ASCII. -/
theorem isAscii_of_decode? (h : decode? cs = some bs) : ∀ c ∈ cs, c.toNat < 128 :=
  (decode?_eq_some_iff.1 h).elim Writes.isAscii WritesOver.isAscii

end Reading

/-! ### Texts that are printed -/

theorem Writes.cons {x y z w : Nat} {a b c : UInt8} {cs : List Char} {bs : List UInt8}
    (hletters : x < 64 ∧ y < 64 ∧ z < 64 ∧ w < 64)
    (hbits : ((x * 64 + y) * 64 + z) * 64 + w = (a.toNat * 256 + b.toNat) * 256 + c.toNat)
    (h : Writes cs bs) :
    Writes (letter x :: letter y :: letter z :: letter w :: cs) (a :: b :: c :: bs) := by
  obtain ⟨hgroups, hlast⟩ := h
  exact .mk (.cons hletters hbits hgroups) hlast

/-- The letters of a group carry six bits each; the bits that a short group does not use are
zero. -/
theorem writes_encode (bs : List UInt8) : Writes (encode bs) bs := by
  fun_induction encode bs with
  | case1 => exact .mk .nil .none
  | case2 a =>
    have ha := a.toNat_lt
    exact .mk .nil (.two (by omega) (by omega))
  | case3 a b =>
    have ha := a.toNat_lt
    have hb := b.toNat_lt
    exact .mk .nil (.three (by omega) (by omega))
  | case4 a b c rest ih =>
    have ha := a.toNat_lt
    have hb := b.toNat_lt
    have hc := c.toNat_lt
    exact .cons (by omega) (by omega) ih

/-- **The printable text of bytes is read as the bytes.** -/
theorem decode?_encode (bs : List UInt8) : decode? (encode bs) = some bs :=
  decode?_eq_some_iff.2 (.inl (writes_encode bs))

theorem isAscii_of_mem_encode (bs : List UInt8) : ∀ c ∈ encode bs, c.toNat < 128 :=
  (writes_encode bs).isAscii

end Base64

end TransferBucket
