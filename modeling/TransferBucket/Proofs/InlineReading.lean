import TransferBucket.Proofs.Inline

/-!
# Inline values

**Theorem (`inline_values_by_grammar`).** Take a value that is given inline and is not empty, with
no source before it. If it writes the bytes of a text, be it with padding that it does not need, the
search for credentials runs as the reader of that text does. A value with a character beyond ASCII
ends the search with the failure of the value itself, and every other value with the problem that it
is not decodable. Where the search fails so, the session is left as it was: nothing is called, and
no default credentials are looked for.

**Decoding** (`decodeInline_eq_ok_iff`). The texts that a value is decoded to are those whose bytes
it writes: bytes are read from what writes them (`Base64.decode?_eq_some_iff`), and texts from their
bytes (`Utf8.decode_eq_ok_iff`).

**Kinds** (`InlineKind`). Tokens and key files are decoded alike. They differ in the slot, in the
problem, and in how the text is gone on with.
-/

namespace TransferBucket

open Session

/-! ## Decoding -/

/-- A value is written in groups of letters for a text. -/
def IsInlined (v content : String) : Prop :=
  Base64.Writes v.toList (Utf8.encode content.toList)

/-- A value is written for a text, but for padding that its groups do not need. -/
def IsOverpadded (v content : String) : Prop :=
  Base64.WritesOver v.toList (Utf8.encode content.toList)

section Decoding

variable {problem : CredentialProblem} {v content : String}

theorem decodeInline_of_ascii (h : ∀ c ∈ v.toList, c.toNat < 128) :
    decodeInline problem (.text v) = match Base64.decode? v.toList with
      | none => .error (.credential problem)
      | some bytes => match Utf8.decode bytes with
        | .ok cs => .ok (String.ofList cs)
        | .error _ => .error (.credential problem) :=
  if_pos (by simpa using h)

theorem decodeInline_of_not_ascii (h : ∃ c ∈ v.toList, 128 ≤ c.toNat) :
    decodeInline problem (.text v) = .error (.value .notAscii) := by
  obtain ⟨c, hc, hbeyond⟩ := h
  refine if_neg fun hall => ?_
  have hascii := List.all_eq_true.1 hall c hc
  rw [decide_eq_true_eq] at hascii
  omega

/-- **A value is decoded to the texts that it is written for.** -/
theorem decodeInline_eq_ok_iff : decodeInline problem (.text v) = .ok content ↔
    IsInlined v content ∨ IsOverpadded v content := by
  rw [IsInlined, IsOverpadded, ← Base64.decode?_eq_some_iff]
  constructor
  · intro h
    by_cases hascii : ∀ c ∈ v.toList, c.toNat < 128
    · rw [decodeInline_of_ascii hascii] at h
      split at h
      · cases h
      · rename_i bytes hbytes
        split at h
        · rename_i cs hcs
          cases h
          rw [hbytes, Utf8.decode_eq_ok_iff.1 hcs, String.toList_ofList]
        · cases h
    · simp only [not_forall, Nat.not_lt, exists_prop] at hascii
      rw [decodeInline_of_not_ascii hascii] at h
      cases h
  · intro h
    rw [decodeInline_of_ascii (Base64.isAscii_of_decode? h), h]
    dsimp only
    rw [Utf8.decode_encode]
    exact congrArg Except.ok String.ofList_toList

-- padding behind a whole group, which does not need it
example : decodeInline .tokenEncoding (.text "YWJj=") = .ok "abc" := by decide +kernel

theorem decodeInline_of_ascii_of_not (hascii : ∀ c ∈ v.toList, c.toNat < 128)
    (h : ∀ content, ¬(IsInlined v content ∨ IsOverpadded v content)) :
    decodeInline problem (.text v) = .error (.credential problem) := by
  have hread : ∀ content, decodeInline problem (.text v) ≠ .ok content := fun content hok =>
    h content (decodeInline_eq_ok_iff.1 hok)
  rw [decodeInline_of_ascii hascii] at hread ⊢
  rcases hbytes : Base64.decode? v.toList with _ | bytes
  · rfl
  · rw [hbytes] at hread
    dsimp only at hread ⊢
    rcases hcs : Utf8.decode bytes with m | cs
    · rfl
    · rw [hcs] at hread
      exact absurd rfl (hread _)

end Decoding

/-! ## Kinds -/

/-- What is given inline: a token or a key file. -/
inductive InlineKind where
  | token
  | keyFile
  deriving DecidableEq, Repr

namespace InlineKind

/-- The slot of an address that holds a value of the kind. -/
def slot : InlineKind → Slot
  | .token => .tokenValue
  | .keyFile => .keyFileValue

/-- The problem of a value of the kind that is not decodable. -/
def problem : InlineKind → CredentialProblem
  | .token => .tokenEncoding
  | .keyFile => .keyFileEncoding

/-- How the text of a value of the kind is gone on with. -/
def parse (k : InlineKind) (content : String) : Action Session Failure Credentials :=
  match k with
  | .token => Credentials.ofTokenText content
  | .keyFile =>
    if occursIn keyFileMark.toList content.toList then Credentials.ofKeyFileText content
    else .fail (.credential .noKeyFileMark)

theorem credentials_eq (k : InlineKind) (given : Value) :
    k.slot.source.credentials given =
      (Action.ofExcept (decodeInline k.problem given) >>= k.parse) := by
  cases k <;> rfl

theorem given?_eq (k : InlineKind) {a : Address} {v : String} (hv : v ≠ "")
    (h : k.slot.value a = .text v) : k.slot.source.given? a = some (.text v) := by
  have hpresent : (Value.text v).present? = some (.text v) := by
    simp [Value.present?, Value.isTruthy, hv]
  cases k <;> exact (congrArg Value.present? h).trans hpresent

end InlineKind

/-- **Inline values are read by their grammar.** -/
theorem inline_values_by_grammar (k : InlineKind) {a : Address} {v : String} (hv : v ≠ "")
    (hvalue : k.slot.value a = .text v) {before after : List Source}
    (hbefore : ∀ earlier ∈ before, earlier.given? a = none) (s : Session) :
    (∀ content, IsInlined v content ∨ IsOverpadded v content →
      a.credentials (before ++ k.slot.source :: after) s = k.parse content s) ∧
    ((∃ c ∈ v.toList, 128 ≤ c.toNat) →
      a.credentials (before ++ k.slot.source :: after) s = (.error (.value .notAscii), s)) ∧
    ((∀ c ∈ v.toList, c.toNat < 128) →
      (∀ content, ¬(IsInlined v content ∨ IsOverpadded v content)) →
        a.credentials (before ++ k.slot.source :: after) s =
          (.error (.credential k.problem), s)) ∧
    ∃ subject, (Failure.credential k.problem).message =
      subject ++ " value is not valid base64." := by
  have hrun : a.credentials (before ++ k.slot.source :: after) =
      (Action.ofExcept (decodeInline k.problem (.text v)) >>= k.parse) := by
    rw [Address.credentials_of_first hbefore (k.given?_eq hv hvalue), k.credentials_eq]
  rw [hrun]
  refine ⟨fun content h => ?_, fun h => ?_, fun hascii h => ?_, ?_⟩
  · rw [decodeInline_eq_ok_iff.2 h]
    rfl
  · rw [decodeInline_of_not_ascii h]
    rfl
  · rw [decodeInline_of_ascii_of_not hascii h]
    rfl
  · cases k
    · exact ⟨"The access token", rfl⟩
    · exact ⟨"The service account", rfl⟩

/-- A token that is written in one group, and the same token without its padding; neither the
vault's token nor anything later stands in the address. -/
theorem inline_values_by_grammar_padding :
    let s : Session := { vault := { kind := .environment } }
    let a (v : String) : Address := { properties := [(.text Property.tokenValue, .text v)] }
    (IsInlined "W10=" "[]" ∧
      (a "W10=").credentials Source.defaultOrder s = Credentials.ofTokenText "[]" s) ∧
    ((∀ content, ¬(IsInlined "W10" content ∨ IsOverpadded "W10" content)) ∧
      (a "W10").credentials Source.defaultOrder s =
        (.error (.credential .tokenEncoding), s)) := by
  intro s a
  have hbefore : ∀ v, ∀ earlier ∈ [Source.vaultToken], earlier.given? (a v) = none := by
    intro v earlier hm
    rw [List.mem_singleton.1 hm]
    rfl
  have hwritten : IsInlined "W10=" "[]" :=
    .mk .nil (.three (x := 22) (y := 53) (z := 52) (by decide) (by decide))
  have hnone : ∀ content, ¬(IsInlined "W10" content ∨ IsOverpadded "W10" content) := by
    intro content h
    have hrefused : decodeInline .tokenEncoding (.text "W10") =
        .error (.credential .tokenEncoding) := by decide +kernel
    rw [decodeInline_eq_ok_iff.2 h] at hrefused
    cases hrefused
  have hascii : ∀ c ∈ "W10".toList, c.toNat < 128 := by simp
  exact ⟨⟨hwritten, (inline_values_by_grammar .token (by decide) rfl (hbefore _) s).1 "[]"
      (.inl hwritten)⟩,
    hnone, (inline_values_by_grammar .token (by decide) rfl (hbefore _) s).2.2.1 hascii hnone⟩

/-- Not every value that is written for no text is refused as not decodable. -/
theorem inline_value_beyond_ascii :
    ¬ ∀ v, v ≠ "" → (∀ content, ¬IsInlined v content) →
      (Address.credentials Source.defaultOrder
        { properties := [(.text Property.tokenValue, .text v)] }
        { vault := { kind := .environment } }).1 = .error (.credential .tokenEncoding) := by
  intro h
  have hnone : ∀ content, ¬IsInlined "é" content := fun content hwritten =>
    absurd (hwritten.isAscii 'é' (by decide +kernel)) (by decide)
  have hrefused := h "é" (by decide) hnone
  revert hrefused
  decide +kernel

end TransferBucket
