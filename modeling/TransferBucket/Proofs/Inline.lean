import TransferBucket.Proofs.Chain
import TransferBucket.Proofs.Encoding

/-!
# Inlined and stored texts

**Theorem (`inlined_agrees_with_stored`).** Take a text that the vault gives for a key. An address
whose only source is the text inlined as a token, and one whose only source is the key of the
token, lead to the same end: the same credentials, or the same failure. The same holds for key
files, if the text shows their mark; and the same contents are handed over to be loaded.

Inlining (`inlined`) writes the bytes of a text in printable letters, and reading gives the text
back (`decodeInline_inlined`). From there on both ways go through the same reader, which sees
nothing of a session but the plan for the call that loads a key file, and the vault makes no such
call.
-/

namespace TransferBucket

open Session

/-! ## Inlining -/

/-- A text as it is inlined: the printable text of its bytes. -/
def inlined (content : String) : String :=
  String.ofList (Base64.encode (Utf8.encode content.toList))

/-- **What is inlined is read back.** -/
theorem decodeInline_inlined (problem : CredentialProblem) (content : String) :
    decodeInline problem (.text (inlined content)) = .ok content := by
  have hascii : (inlined content).toList.all fun c => c.toNat < 128 := by
    simpa [inlined] using Base64.isAscii_of_mem_encode (Utf8.encode content.toList)
  rw [decodeInline, if_pos hascii, inlined, String.toList_ofList, Base64.decode?_encode]
  dsimp only
  rw [Utf8.decode_encode]
  dsimp only
  rw [String.ofList_toList]

theorem inlined_ne_empty {content : String} (h : content ≠ "") : inlined content ≠ "" := by
  intro hempty
  have hread := decodeInline_inlined .tokenEncoding content
  rw [hempty] at hread
  exact h (Except.ok.inj hread).symm

/-! ## One source only -/

/-- One slot of an address holds a text, and all others hold nothing. -/
def Address.HasOnly (a : Address) (p : Slot) (text : String) : Prop :=
  p.value a = .text text ∧ ∀ q : Slot, q ≠ p → (q.value a).isTruthy = false

namespace Address.HasOnly

variable {a : Address} {p : Slot} {text : String}

theorem given? (h : a.HasOnly p text) (htext : text ≠ "") :
    p.source.given? a = some (.text text) := by
  have hpresent : (Value.text text).present? = some (.text text) := by
    simp [Value.present?, Value.isTruthy, htext]
  obtain ⟨hp, hothers⟩ := h
  cases p with
  | key =>
    rw [Slot.source, Source.given?, show a.keyName = _ from hp, hpresent]
  | tokenKey =>
    have hkey : a.keyName.isTruthy = false := hothers .key Slot.noConfusion
    rw [Slot.source, Source.given?, Value.present?, hkey, show a.property _ = _ from hp, hpresent]
    rfl
  | tokenValue => rw [Slot.source, Source.given?, show a.property _ = _ from hp, hpresent]
  | keyFileKey => rw [Slot.source, Source.given?, show a.property _ = _ from hp, hpresent]
  | keyFileValue => rw [Slot.source, Source.given?, show a.property _ = _ from hp, hpresent]

theorem given?_of_ne (h : a.HasOnly p text) {source : Source} (hne : source ≠ p.source) :
    source.given? a = none := by
  rw [← Option.not_isSome_iff_eq_none, Source.isSome_given?_iff]
  rintro ⟨q, rfl, hq⟩
  rw [h.2 q (fun hqp => hne (hqp ▸ rfl))] at hq
  cases hq

theorem credentials (h : a.HasOnly p text) (htext : text ≠ "") {order : List Source}
    (horder : p.source ∈ order) : a.credentials order = p.source.credentials (.text text) := by
  induction order with
  | nil => cases horder
  | cons first rest ih =>
    rw [Address.credentials]
    by_cases hfirst : first = p.source
    · rw [hfirst, h.given? htext]
    · rw [h.given?_of_ne hfirst]
      exact ih (List.mem_of_ne_of_mem (Ne.symm hfirst) horder)

end Address.HasOnly

/-! ## The same end -/

/-- Two searches for credentials from one session meet: they end alike, and the second makes the
same calls as the first, once it has asked the vault for a key. -/
structure MeetAfter (key : Value) (x y : Action Session Failure Credentials) (s : Session) :
    Prop where
  ending : (x s).1 = (y s).1
  calls : ∃ cs, (x s).2.calls = s.calls ++ cs ∧
    (y s).2.calls = (Vault.resolve key s).2.calls ++ cs

/-- The calls that the text of a key file leads to. -/
def keyFileCalls (content : String) : List Call :=
  match Json.decode content.toList with
  | .error _ => []
  | .ok info => [.loadKeyFile info platformScopes]

namespace Credentials

theorem ofTokenText_calls (content : String) (s : Session) :
    (ofTokenText content s).2.calls = s.calls := by
  have h : Permits (fun s t : Session => t.calls = s.calls) [] :=
    ⟨fun _ => rfl, fun h₁ h₂ => h₂.trans h₁, fun _ _ _ => rfl, fun _ _ hc => nomatch hc⟩
  exact ofTokenText_along h content s

theorem ofKeyFileText_calls (content : String) (s : Session) :
    (ofKeyFileText content s).2.calls = s.calls ++ keyFileCalls content := by
  rw [ofKeyFileText, info, Action.bind_of_ok (note_apply _ _ s), keyFileCalls]
  rcases Json.decode content.toList with e | contents
  · exact (List.append_nil _).symm
  · dsimp only
    rw [Action.mapError_apply, Remote.loadKeyFile_apply]
    rfl

end Credentials

section Meeting

variable {content : String} {key : Value} {s : Session}

theorem Vault.require_of_resolve (h : (resolve key s).1 = .ok (some content)) (hc : content ≠ "") :
    require key s = (.ok content, (resolve key s).2) := by
  have hrun : resolve key s = (.ok (some content), (resolve key s).2) := Prod.ext h rfl
  rw [require, Action.bind_of_ok hrun]
  exact congrFun (if_neg hc) _

/-- **A token inlined and a token in the vault.** -/
theorem Source.token_meetAfter (h : (Vault.resolve key s).1 = .ok (some content))
    (hc : content ≠ "") :
    MeetAfter key (inlineToken.credentials (.text (inlined content)))
      (vaultToken.credentials key) s := by
  have hinline : inlineToken.credentials (.text (inlined content)) s =
      Credentials.ofTokenText content s :=
    Action.bind_of_ok (congrArg (Action.ofExcept · s) (decodeInline_inlined .tokenEncoding content))
  have hvault : vaultToken.credentials key s =
      Credentials.ofTokenText content (Vault.resolve key s).2 :=
    Action.bind_of_ok (Vault.require_of_resolve h hc)
  refine ⟨?_, [], ?_, ?_⟩
  · rw [hinline, hvault, Credentials.ofTokenText_fst, Credentials.ofTokenText_fst]
  · rw [hinline, Credentials.ofTokenText_calls, List.append_nil]
  · rw [hvault, Credentials.ofTokenText_calls, List.append_nil]

/-- **A key file inlined and a key file in the vault.** -/
theorem Source.keyFile_meetAfter (h : (Vault.resolve key s).1 = .ok (some content))
    (hc : content ≠ "") (hmark : occursIn keyFileMark.toList content.toList) :
    MeetAfter key (inlineKeyFile.credentials (.text (inlined content)))
      (vaultKeyFile.credentials key) s := by
  have hinline : inlineKeyFile.credentials (.text (inlined content)) s =
      Credentials.ofKeyFileText content s :=
    (Action.bind_of_ok (congrArg (Action.ofExcept · s)
      (decodeInline_inlined .keyFileEncoding content))).trans (congrFun (if_pos hmark) s)
  have hvault : vaultKeyFile.credentials key s =
      Credentials.ofKeyFileText content (Vault.resolve key s).2 :=
    Action.bind_of_ok (Vault.require_of_resolve h hc)
  -- the vault takes no plan for the call that loads a key file
  have hplan : (Vault.resolve key s).2.fault? .loadKeyFile = s.fault? .loadKeyFile := by
    have hcalls := Vault.require_calls key s
    rw [Vault.require_of_resolve h hc] at hcalls
    exact hcalls.fault?_eq (by decide)
  refine ⟨?_, keyFileCalls content, ?_, ?_⟩
  · rw [hinline, hvault, Credentials.ofKeyFileText_fst, Credentials.ofKeyFileText_fst, hplan]
  · rw [hinline, Credentials.ofKeyFileText_calls]
  · rw [hvault, Credentials.ofKeyFileText_calls]

end Meeting

/-- **What is inlined agrees with what is stored.** -/
theorem inlined_agrees_with_stored {content key : String} (hc : content ≠ "") (hk : key ≠ "")
    {s : Session} (h : (Vault.resolve (.text key) s).1 = .ok (some content))
    {order : List Source} (horder : ∀ source, source ∈ order) (inline keyed : Address) :
    (inline.HasOnly .tokenValue (inlined content) →
      keyed.HasOnly .key key ∨ keyed.HasOnly .tokenKey key →
        MeetAfter (.text key) (inline.credentials order) (keyed.credentials order) s) ∧
    (occursIn keyFileMark.toList content.toList →
      inline.HasOnly .keyFileValue (inlined content) → keyed.HasOnly .keyFileKey key →
        MeetAfter (.text key) (inline.credentials order) (keyed.credentials order) s) := by
  have hinlined := inlined_ne_empty hc
  refine ⟨fun hinline hkeyed => ?_, fun hmark hinline hkeyed => ?_⟩
  · have hvault : keyed.credentials order = Source.vaultToken.credentials (.text key) :=
      hkeyed.elim (·.credentials hk (horder _)) (·.credentials hk (horder _))
    rw [hinline.credentials hinlined (horder _), hvault]
    exact Source.token_meetAfter h hc
  · rw [hinline.credentials hinlined (horder _), hkeyed.credentials hk (horder _)]
    exact Source.keyFile_meetAfter h hc hmark

/-- A key file with a letter beyond ASCII, inlined and in the vault: it is loaded from both. -/
theorem inlined_agrees_with_stored_beyond_ascii :
    let content := "\x7b\"type\": \"service_account\", \"owner\": \"Zoë 🔑\"\x7d"
    let s : Session := {
      cloud := { secrets := [
        ("projects/p1/secrets/f/versions/latest", Utf8.encode content.toList)] }
      vault := { kind := .secrets (.text "p1") false } }
    let inline : Address :=
      { properties := [(.text Property.keyFileValue, .text (inlined content))] }
    let keyed : Address := { properties := [(.text Property.keyFileKey, .text "f")] }
    MeetAfter (.text "f") (inline.credentials Source.defaultOrder)
      (keyed.credentials Source.defaultOrder) s ∧
      (keyed.credentials Source.defaultOrder s).1.isOk := by
  intro content s inline keyed
  have hresolve : (Vault.resolve (.text "f") s).1 = .ok (some content) := by
    decide +kernel +zetaReduce
  have horder : ∀ source, source ∈ Source.defaultOrder := by
    intro source
    cases source <;> decide
  refine ⟨(inlined_agrees_with_stored (by decide) (by decide) hresolve horder inline keyed).2
    (by decide +kernel) ⟨rfl, ?_⟩ ⟨rfl, ?_⟩, by decide +kernel +zetaReduce⟩
  · intro q hq
    cases q <;> first | rfl | exact absurd rfl hq
  · intro q hq
    cases q <;> first | rfl | exact absurd rfl hq

end TransferBucket
