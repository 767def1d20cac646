import Mathlib.Data.List.Infix
import TransferBucket.Proofs.Sources

/-!
# The chain of sources

**Theorem (`first_source_decides`).** In every list of sources the first one present in an address
decides alone: the search for credentials runs as that source does on its own, whatever comes of
it, and never looks for default credentials. What stands in the slots of later sources does not
matter. Credentials come only of a text that is there, is not empty and is written as it should be;
with any other text the search fails. Where no source is present, the default credentials of the
surroundings are taken, and the vault is not asked.

**Slots** (`Slot`). A source is named by one slot of the address, that of the vault's tokens by
two. It is present where a text that is not empty stands in one of them (`Source.IsPresent`); for
addresses as their types say this is what the search looks at (`isPresent_iff`).

**Sources on their own** (`Source.alone`). A source on its own may find itself not present, and then
gives nothing. Trying one source after the other until one gives something is the search
(`credentials_eq_tryAll`); so what must be seen is that a source that is present never gives
nothing, on none of the ways in which it may go on.
-/

namespace TransferBucket

open Session

/-! ## Slots -/

/-- A slot of an address that may name a source. -/
inductive Slot where
  | key
  | tokenKey
  | tokenValue
  | keyFileKey
  | keyFileValue
  deriving DecidableEq, Repr

namespace Slot

/-- The source that a slot names. -/
def source : Slot → Source
  | .key => .vaultToken
  | .tokenKey => .vaultToken
  | .tokenValue => .inlineToken
  | .keyFileKey => .vaultKeyFile
  | .keyFileValue => .inlineKeyFile

/-- What stands in a slot of an address. -/
def value (a : Address) : Slot → Value
  | .key => a.keyName
  | .tokenKey => a.property Property.tokenKey
  | .tokenValue => a.property Property.tokenValue
  | .keyFileKey => a.property Property.keyFileKey
  | .keyFileValue => a.property Property.keyFileValue

end Slot

/-- An address as its types say: its properties are texts, and its key is one or is not set. -/
structure Address.IsTextual (a : Address) : Prop where
  keyName : a.keyName = .null ∨ ∃ t, a.keyName = .text t
  properties : ∀ e ∈ a.properties, ∃ t, e.2 = .text t

theorem Address.IsTextual.property {a : Address} (h : a.IsTextual) (name : String) :
    a.property name = .null ∨ ∃ t, a.property name = .text t := by
  rw [Address.property, Value.field, Value.field?]
  rcases hl : Value.lookup? (.text name) a.properties with _ | v
  · exact Or.inl rfl
  · obtain ⟨k, hk, -⟩ := Value.mem_of_lookup? hl
    exact Or.inr (h.properties _ hk)

theorem Address.IsTextual.value {a : Address} (h : a.IsTextual) (p : Slot) :
    p.value a = .null ∨ ∃ t, p.value a = .text t := by
  cases p with
  | key => exact h.keyName
  | _ => exact h.property _

namespace Source

variable {source : Source} {a b : Address} {before after order : List Source}

/-- A source is present where a text that is not empty stands in one of its slots. -/
def IsPresent (source : Source) (a : Address) : Prop :=
  ∃ p : Slot, p.source = source ∧ ∃ t, t ≠ "" ∧ p.value a = .text t

/-- What an address gives for a source lies in the slots of the source. -/
theorem given?_congr (h : ∀ p : Slot, p.source = source → p.value b = p.value a) :
    source.given? b = source.given? a := by
  cases source with
  | vaultToken =>
    have hkey : b.keyName = a.keyName := h .key rfl
    have hproperty : b.property Property.tokenKey = a.property Property.tokenKey := h .tokenKey rfl
    rw [given?, hkey, hproperty, ← given?]
  | inlineToken => exact congrArg Value.present? (h .tokenValue rfl)
  | vaultKeyFile => exact congrArg Value.present? (h .keyFileKey rfl)
  | inlineKeyFile => exact congrArg Value.present? (h .keyFileValue rfl)

theorem isSome_given?_iff :
    (source.given? a).isSome ↔ ∃ p : Slot, p.source = source ∧ (p.value a).isTruthy := by
  have hsome : ∀ v : Value, v.present?.isSome ↔ v.isTruthy := fun v => by simp [Value.present?]
  constructor
  · intro h
    cases source with
    | vaultToken =>
      by_cases hkey : a.keyName.isTruthy
      · exact ⟨.key, rfl, hkey⟩
      · rw [given?, Value.present?, if_neg hkey] at h
        exact ⟨.tokenKey, rfl, (hsome _).1 h⟩
    | inlineToken => exact ⟨.tokenValue, rfl, (hsome _).1 h⟩
    | vaultKeyFile => exact ⟨.keyFileKey, rfl, (hsome _).1 h⟩
    | inlineKeyFile => exact ⟨.keyFileValue, rfl, (hsome _).1 h⟩
  · rintro ⟨p, rfl, h⟩
    cases p with
    | key =>
      rw [Slot.source, given?, Value.present?, if_pos (show a.keyName.isTruthy from h)]
      rfl
    | tokenKey =>
      rw [Slot.source, given?]
      split
      · rfl
      · exact (hsome _).2 h
    | tokenValue => exact (hsome _).2 h
    | keyFileKey => exact (hsome _).2 h
    | keyFileValue => exact (hsome _).2 h

theorem isPresent_iff (h : a.IsTextual) : source.IsPresent a ↔ (source.given? a).isSome := by
  rw [isSome_given?_iff, IsPresent]
  refine exists_congr fun p => and_congr_right fun _ => ?_
  rcases h.value p with hnull | ⟨t, ht⟩
  · simp [hnull, Value.isTruthy]
  · simp [ht, Value.isTruthy]

theorem given?_of_isPresent (h : a.IsTextual) (hs : source.IsPresent a) :
    ∃ given, source.given? a = some given := Option.isSome_iff_exists.1 ((isPresent_iff h).1 hs)

theorem given?_of_not_isPresent (h : a.IsTextual) (hs : ¬source.IsPresent a) :
    source.given? a = none := by
  rwa [isPresent_iff h, Option.not_isSome_iff_eq_none] at hs

end Source

/-! ## Sources on their own -/

/-- A source on its own; it gives nothing where the address gives nothing for it. -/
def Source.alone (source : Source) (a : Address) : Action Session Failure (Option Credentials) :=
  match source.given? a with
  | none => pure none
  | some given => do
    let c ← source.credentials given
    pure (some c)

/-- One source after the other, until one gives something. -/
def Address.tryAll (a : Address) : List Source → Action Session Failure Credentials
  | [] => Credentials.ofSurroundings
  | source :: rest => do
    match ← source.alone a with
    | some c => pure c
    | none => a.tryAll rest

namespace Source

variable {source : Source} {a b : Address} {given : Value} {before after order : List Source}
  {s : Session}

theorem alone_of_given? (h : source.given? a = some given) (s : Session) :
    source.alone a s =
      ((source.credentials given s).1.map some, (source.credentials given s).2) := by
  rw [alone, h]
  rcases hx : source.credentials given s with ⟨e | c, t⟩
  · exact Action.bind_of_error hx
  · exact Action.bind_of_ok hx

/-- A source gives nothing exactly where it is not given. -/
theorem alone_eq_none_iff : (source.alone a s).1 = .ok none ↔ source.given? a = none := by
  rcases h : source.given? a with _ | given
  · rw [alone, h]
    exact iff_of_true rfl rfl
  · rw [alone_of_given? h]
    rcases (source.credentials given s).1 with e | c <;> simp [Except.map]

end Source

/-- The search for credentials tries one source after the other. -/
theorem Address.credentials_eq_tryAll (order : List Source) (a : Address) :
    a.credentials order = a.tryAll order := by
  induction order with
  | nil => rfl
  | cons source rest ih =>
    funext s
    rw [Address.credentials, Address.tryAll, ih]
    rcases h : source.given? a with _ | given
    · rw [Source.alone, h]
      rfl
    · have halone := Source.alone_of_given? h s
      dsimp only
      rcases hx : source.credentials given s with ⟨e | c, t⟩ <;> rw [hx] at halone
      · exact (Action.bind_of_error halone).symm
      · rw [Action.bind_of_ok halone]
        rfl

/-! ## The first source present -/

section First

variable {source : Source} {a b : Address} {given : Value} {before after : List Source}

/-- Sources that are not given are passed over. -/
theorem Address.credentials_of_first (hbefore : ∀ earlier ∈ before, earlier.given? a = none)
    (h : source.given? a = some given) :
    a.credentials (before ++ source :: after) = source.credentials given := by
  induction before with
  | nil => rw [List.nil_append, Address.credentials, h]
  | cons first rest ih =>
    rw [List.cons_append, Address.credentials, hbefore first List.mem_cons_self]
    exact ih fun earlier hm => hbefore earlier (List.mem_cons_of_mem _ hm)

theorem Address.credentials_of_none {order : List Source}
    (h : ∀ source ∈ order, source.given? a = none) :
    a.credentials order = Credentials.ofSurroundings := by
  induction order with
  | nil => rfl
  | cons first rest ih =>
    rw [Address.credentials, h first List.mem_cons_self]
    exact ih fun source hm => h source (List.mem_cons_of_mem _ hm)

/-- Looking for default credentials is one call and one message. -/
theorem Credentials.ofSurroundings_snd (s : Session) :
    (ofSurroundings s).2 = { s with
      calls := s.calls ++
        [.findDefault platformScopes (s.environment.get? Remote.keyFileVariable)]
      schedule := s.schedule.drop .findDefault
      log := s.log ++
        [⟨.info, "The default credentials will be used to resolve the google credentials."⟩] } := by
  rw [ofSurroundings, info, Action.bind_of_ok (note_apply _ _ s), Action.mapError_apply,
    Remote.findDefault_apply]
  rfl

/-- The methods called by a source. -/
def Source.ownMethods : List Method := [.openSecrets, .readSecret, .loadKeyFile]

theorem Source.credentials_calls (source : Source) (given : Value) :
    (source.credentials given).Along (Calls Source.ownMethods) := by
  refine Source.credentials_along (Calls.permits _) (by decide) (fun s => ?_) source
  exact (Vault.require_calls given s).mono (by decide)

end First

/-! ## What credentials come of -/

/-- The text behind what an address gives for a source: the vault's, or the text that is given in
letters. A key file that is given so must show its mark. -/
def Source.Holds (source : Source) (s : Session) (given : Value) (content : String) : Prop :=
  match source with
  | .vaultToken | .vaultKeyFile => Vault.answer s given = .ok (some content) ∧ content ≠ ""
  | .inlineToken => decodeInline .tokenEncoding given = .ok content
  | .inlineKeyFile =>
    decodeInline .keyFileEncoding given = .ok content ∧
      occursIn keyFileMark.toList content.toList

/-- The credentials that the text of a source is written for. -/
def Source.Makes (source : Source) (content : String) (c : Credentials) : Prop :=
  match source with
  | .vaultToken | .inlineToken => ∃ t ends,
    AccessToken.ofText content = .ok t ∧ t.expiry? = some ends ∧ c = .token t.secret ends
  | .vaultKeyFile | .inlineKeyFile => ∃ info,
    Json.decode content.toList = .ok info ∧ c = .keyFile info platformScopes

theorem Vault.answer_of_require {s t : Session} {key : Value} {content : String}
    (h : require key s = (.ok content, t)) :
    answer s key = .ok (some content) ∧ content ≠ "" := by
  obtain ⟨text?, u, hresolve, hlast⟩ := Action.bind_eq_ok_iff.1 h
  rcases text? with _ | text
  · cases hlast
  dsimp only at hlast
  split at hlast
  · cases hlast
  · rename_i hne
    cases hlast
    exact ⟨answer_of_resolve (congrArg Prod.fst hresolve), hne⟩

/-- What comes of a token, in every session. -/
theorem Credentials.ofToken_fst (t : AccessToken) (s : Session) :
    (ofToken t s).1 = match t.expiry? with
      | some ends => .ok (.token t.secret ends)
      | none => .error (.credential .tokenFormat) := by
  rw [ofToken, info, Action.bind_of_ok (note_apply _ _ s)]
  cases t.expiry? <;> rfl

/-- What comes of the text of a token, in every session. -/
theorem Credentials.ofTokenText_fst (content : String) (s : Session) :
    (ofTokenText content s).1 = match AccessToken.ofText content with
      | .error p => .error p.failure
      | .ok t => match t.expiry? with
        | some ends => .ok (.token t.secret ends)
        | none => .error (.credential .tokenFormat) := by
  rw [ofTokenText, Action.bind_apply, Action.ofExcept_apply]
  rcases AccessToken.ofText content with p | t
  · rfl
  · exact ofToken_fst t s

theorem Source.makes_of_tokenText {content : String} {c : Credentials} {s : Session}
    (h : (Credentials.ofTokenText content s).1 = .ok c) :
    ∃ t ends, AccessToken.ofText content = .ok t ∧ t.expiry? = some ends ∧
      c = .token t.secret ends := by
  rw [Credentials.ofTokenText_fst] at h
  rcases ht : AccessToken.ofText content with p | t <;> rw [ht] at h
  · cases h
  · dsimp only at h
    rcases hends : t.expiry? with _ | ends <;> rw [hends] at h <;> cases h
    exact ⟨t, ends, rfl, hends, rfl⟩

theorem Source.makes_of_keyFileText {content : String} {c : Credentials} {s : Session}
    (h : (Credentials.ofKeyFileText content s).1 = .ok c) :
    ∃ info, Json.decode content.toList = .ok info ∧ c = .keyFile info platformScopes := by
  rw [Credentials.ofKeyFileText_fst] at h
  rcases hi : Json.decode content.toList with e | info <;> rw [hi] at h
  · cases h
  · rcases hf : s.fault? .loadKeyFile with _ | f <;> rw [hf] at h <;> cases h
    exact ⟨info, rfl, rfl⟩

/-- Credentials of a source come only of a text that is there and well written. -/
theorem Source.makes_of_credentials {source : Source} {given : Value} {s : Session}
    {c : Credentials} (h : (source.credentials given s).1 = .ok c) :
    ∃ content, source.Holds s given content ∧ source.Makes content c := by
  have hrun : source.credentials given s = (.ok c, (source.credentials given s).2) := Prod.ext h rfl
  cases source with
  | vaultToken =>
    obtain ⟨content, t, hrequire, hmade⟩ := Action.bind_eq_ok_iff.1 hrun
    exact ⟨content, Vault.answer_of_require hrequire,
      makes_of_tokenText (congrArg Prod.fst hmade)⟩
  | inlineToken =>
    obtain ⟨content, t, hdecode, hmade⟩ := Action.bind_eq_ok_iff.1 hrun
    exact ⟨content, congrArg Prod.fst hdecode, makes_of_tokenText (congrArg Prod.fst hmade)⟩
  | vaultKeyFile =>
    obtain ⟨content, t, hrequire, hmade⟩ := Action.bind_eq_ok_iff.1 hrun
    exact ⟨content, Vault.answer_of_require hrequire,
      makes_of_keyFileText (congrArg Prod.fst hmade)⟩
  | inlineKeyFile =>
    obtain ⟨content, t, hdecode, hmade⟩ := Action.bind_eq_ok_iff.1 hrun
    split at hmade
    · rename_i hmark
      exact ⟨content, ⟨congrArg Prod.fst hdecode, hmark⟩,
        makes_of_keyFileText (congrArg Prod.fst hmade)⟩
    · cases hmade

/-! ## The chain -/

/-- A source of a list decides the search for credentials in a session alone. -/
structure Source.Decides (source : Source) (before order : List Source) (a : Address)
    (s : Session) : Prop where
  /-- The search runs as the source does on its own, to the same end and with the same journals. -/
  alone : source.alone a s = ((a.credentials order s).1.map some, (a.credentials order s).2)
  /-- Default credentials are not looked for. -/
  noDefault : ∃ cs, (a.credentials order s).2.calls = s.calls ++ cs ∧
    ∀ c ∈ cs, c.method ≠ .findDefault
  /-- What stands in the slots of later sources only does not matter. -/
  later : ∀ b : Address, (∀ p : Slot, p.source = source ∨ p.source ∈ before →
    p.value b = p.value a) → b.credentials order s = a.credentials order s
  /-- Credentials come only of a text that is there, is not empty and is well written. -/
  sound : ∀ c, (a.credentials order s).1 = .ok c → ∃ given content,
    source.given? a = some given ∧ source.Holds s given content ∧ source.Makes content c

/-- **The first source present decides alone.** -/
theorem first_source_decides (order : List Source) (a : Address) (ha : a.IsTextual)
    (s : Session) :
    (∀ before source after, order = before ++ source :: after →
      (∀ earlier ∈ before, ¬earlier.IsPresent a) → source.IsPresent a →
        source.Decides before order a s) ∧
    ((∀ source ∈ order, ¬source.IsPresent a) →
      a.credentials order s = Credentials.ofSurroundings s ∧
        (a.credentials order s).2.vault = s.vault ∧
        (a.credentials order s).2.calls = s.calls ++
          [.findDefault platformScopes (s.environment.get? Remote.keyFileVariable)]) := by
  constructor
  · rintro before source after rfl hbefore hsource
    have hearlier := fun earlier hm => Source.given?_of_not_isPresent ha (hbefore earlier hm)
    obtain ⟨given, hgiven⟩ := Source.given?_of_isPresent ha hsource
    have hrun : a.credentials (before ++ source :: after) = source.credentials given :=
      Address.credentials_of_first hearlier hgiven
    obtain ⟨cs, hcs, hin, -⟩ := Source.credentials_calls source given s
    refine ⟨?_, ⟨cs, ?_, fun c hc => ?_⟩, fun b hb => ?_, fun c hc => ?_⟩
    · rw [hrun, Source.alone_of_given? hgiven]
    · rw [hrun, hcs]
    · intro hdefault
      have hown := hin c hc
      rw [hdefault] at hown
      revert hown
      decide
    · have hbearlier : ∀ earlier ∈ before, earlier.given? b = none := fun earlier hm => by
        rw [Source.given?_congr fun p hp => hb p (Or.inr (hp ▸ hm)), hearlier earlier hm]
      have hbgiven : source.given? b = some given := by
        rw [Source.given?_congr fun p hp => hb p (Or.inl hp), hgiven]
      rw [hrun, Address.credentials_of_first hbearlier hbgiven]
    · rw [hrun] at hc
      obtain ⟨content, hholds, hmakes⟩ := Source.makes_of_credentials hc
      exact ⟨given, content, hgiven, hholds, hmakes⟩
  · intro hnone
    have hrun := Address.credentials_of_none fun source hm =>
      Source.given?_of_not_isPresent ha (hnone source hm)
    rw [hrun, Credentials.ofSurroundings_snd]
    exact ⟨rfl, rfl, rfl⟩

/-- A token in the vault that is malformed, behind a source that is empty and before one that is
good: the search fails. -/
theorem first_source_decides_malformed :
    let s : Session := {
      cloud := { secrets := [
        ("projects/p1/secrets/t/versions/latest", Utf8.encode "[]".toList),
        ("projects/p1/secrets/f/versions/latest", Utf8.encode "{}".toList)] }
      vault := { kind := .secrets (.text "p1") true } }
    let a : Address := { properties := [
      (.text Property.keyFileValue, .text ""), (.text Property.keyFileKey, .text "f"),
      (.text Property.tokenKey, .text "t")] }
    let order : List Source := [.inlineKeyFile, .vaultToken, .vaultKeyFile, .vaultToken]
    a.IsTextual ∧ (∀ earlier ∈ [Source.inlineKeyFile], ¬earlier.IsPresent a) ∧
      Source.vaultToken.IsPresent a ∧ Source.vaultToken.Decides [.inlineKeyFile] order a s ∧
      (a.credentials order s).1 = .error (.credential .tokenFormat) ∧
      (a.credentials [.vaultKeyFile] s).1 = .ok (.keyFile (.mapping []) platformScopes) := by
  intro s a order
  have ha : a.IsTextual := by
    refine ⟨Or.inl rfl, fun e he => ?_⟩
    simp only [a, List.mem_cons, List.not_mem_nil, or_false] at he
    rcases he with rfl | rfl | rfl <;> exact ⟨_, rfl⟩
  have hbefore : ∀ earlier ∈ [Source.inlineKeyFile], ¬earlier.IsPresent a := by
    intro earlier hm
    rw [List.mem_singleton.1 hm, Source.isPresent_iff ha]
    decide
  have hsource : Source.vaultToken.IsPresent a := ⟨.tokenKey, rfl, "t", by decide, rfl⟩
  have hdecides := (first_source_decides order a ha s).1 [.inlineKeyFile] .vaultToken
    [.vaultKeyFile, .vaultToken] rfl hbefore hsource
  exact ⟨ha, hbefore, hsource, hdecides, by decide +kernel +zetaReduce,
    by decide +kernel +zetaReduce⟩

end TransferBucket
