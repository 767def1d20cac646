import Mathlib.Tactic.SplitIfs
import TransferBucket.Proofs.Remote

/-!
# Where credentials come from

**What may change.** The search for credentials changes nothing but the journals and the vault,
and the vault only in what it remembers and whether its client is open (`credentials_along`).

**Answers** (`Vault.answer`). What the vault answers for a key where nothing is planned: the text
of the environment, else the text remembered, else the text stored. Asking changes no answer:
what the vault remembers after a question, whatever went wrong, is what it would have fetched
again (`answer_resolve`).

**Results.** Credentials that were found once, whatever went wrong around them, are found again
where nothing is planned, if the vault answers as before (`credentials_again`).
-/

namespace TransferBucket

open Session

/-! ## What may change -/

/-- The methods called by the vault. -/
def Vault.methods : List Method := [.openSecrets, .readSecret]

/-- The methods called in search of credentials. -/
def Source.methods : List Method := [.openSecrets, .readSecret, .loadKeyFile, .findDefault]

/-- A relation that the work of the vault can be followed along: beside the calls it permits that
the vault opens its client and remembers a text. -/
structure Vault.Permits (R : Session → Session → Prop) : Prop extends
    TransferBucket.Permits R Vault.methods where
  opens : ∀ s, R s { s with vault := { s.vault with isOpen := true } }
  remembers : ∀ s key text, R s { s with vault :=
    { s.vault with fetched := s.vault.fetched ++ [(key, text)] } }

section Along

variable {R : Session → Session → Prop} {ms : List Method}

namespace Vault

theorem variableName_along (h : TransferBucket.Permits R ms) (key : Value) :
    (variableName key).Along R := by
  cases key with
  | text s => exact h.pure s
  | _ => exact h.fail _

theorem fetch_along (h : TransferBucket.Permits R Vault.methods)
    (ho : ∀ s, R s { s with vault := { s.vault with isOpen := true } }) (project key : Value) :
    (fetch project key).Along R := by
  refine h.resume (h.bind (Remote.openSecrets_along h (by decide) ho) fun _ =>
    Remote.readSecret_along h (by decide) _) fun r => ?_
  match r with
  | .ok bytes =>
    dsimp only
    split
    · exact h.pure _
    · exact h.fail _
  | .error f =>
    dsimp only
    split
    · exact h.bind (h.warning _) fun _ => h.pure none
    · split <;> exact h.fail _

theorem fromEnvironment_along (h : TransferBucket.Permits R ms) (environmentFirst : Bool)
    (key : Value) : (fromEnvironment environmentFirst key).Along R := by
  unfold fromEnvironment
  split
  · refine h.bind (variableName_along h key) fun name => h.bind (h.read _) fun text? => ?_
    cases text? with
    | none => exact h.pure none
    | some text =>
      dsimp only
      split
      · exact h.pure none
      · exact h.bind (h.debug _) fun _ => h.pure _
  · exact h.pure none

theorem fromSecrets_along (h : Vault.Permits R) (project key : Value) :
    (fromSecrets project key).Along R := by
  unfold fromSecrets
  split
  · refine h.bind (h.read _) fun text? => ?_
    cases text? with
    | some text => exact h.pure _
    | none =>
      refine h.bind (fetch_along h.toPermits h.opens project key) fun fetched? => ?_
      cases fetched? with
      | none => exact h.pure none
      | some text => exact h.bind (fun s => h.remembers s key text) fun _ => h.pure _
  · exact h.fail _

theorem resolve_along (h : Vault.Permits R) (key : Value) : (resolve key).Along R := by
  refine h.bind (h.read _) fun vault => ?_
  match vault.kind with
  | .environment => exact h.bind (variableName_along h.toPermits key) fun _ => h.read _
  | .secrets project environmentFirst =>
    refine h.bind (fromEnvironment_along h.toPermits environmentFirst key) fun text? => ?_
    cases text? with
    | some text => exact h.pure _
    | none => exact fromSecrets_along h project key

/-- Only the question to the vault matters. -/
theorem require_along_of_resolve (h : TransferBucket.Permits R ms) {key : Value}
    (hr : (resolve key).Along R) : (require key).Along R := by
  refine h.bind hr fun text? => ?_
  cases text? with
  | none => exact h.fail _
  | some text =>
    dsimp only
    split
    · exact h.fail _
    · exact h.pure _

theorem require_along (h : Vault.Permits R) (key : Value) : (require key).Along R :=
  require_along_of_resolve h.toPermits (resolve_along h key)

end Vault

namespace Credentials

theorem ofTokenText_along (h : Permits R ms) (content : String) :
    (ofTokenText content).Along R := by
  refine h.bind (h.ofExcept _) fun token => h.bind (h.info _) fun _ => ?_
  cases token.expiry? with
  | none => exact h.fail _
  | some ends => exact h.pure _

theorem ofKeyFileText_along (h : Permits R ms) (hm : .loadKeyFile ∈ ms) (content : String) :
    (ofKeyFileText content).Along R := by
  refine h.bind (h.info _) fun _ => ?_
  split
  · exact h.fail _
  · exact (Remote.loadKeyFile_along h hm _ _).mapError _

theorem ofSurroundings_along (h : Permits R Source.methods) : ofSurroundings.Along R :=
  h.bind (h.info _) fun _ => (Remote.findDefault_along h (by decide) _).mapError _

end Credentials

/-- A source is along every relation that its question to the vault is along. -/
theorem Source.credentials_along (h : Permits R ms) (hm : .loadKeyFile ∈ ms) {given : Value}
    (hr : (Vault.require given).Along R) (source : Source) :
    (source.credentials given).Along R := by
  cases source with
  | vaultToken => exact h.bind hr fun _ => Credentials.ofTokenText_along h _
  | inlineToken => exact h.bind (h.ofExcept _) fun _ => Credentials.ofTokenText_along h _
  | vaultKeyFile => exact h.bind hr fun _ => Credentials.ofKeyFileText_along h hm _
  | inlineKeyFile =>
    refine h.bind (h.ofExcept _) fun content => ?_
    split
    · exact Credentials.ofKeyFileText_along h hm _
    · exact h.fail _

end Along

/-! ## The chosen source -/

/-- The first source that an address gives something for, with what it gives. -/
def Address.source? (a : Address) : List Source → Option (Source × Value)
  | [] => none
  | s :: rest => match s.given? a with
    | some given => some (s, given)
    | none => a.source? rest

/-- The chosen source decides alone. -/
theorem Address.credentials_eq (order : List Source) (a : Address) :
    a.credentials order = match a.source? order with
      | some (source, given) => source.credentials given
      | none => Credentials.ofSurroundings := by
  induction order with
  | nil => rfl
  | cons source rest ih =>
    rw [Address.credentials, Address.source?]
    cases source.given? a with
    | none => exact ih
    | some given => rfl

/-- The search for credentials is along every relation that permits its calls and the work of the
vault. -/
theorem Address.credentials_along {R : Session → Session → Prop} (h : Permits R Source.methods)
    (ho : ∀ s, R s { s with vault := { s.vault with isOpen := true } })
    (hr : ∀ s key text, R s { s with vault :=
      { s.vault with fetched := s.vault.fetched ++ [(key, text)] } })
    (order : List Source) (a : Address) : (a.credentials order).Along R := by
  rw [Address.credentials_eq]
  split
  · have hv : Vault.Permits R := { h.mono (by decide) with opens := ho, remembers := hr }
    exact Source.credentials_along h (by decide) (Vault.require_along hv _) _
  · exact Credentials.ofSurroundings_along h

theorem Address.credentials_cloud (order : List Source) (a : Address) :
    (a.credentials order).Along fun s t => t.cloud = s.cloud :=
  Address.credentials_along (Permits.cloud _) (fun _ => rfl) (fun _ _ _ => rfl) order a

theorem Address.credentials_calls (order : List Source) (a : Address) :
    (a.credentials order).Along (Calls Source.methods) :=
  Address.credentials_along (Calls.permits _) (fun _ => .of_eq rfl rfl)
    (fun _ _ _ => .of_eq rfl rfl) order a

theorem Address.credentials_quiet (order : List Source) (a : Address) :
    (a.credentials order).Along Quiet :=
  Address.credentials_along (Quiet.permits _) (fun _ => .of_eq rfl) (fun _ _ _ => .of_eq rfl)
    order a

/-! ## What the vault answers -/

namespace Vault

/-- The name of the variable under a key. -/
def asVariable (key : Value) : Except Failure String :=
  match key with
  | .text s => .ok s
  | v => .error (.mismatch (.notEnvironmentText v.kindName))

/-- The text under a key among the stored secrets of a project. -/
def stored (c : Cloud) (project key : Value) : Except Failure (Option String) :=
  match c.secret? (secretName project key) with
  | none => .ok none
  | some bytes => match Utf8.decode bytes with
    | .ok cs => .ok (some (String.ofList cs))
    | .error m => .error (.value (.undecodable m))

/-- The text under a key in the environment, where it is looked for there and is not empty. -/
def inEnvironment (e : Environment) (environmentFirst : Bool) (key : Value) :
    Except Failure (Option String) :=
  if environmentFirst then
    match asVariable key with
    | .error e => .error e
    | .ok name => .ok ((e.get? name).filter (· ≠ ""))
  else .ok none

/-- The text under a key that the vault remembers or that is stored. -/
def inSecrets (s : Session) (project key : Value) : Except Failure (Option String) :=
  if key.isKey then
    match remembered? s.vault key with
    | some text => .ok (some text)
    | none => stored s.cloud project key
  else .error (.mismatch (.unhashable key.kindName))

/-- What the vault answers for a key where nothing goes wrong. -/
def answer (s : Session) (key : Value) : Except Failure (Option String) :=
  match s.vault.kind with
  | .environment => match asVariable key with
    | .error e => .error e
    | .ok name => .ok (s.environment.get? name)
  | .secrets project environmentFirst =>
    match inEnvironment s.environment environmentFirst key with
    | .error e => .error e
    | .ok (some text) => .ok (some text)
    | .ok none => inSecrets s project key

theorem answer_congr {s t : Session} (he : t.environment = s.environment) (hv : t.vault = s.vault)
    (hs : t.cloud.secrets = s.cloud.secrets) (key : Value) : answer t key = answer s key := by
  simp only [answer, inSecrets, stored, Cloud.secret?, he, hv, hs]

/-! ## Asking -/

theorem variableName_eq (key : Value) : variableName key = .ofExcept (asVariable key) := by
  cases key <;> rfl

theorem fromEnvironment_fst (environmentFirst : Bool) (key : Value) (s : Session) :
    (fromEnvironment environmentFirst key s).1 =
      inEnvironment s.environment environmentFirst key := by
  unfold fromEnvironment inEnvironment
  cases environmentFirst with
  | false => rfl
  | true =>
    rw [if_pos rfl, if_pos rfl, variableName_eq, Action.bind_apply, Action.ofExcept_apply]
    rcases asVariable key with e | name
    · rfl
    · dsimp only
      rw [Action.bind_of_ok (Action.read_apply _ s)]
      rcases s.environment.get? name with _ | text
      · rfl
      · by_cases h : text = "" <;> simp [h, Option.filter, Action.bind_apply, debug, note]

/-- Looking into the environment changes the log alone. -/
theorem fromEnvironment_snd (environmentFirst : Bool) (key : Value) (s : Session) :
    ∃ l, (fromEnvironment environmentFirst key s).2 = { s with log := l } := by
  have h : TransferBucket.Permits (fun s t : Session => ∃ l, t = { s with log := l }) [] := by
    refine ⟨fun s => ⟨s.log, rfl⟩, ?_, fun s _ _ => ⟨_, rfl⟩, fun s c hc => nomatch hc⟩
    rintro s _ _ ⟨l, rfl⟩ ⟨l', rfl⟩
    exact ⟨l', rfl⟩
  exact fromEnvironment_along h environmentFirst key s

/-- Where no fault is planned, what is fetched is what is stored. -/
theorem fetch_fst_of_free {s : Session} (ho : s.fault? .openSecrets = none)
    (hr : s.fault? .readSecret = none) (project key : Value) :
    (fetch project key s).1 = stored s.cloud project key := by
  have hopen : ∃ t, Remote.openSecrets s = (.ok (), t) ∧ t.fault? .readSecret = none ∧
      t.cloud = s.cloud := by
    rw [Remote.openSecrets_apply, ho]
    split
    · exact ⟨s, rfl, hr, rfl⟩
    · exact ⟨_, rfl, hr, rfl⟩
  obtain ⟨t, ht, htr, htc⟩ := hopen
  rw [fetch, Action.resume_apply, Action.bind_of_ok ht, Remote.readSecret_apply, htr, htc, stored]
  rcases s.cloud.secret? (secretName project key) with _ | bytes
  · rfl
  · dsimp only
    rcases Utf8.decode bytes with m | cs <;> rfl

/-- A text that is fetched, whatever is planned, is the text stored. -/
theorem stored_of_fetch {s : Session} {project key : Value} {text : String}
    (h : (fetch project key s).1 = .ok (some text)) :
    stored s.cloud project key = .ok (some text) := by
  rw [fetch, Action.resume_apply] at h
  rcases hx : (do Remote.openSecrets; Remote.readSecret (secretName project key) :
    Remote (List UInt8)) s with ⟨f | bytes, u⟩
  · rw [hx] at h
    dsimp only at h
    split_ifs at h <;> simp [Action.bind_apply, warning, note] at h
  · rw [hx] at h
    obtain ⟨_, t, ht, hr⟩ := Action.bind_eq_ok_iff.1 hx
    have hc : t.cloud = s.cloud := by
      rw [Remote.openSecrets_apply] at ht
      split_ifs at ht
      · cases ht
        rfl
      · rcases hf : s.fault? .openSecrets with _ | f <;> rw [hf] at ht <;> cases ht
        rfl
    have hb : s.cloud.secret? (secretName project key) = some bytes := by
      rw [Remote.readSecret_apply, hc] at hr
      split at hr <;> cases hr
      assumption
    rw [stored, hb]
    dsimp only at h ⊢
    rcases hd : Utf8.decode bytes with m | cs <;> rw [hd] at h
    · cases h
    · exact h

theorem fromSecrets_fst_of_free {s : Session} (ho : s.fault? .openSecrets = none)
    (hr : s.fault? .readSecret = none) (project key : Value) :
    (fromSecrets project key s).1 = inSecrets s project key := by
  rw [fromSecrets, inSecrets]
  split_ifs
  · rw [Action.bind_of_ok (Action.read_apply _ s)]
    rcases remembered? s.vault key with _ | text
    · dsimp only
      rw [← fetch_fst_of_free ho hr]
      rcases hf : fetch project key s with ⟨e | _ | text, t⟩
      · rw [Action.bind_of_error hf]
      · rw [Action.bind_of_ok hf]
        rfl
      · rw [Action.bind_of_ok hf]
        rfl
    · rfl
  · rfl

/-- Where no fault is planned, the vault answers as it should. -/
theorem resolve_fst_of_free {s : Session} (ho : s.fault? .openSecrets = none)
    (hr : s.fault? .readSecret = none) (key : Value) : (resolve key s).1 = answer s key := by
  rw [resolve, Action.bind_of_ok (Action.read_apply _ s), answer]
  rcases s.vault.kind with _ | ⟨project, environmentFirst⟩
  · dsimp only
    rw [variableName_eq, Action.bind_apply, Action.ofExcept_apply]
    rcases asVariable key with e | name <;> rfl
  · dsimp only
    obtain ⟨l, hl⟩ := fromEnvironment_snd environmentFirst key s
    have he := fromEnvironment_fst environmentFirst key s
    rcases hf : fromEnvironment environmentFirst key s with ⟨r, t⟩
    rw [hf] at he hl
    dsimp only at he hl
    rw [← he, hl] at *
    rcases r with e | _ | text
    · rw [Action.bind_of_error hf]
    · rw [Action.bind_of_ok hf]
      exact fromSecrets_fst_of_free (s := { s with log := l }) ho hr project key
    · rw [Action.bind_of_ok hf]
      rfl

/-! ## Answers that were given

A text that is given is the right one, whatever is planned: what goes wrong at a question can only
withhold it. -/

theorem inSecrets_of_fromSecrets {s : Session} {project key : Value} {text : String}
    (h : (fromSecrets project key s).1 = .ok (some text)) :
    inSecrets s project key = .ok (some text) := by
  rw [fromSecrets] at h
  rw [inSecrets]
  split_ifs at h ⊢
  · rw [Action.bind_of_ok (Action.read_apply _ s)] at h
    rcases hr : remembered? s.vault key with _ | text' <;> rw [hr] at h
    · dsimp only at h ⊢
      rcases hf : fetch project key s with ⟨e | _ | text', t⟩
      · rw [Action.bind_of_error hf] at h
        cases h
      · rw [Action.bind_of_ok hf] at h
        cases h
      · rw [Action.bind_of_ok hf] at h
        cases h
        exact stored_of_fetch (by rw [hf])
    · exact h
  · cases h

theorem answer_of_resolve {s : Session} {key : Value} {text : String}
    (h : (resolve key s).1 = .ok (some text)) : answer s key = .ok (some text) := by
  rw [resolve, Action.bind_of_ok (Action.read_apply _ s)] at h
  rw [answer]
  rcases hk : s.vault.kind with _ | ⟨project, environmentFirst⟩ <;> rw [hk] at h
  · dsimp only at h ⊢
    rw [variableName_eq, Action.bind_apply, Action.ofExcept_apply] at h
    rcases hv : asVariable key with e | name <;> rw [hv] at h
    · cases h
    · exact h
  · dsimp only at h ⊢
    obtain ⟨l, hl⟩ := fromEnvironment_snd environmentFirst key s
    rw [← fromEnvironment_fst]
    rcases hf : fromEnvironment environmentFirst key s with ⟨r, t⟩
    rw [hf] at hl
    dsimp only at hl
    rcases r with e | _ | found
    · rw [Action.bind_of_error hf] at h
      cases h
    · rw [Action.bind_of_ok hf, hl] at h
      exact inSecrets_of_fromSecrets (s := { s with log := l }) h
    · rw [Action.bind_of_ok hf] at h
      exact h

/-! ## Asking again -/

theorem remembered?_append (v : TransferBucket.Vault) (key other : Value) (text : String) :
    remembered? { v with fetched := v.fetched ++ [(key, text)] } other =
      (remembered? v other).or (if Value.sameKey key other then some text else none) := by
  rw [remembered?, List.find?_append, Option.map_or, ← remembered?]
  by_cases h : Value.sameKey key other <;> simp [h]

/-- What the vault remembers under a key after a question for it: what it remembered before, or
what is stored. -/
theorem remembered?_fromSecrets (project key : Value) (s : Session) :
    remembered? (fromSecrets project key s).2.vault key = remembered? s.vault key ∨
      ∃ text, remembered? s.vault key = none ∧ stored s.cloud project key = .ok (some text) ∧
        remembered? (fromSecrets project key s).2.vault key = some text := by
  have hkept : TransferBucket.Permits (fun s t : Session => t.vault.fetched = s.vault.fetched)
      methods :=
    ⟨fun _ => rfl, fun h₁ h₂ => h₂.trans h₁, fun _ _ _ => rfl, fun _ _ _ => rfl⟩
  rw [fromSecrets]
  split_ifs
  · rw [Action.bind_of_ok (Action.read_apply _ s)]
    rcases hr : remembered? s.vault key with _ | text
    · dsimp only
      rcases hf : fetch project key s with ⟨r, t⟩
      have hsame : remembered? t.vault key = none := by
        have hfetched := fetch_along hkept (fun _ => rfl) project key s
        rw [hf] at hfetched
        rw [remembered?, hfetched, ← remembered?, hr]
      rcases r with e | _ | text
      · rw [Action.bind_of_error hf]
        exact Or.inl hsame
      · rw [Action.bind_of_ok hf]
        exact Or.inl hsame
      · rw [Action.bind_of_ok hf]
        have hnew : remembered? { t.vault with fetched := t.vault.fetched ++ [(key, text)] } key =
            if Value.sameKey key key then some text else none := by
          rw [remembered?_append, hsame, Option.none_or]
        by_cases hself : Value.sameKey key key
        · rw [if_pos hself] at hnew
          exact Or.inr ⟨text, rfl, stored_of_fetch (by rw [hf]), hnew⟩
        · rw [if_neg hself] at hnew
          exact Or.inl hnew
    · exact Or.inl hr
  · exact Or.inl rfl

/-- A question changes nothing that answers are made of, beside what is remembered. -/
theorem resolve_keeps (key : Value) (s : Session) :
    (resolve key s).2.cloud = s.cloud ∧ (resolve key s).2.environment = s.environment ∧
      (resolve key s).2.vault.kind = s.vault.kind := by
  have h : Vault.Permits fun s t : Session =>
      t.cloud = s.cloud ∧ t.environment = s.environment ∧ t.vault.kind = s.vault.kind :=
    { refl := fun _ => ⟨rfl, rfl, rfl⟩
      trans := fun h₁ h₂ => ⟨h₂.1.trans h₁.1, h₂.2.1.trans h₁.2.1, h₂.2.2.trans h₁.2.2⟩
      log := fun _ _ _ => ⟨rfl, rfl, rfl⟩
      call := fun _ _ _ => ⟨rfl, rfl, rfl⟩
      opens := fun _ => ⟨rfl, rfl, rfl⟩
      remembers := fun _ _ _ => ⟨rfl, rfl, rfl⟩ }
  exact resolve_along h key s

/-- What is in the vault under a key is the same after a question for it. -/
theorem inSecrets_fromSecrets (project key : Value) (s : Session) :
    inSecrets (fromSecrets project key s).2 project key = inSecrets s project key := by
  have hcloud : (fromSecrets project key s).2.cloud = s.cloud :=
    fromSecrets_along (R := fun s t => t.cloud = s.cloud)
      { refl := fun _ => rfl
        trans := fun h₁ h₂ => h₂.trans h₁
        log := fun _ _ _ => rfl
        call := fun _ _ _ => rfl
        opens := fun _ => rfl
        remembers := fun _ _ _ => rfl } project key s
  rw [inSecrets, inSecrets, hcloud]
  rcases remembered?_fromSecrets project key s with h | ⟨text, hbefore, hstored, hafter⟩
  · rw [h]
  · rw [hbefore, hafter, hstored]

/-- **Asking changes no answer.** Whatever goes wrong, the vault answers for the key afterwards
as it did before. -/
theorem answer_resolve (key : Value) (s : Session) :
    answer (resolve key s).2 key = answer s key := by
  obtain ⟨hcloud, henv, hkind⟩ := resolve_keeps key s
  rw [answer, answer, hkind, henv]
  rcases hk : s.vault.kind with _ | ⟨project, environmentFirst⟩
  · rfl
  · dsimp only
    have hrun : inSecrets (resolve key s).2 project key = inSecrets s project key := by
      rw [resolve, Action.bind_of_ok (Action.read_apply _ s), hk]
      dsimp only
      obtain ⟨l, hl⟩ := fromEnvironment_snd environmentFirst key s
      rcases hf : fromEnvironment environmentFirst key s with ⟨r, t⟩
      rw [hf] at hl
      dsimp only at hl
      rw [hl] at hf
      rcases r with e | _ | text
      · rw [Action.bind_of_error hf]
        rfl
      · rw [Action.bind_of_ok hf]
        exact inSecrets_fromSecrets project key { s with log := l }
      · rw [Action.bind_of_ok hf]
        rfl
    rw [hrun]

/-- The answer for a key is the same as before. -/
def SameAnswer (key : Value) (s t : Session) : Prop := answer t key = answer s key

theorem SameAnswer.permits (key : Value) (ms : List Method) :
    TransferBucket.Permits (SameAnswer key) ms where
  refl _ := rfl
  trans h₁ h₂ := h₂.trans h₁
  log _ _ _ := rfl
  call _ _ _ := rfl

theorem require_sameAnswer (key : Value) : (require key).Along (SameAnswer key) :=
  require_along_of_resolve (SameAnswer.permits key []) (answer_resolve key)

end Vault

/-! ## The same credentials again -/

/-- The vault answers as before for the key that an address names. -/
def Address.SameAnswer (a : Address) (order : List Source) (s t : Session) : Prop :=
  ∀ source given, a.source? order = some (source, given) → Vault.SameAnswer given s t

namespace Address.SameAnswer

variable {a : Address} {order : List Source}

theorem permits (a : Address) (order : List Source) (ms : List Method) :
    Permits (a.SameAnswer order) ms where
  refl _ _ _ _ := rfl
  trans h₁ h₂ source given h := (h₂ source given h).trans (h₁ source given h)
  log _ _ _ _ _ _ := rfl
  call _ _ _ _ _ _ := rfl

theorem of_eq {s t : Session} (he : t.environment = s.environment) (hv : t.vault = s.vault)
    (hs : t.cloud.secrets = s.cloud.secrets) : a.SameAnswer order s t :=
  fun _ given _ => Vault.answer_congr he hv hs given

end Address.SameAnswer

/-- The search for credentials changes no answer that it needs. -/
theorem Address.credentials_sameAnswer (order : List Source) (a : Address) :
    (a.credentials order).Along (a.SameAnswer order) := by
  rw [Address.credentials_eq]
  intro s source given h
  rw [h]
  exact Source.credentials_along (Vault.SameAnswer.permits given Source.methods) (by decide)
    (Vault.require_sameAnswer given) source s

theorem Vault.require_calls (key : Value) : (Vault.require key).Along (Calls Vault.methods) :=
  Vault.require_along { Calls.permits _ with
    opens := fun _ => Calls.of_eq rfl rfl
    remembers := fun _ _ _ => Calls.of_eq rfl rfl } key

/-- What an action gives in one state it gives in another too. -/
def Action.Again {σ ε α : Type} (x : Action σ ε α) (s t : σ) : Prop :=
  ∀ a, (x s).1 = .ok a → (x t).1 = .ok a

namespace Action.Again

variable {σ ε α β : Type} {x : Action σ ε α} {f : α → Action σ ε β} {s t : σ}

theorem of_eq (h : (x t).1 = (x s).1) : x.Again s t := fun _ ha => h.trans ha

theorem bind (hx : x.Again s t) (hf : ∀ a, (f a).Again (x s).2 (x t).2) : (x >>= f).Again s t := by
  intro b hb
  obtain ⟨a, u, hxs, hfa⟩ := bind_eq_ok_iff.1 (Prod.ext hb rfl : (x >>= f) s = (.ok b, _))
  have hxt : x t = (.ok a, (x t).2) := Prod.ext (hx a (by rw [hxs])) rfl
  rw [bind_of_ok hxt]
  exact hf a b (by rw [hxs, hfa])

end Action.Again

section Results

variable {s t : Session}

/-- A text that the vault gave, whatever was planned, it gives again where no fault is planned. -/
theorem Vault.require_again {key : Value} (ht : t.IsFree methods) (h : SameAnswer key s t) :
    (require key).Again s t := by
  intro text hs
  obtain ⟨text?, u, hresolve, hlast⟩ :=
    Action.bind_eq_ok_iff.1 (Prod.ext hs rfl : require key s = (.ok text, _))
  rcases text? with _ | found
  · cases hlast
  have hgiven := answer_of_resolve (congrArg Prod.fst hresolve)
  have hagain : (resolve key t).1 = .ok (some found) := by
    rw [resolve_fst_of_free (ht _ (by decide)) (ht _ (by decide)), h, hgiven]
  have hrun : resolve key t = (.ok (some found), (resolve key t).2) := Prod.ext hagain rfl
  rw [require, Action.bind_of_ok hrun]
  dsimp only at hlast ⊢
  split_ifs at hlast ⊢
  · cases hlast
  · cases hlast
    rfl

theorem Credentials.ofTokenText_again (content : String) (s t : Session) :
    (ofTokenText content).Again s t := by
  refine .bind (.of_eq rfl) fun token => .bind (.of_eq rfl) fun _ => ?_
  cases token.expiry? <;> exact .of_eq rfl

theorem Credentials.ofKeyFileText_fst (content : String) (s : Session) :
    (ofKeyFileText content s).1 = match Json.decode content.toList, s.fault? .loadKeyFile with
      | .error _, _ => .error (.credential .keyFile)
      | .ok _, some f => .error (if f.isKeyFileRefusal then .credential .keyFile else .fault f)
      | .ok info, none => .ok (.keyFile info platformScopes) := by
  rw [ofKeyFileText, info, Action.bind_of_ok (note_apply _ _ s)]
  rcases Json.decode content.toList with e | contents
  · rfl
  · dsimp only
    rw [Action.mapError_apply, Remote.loadKeyFile_apply, fault?_noted]
    rcases s.fault? .loadKeyFile <;> rfl

theorem Credentials.ofSurroundings_fst (s : Session) :
    (ofSurroundings s).1 = match s.fault? .findDefault with
      | some f => .error (if f.isDefaultCredentials then .credential .noDefault else .fault f)
      | none => .ok (.surrounding platformScopes) := by
  rw [ofSurroundings, info, Action.bind_of_ok (note_apply _ _ s), Action.mapError_apply,
    Remote.findDefault_apply, fault?_noted]
  rcases s.fault? .findDefault <;> rfl

theorem Credentials.ofKeyFileText_again (content : String) (ht : t.fault? .loadKeyFile = none) :
    (ofKeyFileText content).Again s t := by
  intro cr hs
  rw [ofKeyFileText_fst] at hs
  rw [ofKeyFileText_fst, ht]
  rcases hd : Json.decode content.toList with e | contents <;> rw [hd] at hs
  · cases hs
  · rcases hf : s.fault? .loadKeyFile with _ | f <;> rw [hf] at hs
    · exact hs
    · cases hs

theorem Credentials.ofSurroundings_again (ht : t.fault? .findDefault = none) :
    ofSurroundings.Again s t := by
  intro cr hs
  rw [ofSurroundings_fst] at hs
  rw [ofSurroundings_fst, ht]
  rcases hf : s.fault? .findDefault with _ | f <;> rw [hf] at hs
  · exact hs
  · cases hs

/-- A source that gave credentials, whatever was planned, gives them again where no fault is
planned, if the vault answers as before. -/
theorem Source.credentials_again (source : Source) {given : Value} (ht : t.IsFree methods)
    (h : Vault.SameAnswer given s t) : (source.credentials given).Again s t := by
  have hrequire : (Vault.require given).Again s t :=
    Vault.require_again (fun m hm => ht m (by revert m; decide)) h
  cases source with
  | vaultToken => exact hrequire.bind fun _ => Credentials.ofTokenText_again _ _ _
  | inlineToken => exact .bind (.of_eq rfl) fun _ => Credentials.ofTokenText_again _ _ _
  | vaultKeyFile =>
    have hload : (Vault.require given t).2.fault? .loadKeyFile = none :=
      ((Vault.require_calls given t).fault?_eq (by decide)).trans (ht _ (by decide))
    exact hrequire.bind fun _ => Credentials.ofKeyFileText_again _ hload
  | inlineKeyFile =>
    refine .bind (.of_eq rfl) fun content => ?_
    split
    · exact Credentials.ofKeyFileText_again _ (ht _ (by decide))
    · exact .of_eq rfl

/-- **The same credentials again.** Credentials that were found, whatever was planned, are found
again where no fault is planned, if the vault answers as before. -/
theorem Address.credentials_again {order : List Source} {a : Address}
    (ht : t.IsFree Source.methods) (h : a.SameAnswer order s t) :
    (a.credentials order).Again s t := by
  rw [Address.credentials_eq]
  split
  · rename_i source given hsource
    exact Source.credentials_again source ht (h source given hsource)
  · exact Credentials.ofSurroundings_again (ht _ (by decide))

end Results

end TransferBucket
