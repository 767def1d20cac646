import Mathlib.Data.List.Basic
import TransferBucket.Cloud.Event
import TransferBucket.Proofs.Sources

/-!
# What a vault remembers

**Theorem (`remembers_first_fetch`).** Over every history of a vault of secrets, a question for a
key goes in one of three ways. A text of the environment is answered as it is now. Else the text
that was fetched for the key before is answered, whatever is stored by now. Else the secret is read,
once, and the text found is answered and remembered, and nothing else is remembered. So no two
questions fetch a text for one key, and the answers for a key are decided by what the questions for
this key meet.

A *history* is a list of steps: questions, and what happens around them (`Vault.Step`). What was
fetched is read off the questions (`Question.Fetches`), not off the vault. That the vault remembers
just this is the invariant (`Vault.Recalls`): every question keeps it, because a question that
finds a text remembered reads no secret (`resolve_of_remembered`), and one that reads a secret
remembers what it answers (`resolve_of_unknown`).
-/

namespace TransferBucket

open Session

namespace Vault

/-! ## Histories -/

/-- A step of a history: the vault is asked for the text under a key, or something happens in the
session. -/
inductive Step where
  | ask (key : String)
  | event (e : Event)
  deriving DecidableEq

/-- A question as it went: the session before it, its answer, the session after it. -/
structure Question where
  key : String
  before : Session
  answer : Except Failure (Option String)
  after : Session

/-- The question for a key in a session. -/
def question (s : Session) (key : String) : Question :=
  ⟨key, s, (resolve (.text key) s).1, (resolve (.text key) s).2⟩

/-- The questions among the steps of a history, in their order. -/
def questions (s : Session) : List Step → List Question
  | [] => []
  | .ask key :: rest => question s key :: questions (question s key).after rest
  | .event e :: rest => questions (e.apply s) rest

namespace Question

/-- The calls that a question made. -/
def calls (q : Question) : List Call := q.after.calls.drop q.before.calls.length

/-- A question fetches a text: it reads a secret and answers the text. -/
def Fetches (q : Question) (text : String) : Prop :=
  q.answer = .ok (some text) ∧ ∃ c ∈ q.calls, c.method = .readSecret

/-- The text of the environment under the key of a question, if it is looked for there and is not
empty. -/
def shadow? (environmentFirst : Bool) (q : Question) : Option String :=
  if environmentFirst then (q.before.environment.get? q.key).filter (· ≠ "") else none

/-- What reading the secret brings where the question is asked: bytes, or a fault. -/
def reading (project : Value) (q : Question) : Except Fault (List UInt8) :=
  (Remote.readSecret (secretName project (.text q.key)) q.before).1

end Question

/-- The answer for a key to what reading its secret brings. -/
def answerTo (key : String) : Except Fault (List UInt8) → Except Failure (Option String)
  | .ok bytes => match Utf8.decode bytes with
    | .ok cs => .ok (some (String.ofList cs))
    | .error m => .error (.value (.undecodable m))
  | .error f =>
    if f.isNotFound then .ok none
    else if f.isRecognised then .error (.credential (.vaultUnread (.text key) f))
    else .error (.fault f)

/-- What is remembered of an answer for a key: its text. -/
def kept (key : String) : Except Failure (Option String) → List (Value × String)
  | .ok (some text) => [(.text key, text)]
  | _ => []

/-- How a question goes after the questions `past`. -/
structure Question.GoesBy (project : Value) (environmentFirst : Bool) (past : List Question)
    (q : Question) : Prop where
  shadowed : ∀ text, q.shadow? environmentFirst = some text →
    q.answer = .ok (some text) ∧ q.calls = [] ∧ q.after.vault = q.before.vault
  remembered : q.shadow? environmentFirst = none → ∀ p ∈ past, p.key = q.key →
    ∀ text, p.Fetches text →
      q.answer = .ok (some text) ∧ q.calls = [] ∧ q.after.vault = q.before.vault
  read : q.shadow? environmentFirst = none →
    (∀ p ∈ past, p.key = q.key → ∀ text, ¬ p.Fetches text) →
      (q.calls = [.readSecret (secretName project (.text q.key))] ∨
        q.calls = [.openSecrets, .readSecret (secretName project (.text q.key))]) ∧
      q.answer = answerTo q.key (q.reading project) ∧
      q.after.vault.fetched = q.before.vault.fetched ++ kept q.key q.answer

/-! ## One question -/

section Asking

variable {s : Session} {project : Value} {environmentFirst : Bool} {key : String}

theorem inEnvironment_text (e : Environment) (environmentFirst : Bool) (key : String) :
    inEnvironment e environmentFirst (.text key) =
      .ok (if environmentFirst then (e.get? key).filter (· ≠ "") else none) := by
  cases environmentFirst <;> rfl

/-- A vault of secrets looks into the environment, and then among the secrets. -/
theorem resolve_of_kind (hk : s.vault.kind = .secrets project environmentFirst) (key : String) :
    ∃ l, resolve (.text key) s = match (question s key).shadow? environmentFirst with
      | some text => (.ok (some text), { s with log := l })
      | none => fromSecrets project (.text key) { s with log := l } := by
  obtain ⟨l, hl⟩ := fromEnvironment_snd environmentFirst (.text key) s
  have he := fromEnvironment_fst environmentFirst (.text key) s
  rw [inEnvironment_text] at he
  have hrun : fromEnvironment environmentFirst (.text key) s =
      (.ok ((question s key).shadow? environmentFirst), { s with log := l }) := Prod.ext he hl
  refine ⟨l, ?_⟩
  rw [resolve, Action.bind_of_ok (Action.read_apply _ s), hk]
  dsimp only
  rw [Action.bind_of_ok hrun]
  cases (question s key).shadow? environmentFirst <;> rfl

theorem resolve_of_shadow (hk : s.vault.kind = .secrets project environmentFirst) {text : String}
    (h : (question s key).shadow? environmentFirst = some text) :
    ∃ l, resolve (.text key) s = (.ok (some text), { s with log := l }) := by
  obtain ⟨l, hl⟩ := resolve_of_kind hk key
  rw [h] at hl
  exact ⟨l, hl⟩

theorem resolve_of_remembered (hk : s.vault.kind = .secrets project environmentFirst)
    (h : (question s key).shadow? environmentFirst = none) {text : String}
    (hr : remembered? s.vault (.text key) = some text) :
    ∃ l, resolve (.text key) s = (.ok (some text), { s with log := l }) := by
  obtain ⟨l, hl⟩ := resolve_of_kind hk key
  rw [h] at hl
  dsimp only at hl
  rw [fromSecrets, if_pos (by rfl), Action.bind_of_ok (Action.read_apply _ _), hr] at hl
  exact ⟨l, hl⟩

theorem openSecrets_readSecret (ho : s.fault? .openSecrets = none) (name : String) :
    ∃ t cs, (do Remote.openSecrets; Remote.readSecret name : Remote (List UInt8)) s =
        ((Remote.readSecret name s).1, t) ∧
      (cs = [.readSecret name] ∨ cs = [.openSecrets, .readSecret name]) ∧
      t.calls = s.calls ++ cs ∧ t.vault.fetched = s.vault.fetched := by
  by_cases hopen : s.vault.isOpen
  · have hrun : Remote.openSecrets s = (.ok (), s) := by rw [Remote.openSecrets_apply, if_pos hopen]
    refine ⟨s.announced (.readSecret name), [.readSecret name], ?_, Or.inl rfl, rfl, rfl⟩
    rw [Action.bind_of_ok hrun, Remote.readSecret_apply]
  · let u : Session :=
      { s.announced .openSecrets with vault := { s.vault with isOpen := true } }
    have hrun : Remote.openSecrets s = (.ok (), u) := by
      rw [Remote.openSecrets_apply, if_neg hopen, ho]
    have hfault : u.fault? .readSecret = s.fault? .readSecret := by
      have hplan : (s.announced .openSecrets).fault? .readSecret = s.fault? .readSecret := by
        rw [fault?, plan?_announced_of_ne s (c := .openSecrets) (by decide), fault?]
      exact hplan
    refine ⟨u.announced (.readSecret name), [.openSecrets, .readSecret name], ?_, Or.inr rfl,
      List.append_assoc _ _ _, rfl⟩
    rw [Action.bind_of_ok hrun, Remote.readSecret_apply, Remote.readSecret_apply, hfault]
    rfl

theorem fetch_apply (ho : s.fault? .openSecrets = none) (project : Value) (key : String) :
    ∃ t cs, fetch project (.text key) s = (answerTo key ((question s key).reading project), t) ∧
      (cs = [.readSecret (secretName project (.text key))] ∨
        cs = [.openSecrets, .readSecret (secretName project (.text key))]) ∧
      t.calls = s.calls ++ cs ∧ t.vault.fetched = s.vault.fetched := by
  obtain ⟨t, cs, hrun, hcs, hcalls, hfetched⟩ :=
    openSecrets_readSecret ho (secretName project (.text key))
  rw [fetch, Action.resume_apply, hrun]
  dsimp only [question, Question.reading]
  rcases (Remote.readSecret (secretName project (.text key)) s).1 with f | bytes
  · dsimp only [answerTo]
    split_ifs
    · exact ⟨_, cs, rfl, hcs, hcalls, hfetched⟩
    · exact ⟨t, cs, rfl, hcs, hcalls, hfetched⟩
    · exact ⟨t, cs, rfl, hcs, hcalls, hfetched⟩
  · dsimp only [answerTo]
    rcases Utf8.decode bytes with m | text
    · exact ⟨t, cs, rfl, hcs, hcalls, hfetched⟩
    · exact ⟨t, cs, rfl, hcs, hcalls, hfetched⟩

theorem resolve_of_unknown (hk : s.vault.kind = .secrets project environmentFirst)
    (ho : s.fault? .openSecrets = none) (h : (question s key).shadow? environmentFirst = none)
    (hr : remembered? s.vault (.text key) = none) :
    ∃ t cs, resolve (.text key) s = (answerTo key ((question s key).reading project), t) ∧
      (cs = [.readSecret (secretName project (.text key))] ∨
        cs = [.openSecrets, .readSecret (secretName project (.text key))]) ∧
      t.calls = s.calls ++ cs ∧
      t.vault.fetched =
        s.vault.fetched ++ kept key (answerTo key ((question s key).reading project)) := by
  obtain ⟨l, hl⟩ := resolve_of_kind hk key
  rw [h] at hl
  dsimp only at hl
  rw [fromSecrets, if_pos (by rfl), Action.bind_of_ok (Action.read_apply _ _), hr] at hl
  obtain ⟨t, cs, hfetch, hcs, hcalls, hfetched⟩ :=
    fetch_apply (s := { s with log := l }) ho project key
  have hreading : (question { s with log := l } key).reading project =
      (question s key).reading project := by
    dsimp only [question, Question.reading]
    rw [Remote.readSecret_apply, Remote.readSecret_apply, fault?_noted]
  rw [hreading] at hfetch
  rw [hl]
  dsimp only
  generalize answerTo key ((question s key).reading project) = r at hfetch ⊢
  rcases r with e | _ | text
  · rw [Action.bind_of_error hfetch]
    exact ⟨t, cs, rfl, hcs, hcalls, by rw [hfetched]; exact (List.append_nil _).symm⟩
  · rw [Action.bind_of_ok hfetch]
    exact ⟨t, cs, rfl, hcs, hcalls, by rw [hfetched]; exact (List.append_nil _).symm⟩
  · rw [Action.bind_of_ok hfetch]
    exact ⟨_, cs, rfl, hcs, hcalls, congrArg (· ++ _) hfetched⟩

/-- A question remembers texts under its own key only. -/
theorem fetched_resolve (key : String) (s : Session) :
    ∃ l, (resolve (.text key) s).2.vault.fetched = s.vault.fetched ++ l ∧
      ∀ e ∈ l, e.1 = .text key := by
  have hsame : ∀ {t : Session}, t.vault.fetched = s.vault.fetched →
      ∃ l, t.vault.fetched = s.vault.fetched ++ l ∧ ∀ e ∈ l, e.1 = .text key :=
    fun h => ⟨[], h.trans (List.append_nil _).symm, nofun⟩
  have hkept : TransferBucket.Permits (fun s t : Session => t.vault.fetched = s.vault.fetched)
      methods := .same (·.vault.fetched) (fun _ _ => rfl) (fun _ _ => rfl) methods
  rcases hk : s.vault.kind with _ | ⟨project, environmentFirst⟩
  · rw [resolve, Action.bind_of_ok (Action.read_apply _ s), hk]
    exact hsame rfl
  obtain ⟨l, hl⟩ := resolve_of_kind hk key
  rw [hl]
  rcases (question s key).shadow? environmentFirst with _ | text
  · dsimp only
    rw [fromSecrets, if_pos (by rfl), Action.bind_of_ok (Action.read_apply _ _)]
    rcases remembered? s.vault (.text key) with _ | text
    · dsimp only
      have hfetch := fetch_along hkept (fun _ => rfl) project (.text key) { s with log := l }
      rcases hf : fetch project (.text key) { s with log := l } with ⟨e | _ | text, t⟩ <;>
        rw [hf] at hfetch
      · rw [Action.bind_of_error hf]
        exact hsame hfetch
      · rw [Action.bind_of_ok hf]
        exact hsame hfetch
      · rw [Action.bind_of_ok hf]
        refine ⟨[(.text key, text)], congrArg (· ++ _) hfetch, fun e he => ?_⟩
        rw [List.mem_singleton.1 he]
    · exact hsame rfl
  · exact hsame rfl

/-- **Other keys.** A question for one key changes nothing that is remembered under another. -/
theorem remembered?_resolve_of_ne {key other : String} (h : other ≠ key) (s : Session) :
    remembered? (resolve (.text other) s).2.vault (.text key) =
      remembered? s.vault (.text key) := by
  obtain ⟨l, hfetched, hl⟩ := fetched_resolve other s
  have hnone : l.find? (fun e => Value.sameKey e.1 (.text key)) = none := by
    rw [List.find?_eq_none]
    intro e he
    rw [hl e he, Value.sameKey_text, beq_iff_eq]
    exact h
  rw [remembered?, hfetched, List.find?_append, hnone, Option.or_none, ← remembered?]

theorem calls_question {t : Session} {r : Except Failure (Option String)} {cs : List Call}
    (h : resolve (.text key) s = (r, t)) (hcs : t.calls = s.calls ++ cs) :
    (question s key).calls = cs := by
  have hafter : (question s key).after = t := congrArg Prod.snd h
  rw [Question.calls, hafter, hcs]
  exact List.drop_left

end Asking

theorem Question.not_fetches {q : Question} (h : q.calls = []) (text : String) :
    ¬ q.Fetches text := by
  rintro ⟨-, c, hc, -⟩
  rw [h] at hc
  cases hc

/-! ## What is remembered -/

theorem remembered?_congr {v w : TransferBucket.Vault} (h : v.fetched = w.fetched) (key : Value) :
    remembered? v key = remembered? w key := by
  rw [remembered?, h, remembered?]

/-- Nothing is planned for the client of the vault. -/
def Step.SparesClient : Step → Prop
  | .event (.plan m _) => m ≠ .openSecrets
  | _ => True

theorem vault_event (e : Event) (s : Session) : (e.apply s).vault = s.vault := by
  cases e with
  | setVariable name value => cases value <;> rfl
  | _ => rfl

/-- After the questions `past`, a vault of secrets remembers the texts that they fetched. -/
structure Recalls (project : Value) (environmentFirst : Bool) (past : List Question)
    (s : Session) : Prop where
  kind : s.vault.kind = .secrets project environmentFirst
  client : s.schedule .openSecrets = []
  remembered : ∀ key text, remembered? s.vault (.text key) = some text ↔
    ∃ p ∈ past, p.key = key ∧ p.Fetches text

namespace Recalls

variable {project : Value} {environmentFirst : Bool} {past : List Question} {s : Session}
  {key : String}

theorem fault? (h : Recalls project environmentFirst past s) : s.fault? .openSecrets = none :=
  fault?_of_plan? (by rw [plan?, h.client]; rfl)

theorem unknown (h : Recalls project environmentFirst past s)
    (hnone : ∀ p ∈ past, p.key = key → ∀ text, ¬ p.Fetches text) :
    remembered? s.vault (.text key) = none := by
  rw [Option.eq_none_iff_forall_ne_some]
  intro text htext
  obtain ⟨p, hp, hkey, hfetches⟩ := (h.remembered key text).1 htext
  exact hnone p hp hkey text hfetches

theorem goesBy (h : Recalls project environmentFirst past s) (key : String) :
    (question s key).GoesBy project environmentFirst past where
  shadowed text htext := by
    obtain ⟨l, hl⟩ := resolve_of_shadow h.kind htext
    exact ⟨congrArg Prod.fst hl, calls_question hl (List.append_nil _).symm,
      congrArg (fun r => r.2.vault) hl⟩
  remembered hshadow p hp hkey text hfetches := by
    obtain ⟨l, hl⟩ := resolve_of_remembered h.kind hshadow
      ((h.remembered key text).2 ⟨p, hp, hkey, hfetches⟩)
    exact ⟨congrArg Prod.fst hl, calls_question hl (List.append_nil _).symm,
      congrArg (fun r => r.2.vault) hl⟩
  read hshadow hnone := by
    obtain ⟨t, cs, hl, hcs, hcalls, hfetched⟩ :=
      resolve_of_unknown h.kind h.fault? hshadow (h.unknown hnone)
    have hanswer : (question s key).answer = _ := congrArg Prod.fst hl
    have hafter : (question s key).after = t := congrArg Prod.snd hl
    refine ⟨?_, hanswer, ?_⟩
    · rw [calls_question hl hcalls]
      exact hcs
    · rw [hafter, hfetched, hanswer]
      rfl

theorem client_question (h : Recalls project environmentFirst past s) (key : String) :
    (question s key).after.schedule .openSecrets = [] := by
  have hcalls : (resolve (.text key)).Along (Calls methods) :=
    resolve_along { Calls.permits _ with
      opens := fun _ => Calls.of_eq rfl rfl
      remembers := fun _ _ _ => Calls.of_eq rfl rfl } (.text key)
  refine List.eq_nil_iff_forall_not_mem.2 fun plan hplan => ?_
  have hbefore := (hcalls s).mem_schedule hplan
  rw [h.client] at hbefore
  cases hbefore

theorem of_vault_eq (h : Recalls project environmentFirst past s) {q : Question}
    (hvault : q.after.vault = s.vault) (hschedule : q.after.schedule .openSecrets = [])
    (hcalls : q.calls = []) : Recalls project environmentFirst (past ++ [q]) q.after where
  kind := hvault ▸ h.kind
  client := hschedule
  remembered key text := by
    rw [hvault, h.remembered]
    constructor
    · rintro ⟨p, hp, hkey⟩
      exact ⟨p, List.mem_append_left _ hp, hkey⟩
    · rintro ⟨p, hp, hkey, hfetches⟩
      rcases List.mem_append.1 hp with hp | hp
      · exact ⟨p, hp, hkey, hfetches⟩
      · rw [List.mem_singleton.1 hp] at hfetches
        exact absurd hfetches (Question.not_fetches hcalls text)

theorem of_read (h : Recalls project environmentFirst past s) {q : Question}
    (hkind : q.after.vault.kind = s.vault.kind) (hclient : q.after.schedule .openSecrets = [])
    (hunknown : remembered? s.vault (.text q.key) = none)
    (hcalls : ∃ c ∈ q.calls, c.method = .readSecret)
    (hfetched : q.after.vault.fetched = s.vault.fetched ++ kept q.key q.answer) :
    Recalls project environmentFirst (past ++ [q]) q.after where
  kind := hkind.trans h.kind
  client := hclient
  remembered key text := by
    have hpast : (∃ p ∈ past ++ [q], p.key = key ∧ p.Fetches text) ↔
        remembered? s.vault (.text key) = some text ∨ q.key = key ∧ q.answer = .ok (some text) := by
      rw [h.remembered]
      simp only [List.mem_append, List.mem_singleton, or_and_right, exists_or, exists_eq_left,
        Question.Fetches, hcalls, and_true]
    rw [hpast]
    rcases hanswer : q.answer with e | _ | found <;> rw [hanswer] at hfetched
    · simp [remembered?_congr (hfetched.trans (List.append_nil _))]
    · simp [remembered?_congr (hfetched.trans (List.append_nil _))]
    · have hvault : remembered? q.after.vault (.text key) =
          (remembered? s.vault (.text key)).or
            (if Value.sameKey (.text q.key) (.text key) then some found else none) :=
        (remembered?_congr (w := { s.vault with fetched := s.vault.fetched ++ _ }) hfetched _).trans
          (remembered?_append s.vault (.text q.key) _ found)
      rw [hvault]
      by_cases hkey : q.key = key
      · rw [← hkey, hunknown]
        simp [Value.sameKey_text]
      · simp [hkey, Value.sameKey_text]

/-- **One question.** What was fetched is remembered after it, too. -/
theorem after_question (h : Recalls project environmentFirst past s) (key : String) :
    Recalls project environmentFirst (past ++ [question s key]) (question s key).after := by
  have hgoes := h.goesBy key
  have hclient := h.client_question key
  rcases hshadow : (question s key).shadow? environmentFirst with _ | text
  · by_cases hsome : ∃ p ∈ past, p.key = key ∧ ∃ text, p.Fetches text
    · obtain ⟨p, hp, hkey, text, hfetches⟩ := hsome
      obtain ⟨-, hcalls, hvault⟩ := hgoes.remembered hshadow p hp hkey text hfetches
      exact h.of_vault_eq hvault hclient hcalls
    · have hnone : ∀ p ∈ past, p.key = key → ∀ text, ¬ p.Fetches text :=
        fun p hp hkey text hfetches => hsome ⟨p, hp, hkey, text, hfetches⟩
      obtain ⟨hcalls, -, hfetched⟩ := hgoes.read hshadow hnone
      refine h.of_read (resolve_keeps (.text key) s).2.2 hclient (h.unknown hnone) ?_ hfetched
      rcases hcalls with hcalls | hcalls <;> rw [hcalls]
      · exact ⟨_, List.mem_singleton_self _, rfl⟩
      · exact ⟨_, List.mem_cons_of_mem _ (List.mem_singleton_self _), rfl⟩
  · obtain ⟨-, hcalls, hvault⟩ := hgoes.shadowed text hshadow
    exact h.of_vault_eq hvault hclient hcalls

theorem after_event (h : Recalls project environmentFirst past s) {e : Event}
    (he : (Step.event e).SparesClient) : Recalls project environmentFirst past (e.apply s) := by
  have hvault := vault_event e s
  refine ⟨hvault ▸ h.kind, ?_, hvault ▸ h.remembered⟩
  cases e with
  | plan m plans => exact (Schedule.append_of_ne _ (Ne.symm he) plans).trans h.client
  | setVariable name value => cases value <;> exact h.client
  | _ => exact h.client

/-- **A whole history.** Every question goes by those before it. -/
theorem goesBy_of_mem (h : Recalls project environmentFirst past s) {steps : List Step}
    (hsteps : ∀ step ∈ steps, step.SparesClient) {mid rest : List Question} {q : Question}
    (hq : questions s steps = mid ++ q :: rest) :
    q.GoesBy project environmentFirst (past ++ mid) := by
  -- along the steps; what was asked before a step is part of the past of the next one
  induction steps generalizing s past mid with
  | nil => simp [questions] at hq
  | cons step steps ih =>
    obtain ⟨hfirst, hrest⟩ := List.forall_mem_cons.1 hsteps
    cases step with
    | event e => exact ih (h.after_event hfirst) hrest hq
    | ask key =>
      rcases mid with _ | ⟨p, mid⟩
      · obtain ⟨rfl, -⟩ := List.cons.inj hq
        rw [List.append_nil]
        exact h.goesBy key
      · obtain ⟨rfl, hafter⟩ := List.cons.inj hq
        have hlater := ih (h.after_question key) hrest hafter
        rwa [List.append_assoc] at hlater

end Recalls

/-! ## One key alone -/

/-- The questions for a key. -/
def about (key : String) (qs : List Question) : List Question := qs.filter fun q => q.key = key

namespace Question

/-- What a question meets: the text of the environment, and what reading the secret brings. -/
def met (project : Value) (environmentFirst : Bool) (q : Question) :
    Option String × Except Fault (List UInt8) := (q.shadow? environmentFirst, q.reading project)

/-- What becomes of a question: its answer, and the secrets that it reads. -/
def upshot (q : Question) : Except Failure (Option String) × List Call :=
  (q.answer, q.calls.filter fun c => c.method = .readSecret)

end Question

/-- What becomes of questions for one key by what they meet, where a text is remembered or none. -/
def replay (project : Value) (key : String) :
    Option String → List (Option String × Except Fault (List UInt8)) →
    List (Except Failure (Option String) × List Call)
  | _, [] => []
  | known, (some text, _) :: rest => (.ok (some text), []) :: replay project key known rest
  | some text, (none, _) :: rest => (.ok (some text), []) :: replay project key (some text) rest
  | none, (none, reading) :: rest =>
    (answerTo key reading, [.readSecret (secretName project (.text key))]) ::
      replay project key (answerTo key reading).toOption.join rest

namespace Recalls

variable {project : Value} {environmentFirst : Bool} {past : List Question} {s : Session}
  {key : String}

theorem replay_question (h : Recalls project environmentFirst past s) (key : String)
    (rest : List (Option String × Except Fault (List UInt8))) :
    replay project key (remembered? s.vault (.text key))
        ((question s key).met project environmentFirst :: rest) =
      (question s key).upshot ::
        replay project key (remembered? (question s key).after.vault (.text key)) rest := by
  have hgoes := h.goesBy key
  rw [Question.met, Question.upshot]
  rcases hshadow : (question s key).shadow? environmentFirst with _ | text
  · rcases hknown : remembered? s.vault (.text key) with _ | text
    · have hnone : ∀ p ∈ past, p.key = key → ∀ text, ¬ p.Fetches text := by
        intro p hp hkey text hfetches
        rw [(h.remembered key text).2 ⟨p, hp, hkey, hfetches⟩] at hknown
        cases hknown
      obtain ⟨hcalls, hanswer, hfetched⟩ := hgoes.read hshadow hnone
      have hread : (question s key).calls.filter (fun c => c.method = .readSecret) =
          [.readSecret (secretName project (.text key))] := by
        rcases hcalls with hcalls | hcalls <;> rw [hcalls] <;> rfl
      have hkept : remembered? (question s key).after.vault (.text key) =
          (question s key).answer.toOption.join := by
        rcases ha : (question s key).answer with e | _ | text <;> rw [ha] at hfetched
        · exact (remembered?_congr (hfetched.trans (List.append_nil _)) _).trans hknown
        · exact (remembered?_congr (hfetched.trans (List.append_nil _)) _).trans hknown
        · have hthere : ∃ c ∈ (question s key).calls, c.method = .readSecret := by
            rcases hcalls with hcalls | hcalls <;> rw [hcalls]
            · exact ⟨_, List.mem_singleton_self _, rfl⟩
            · exact ⟨_, List.mem_cons_of_mem _ (List.mem_singleton_self _), rfl⟩
          exact ((h.after_question key).remembered key text).2
            ⟨_, List.mem_append_right _ (List.mem_singleton_self _), rfl, ha, hthere⟩
      rw [hread, hkept, hanswer]
      rfl
    · obtain ⟨p, hp, hkey, hfetches⟩ := (h.remembered key text).1 hknown
      obtain ⟨hanswer, hcalls, hvault⟩ := hgoes.remembered hshadow p hp hkey text hfetches
      have hsame : remembered? (question s key).after.vault (.text key) = some text :=
        (congrArg (remembered? · _) hvault).trans hknown
      rw [hanswer, hcalls, hsame]
      rfl
  · obtain ⟨hanswer, hcalls, hvault⟩ := hgoes.shadowed text hshadow
    have hsame : remembered? (question s key).after.vault (.text key) =
        remembered? s.vault (.text key) := congrArg (remembered? · _) hvault
    rw [hanswer, hcalls, hsame]
    rfl

/-- **One key alone.** What becomes of the questions for a key is decided by what they meet. -/
theorem upshots_eq_replay (h : Recalls project environmentFirst past s) {steps : List Step}
    (hsteps : ∀ step ∈ steps, step.SparesClient) (key : String) :
    (about key (questions s steps)).map Question.upshot =
      replay project key (remembered? s.vault (.text key))
        ((about key (questions s steps)).map (Question.met project environmentFirst)) := by
  induction steps generalizing s past with
  | nil => simp [questions, about, replay]
  | cons step steps ih =>
    obtain ⟨hfirst, hrest⟩ := List.forall_mem_cons.1 hsteps
    cases step with
    | event e =>
      rw [← vault_event e s]
      exact ih (h.after_event hfirst) hrest
    | ask other =>
      have hlater := ih (h.after_question other) hrest
      by_cases hother : other = key
      · subst hother
        have htake : about other (questions s (.ask other :: steps)) =
            question s other :: about other (questions (question s other).after steps) :=
          List.filter_cons_of_pos (decide_eq_true rfl)
        rw [htake, List.map_cons, List.map_cons, h.replay_question, hlater]
      · have hsame : remembered? (question s other).after.vault (.text key) =
            remembered? s.vault (.text key) := remembered?_resolve_of_ne hother s
        rw [hsame] at hlater
        have hskip : about key (questions s (.ask other :: steps)) =
            about key (questions (question s other).after steps) :=
          List.filter_cons_of_neg fun h => hother (of_decide_eq_true h)
        rw [hskip]
        exact hlater

end Recalls

/-! ## The theorem -/

/-- A history begins: the vault keeps the secrets of a project and remembers nothing yet, and
nothing is planned for its client. -/
structure Begins (project : Value) (environmentFirst : Bool) (s : Session) (steps : List Step) :
    Prop where
  kind : s.vault.kind = .secrets project environmentFirst
  fetched : s.vault.fetched = []
  client : s.schedule .openSecrets = []
  steps : ∀ step ∈ steps, step.SparesClient

theorem Begins.recalls {project : Value} {environmentFirst : Bool} {s : Session}
    {steps : List Step} (h : Begins project environmentFirst s steps) :
    Recalls project environmentFirst [] s where
  kind := h.kind
  client := h.client
  remembered key text := by simp [remembered?, h.fetched]

end Vault

/-- **What a vault remembers.** Every question of a history goes by the questions before it; no two
questions fetch a text for one key; and in two histories in which the questions for a key meet the
same, the same becomes of them, whatever else is asked. -/
theorem remembers_first_fetch (project : Value) (environmentFirst : Bool) (s : Session)
    (steps : List Vault.Step) (h : Vault.Begins project environmentFirst s steps) :
    (∀ past q rest, Vault.questions s steps = past ++ q :: rest →
      q.GoesBy project environmentFirst past) ∧
    ((Vault.questions s steps).Pairwise fun p q => p.key = q.key →
      ∀ text text', p.Fetches text → ¬ q.Fetches text') ∧
    ∀ s' steps', Vault.Begins project environmentFirst s' steps' → ∀ key,
      (Vault.about key (Vault.questions s steps)).map (·.met project environmentFirst) =
        (Vault.about key (Vault.questions s' steps')).map (·.met project environmentFirst) →
      (Vault.about key (Vault.questions s steps)).map (·.upshot) =
        (Vault.about key (Vault.questions s' steps')).map (·.upshot) := by
  have hgoes : ∀ past q rest, Vault.questions s steps = past ++ q :: rest →
      q.GoesBy project environmentFirst past :=
    fun past q rest hq => h.recalls.goesBy_of_mem h.steps hq
  refine ⟨hgoes, ?_, fun s' steps' h' key hmet => ?_⟩
  · rw [List.pairwise_iff_getElem]
    intro i j hi hj hij hkey text text' hfetches
    have hsplit := (List.take_append_drop j (Vault.questions s steps)).symm
    rw [List.drop_eq_getElem_cons hj] at hsplit
    have hpast : (Vault.questions s steps)[i] ∈ (Vault.questions s steps).take j :=
      List.mem_take_iff_getElem.2 ⟨i, by omega, rfl⟩
    have hq := hgoes _ _ _ hsplit
    rcases hshadow : (Vault.questions s steps)[j].shadow? environmentFirst with _ | shadow
    · exact Vault.Question.not_fetches (hq.remembered hshadow _ hpast hkey text hfetches).2.1 text'
    · exact Vault.Question.not_fetches (hq.shadowed shadow hshadow).2.1 text'
  · rw [h.recalls.upshots_eq_replay h.steps, h'.recalls.upshots_eq_replay h'.steps, hmet,
      Vault.remembered?_congr (h.fetched.trans h'.fetched.symm)]

/-- A secret that cannot be read at first is fetched, and is answered when another one is stored and
when a variable has come and gone; another key that is asked for in between changes nothing. -/
theorem remembers_first_fetch_shadowed :
    let project : Value := .text "p1"
    let s : Session := {
      cloud := { secrets := [("projects/p1/secrets/k/versions/latest", [97])] }
      vault := { kind := .secrets project true } }
    let down : Fault := ⟨.call .serviceUnavailable, "down"⟩
    let start : List Vault.Step := [.event (.plan .readSecret [some (.raise down)]), .ask "k",
      .ask "k", .event (.storeSecret "projects/p1/secrets/k/versions/latest" [98]), .ask "k"]
    let rest : List Vault.Step := [.event (.setVariable "k" (some "c")), .ask "k",
      .event (.setVariable "k" none), .ask "k"]
    let steps := start ++ rest
    let others := start ++ .ask "j" :: rest
    Vault.Begins project true s steps ∧ Vault.Begins project true s others ∧
      (Vault.questions s steps).map (·.answer) = [
        .error (.credential (.vaultUnread (.text "k") down)), .ok (some "a"), .ok (some "a"),
        .ok (some "c"), .ok (some "a")] ∧
      (∀ past q rest, Vault.questions s steps = past ++ q :: rest → q.GoesBy project true past) ∧
      (Vault.about "k" (Vault.questions s others)).map (·.upshot) =
        (Vault.about "k" (Vault.questions s steps)).map (·.upshot) := by
  intro project s down start rest steps others
  have hbegins : ∀ steps : List Vault.Step, (∀ step ∈ steps, step.SparesClient) →
      Vault.Begins project true s steps := fun _ hsteps => ⟨rfl, rfl, rfl, hsteps⟩
  have hsteps : Vault.Begins project true s steps := hbegins _ (by
    simp [steps, start, rest, Vault.Step.SparesClient])
  have hothers : Vault.Begins project true s others := hbegins _ (by
    simp [others, start, rest, Vault.Step.SparesClient])
  obtain ⟨-, -, halone⟩ := remembers_first_fetch project true s others hothers
  obtain ⟨hgoes, -, -⟩ := remembers_first_fetch project true s steps hsteps
  have hmet : (Vault.about "k" (Vault.questions s others)).map (·.met project true) =
      (Vault.about "k" (Vault.questions s steps)).map (·.met project true) := by
    decide +kernel
  refine ⟨hsteps, hothers, ?_, hgoes, halone s steps hsteps "k" hmet⟩
  decide +kernel

end TransferBucket
