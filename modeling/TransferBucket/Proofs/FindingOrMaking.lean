import TransferBucket.Proofs.Remote

/-!
# Finding something or making it

Buckets and accounts come about in one way (`findOrMake`): look for the thing; if it is not found,
make it; if it turns out to be there by then, take it as it is.

**Theorem (`findOrMake_ends`).** Whatever goes wrong on the way, as long as it is recognised, the
result, what it says of itself and the cloud agree (`FoundOrMade`): what is given is in the cloud,
it is said to be made exactly if it was lacking and has been added, and an error has changed
nothing. The call that makes it is made once at most. An error has a reason, too: where no fault is
planned, and nothing else is in the place of the thing, it is given.

**Before and after the making** (`Since`). All other steps do nothing to the cloud, so the cloud in
which something is looked for is the one in which it is made, and the one in which others are found
to have been first. A step of this kind ends in a value of which something holds, or in an error of
a certain kind (`Answers`); composites end so if their parts do.
-/

namespace TransferBucket

open Session

/-! ## What is planned -/

/-- The fault that a plan brings. -/
def Plan.fault? : Plan → Option Fault
  | .raise f => some f
  | .stale => none
  | .raiseAfter _ f => some f

namespace Session

/-- The faults that are planned for the calls of some methods. -/
def plannedFaults (s : Session) (ms : List Method) : List Fault :=
  ms.flatMap fun m => (s.schedule m).filterMap fun p => p.bind Plan.fault?

/-- The calls of a method in the journal. -/
def callsOf (s : Session) (m : Method) : List Call := s.calls.filter fun c => c.method = m

variable {s : Session} {m : Method}

/-- The fault that the next call ends in is planned. -/
theorem exists_plan_of_fault? {f : Fault} (h : s.fault? m = some f) :
    ∃ p, some p ∈ s.schedule m ∧ p.fault? = some f := by
  rw [fault?] at h
  rcases hp : s.plan? m with _ | _ | _ | _ <;> rw [hp] at h <;> cases h <;>
    exact ⟨_, mem_schedule_of_plan? hp, rfl⟩

theorem callsOf_announced (s : Session) {c : Call} (h : c.method = m) :
    (s.announced c).callsOf m = s.callsOf m ++ [c] := by
  simp [callsOf, announced, h]

theorem callsOf_announced_of_ne (s : Session) {c : Call} (h : c.method ≠ m) :
    (s.announced c).callsOf m = s.callsOf m := by
  simp [callsOf, announced, h]

end Session

/-- Since the session `s` nothing was done to the cloud, the calls `cs` were made of the method `m`,
and nothing new was planned. -/
structure Since (s : Session) (m : Method) (cs : List Call) (t : Session) : Prop where
  cloud : t.cloud = s.cloud
  calls : t.callsOf m = s.callsOf m ++ cs
  schedule : ∀ n, t.schedule n ⊆ s.schedule n

namespace Since

variable {s t : Session} {m : Method} {cs : List Call}

theorem refl (s : Session) (m : Method) : Since s m [] s :=
  ⟨rfl, (List.append_nil _).symm, fun _ _ h => h⟩

/-- Clients that are opened and messages that are logged do not count. -/
theorem aside (h : Since s m cs t) (links : Links) (log : List LogRecord) :
    Since s m cs { t with links, log } := ⟨h.cloud, h.calls, h.schedule⟩

theorem schedule_announced (h : Since s m cs t) (c : Call) (n : Method) :
    (t.announced c).schedule n ⊆ s.schedule n := by
  intro p hp
  refine h.schedule n ?_
  by_cases hn : n = c.method
  · subst hn
    rw [announced_schedule, Schedule.drop_self] at hp
    exact List.mem_of_mem_tail hp
  · rwa [announced_schedule, Schedule.drop_of_ne _ hn] at hp

theorem announced (h : Since s m cs t) {c : Call} (hc : c.method ≠ m) :
    Since s m cs (t.announced c) where
  cloud := h.cloud
  calls := (callsOf_announced_of_ne t hc).trans h.calls
  schedule := h.schedule_announced c

/-- The call itself is one more. -/
theorem announced_self (h : Since s m [] t) {c : Call} (hc : c.method = m) :
    Since s m [c] (t.announced c) where
  cloud := h.cloud
  calls := by rw [callsOf_announced t hc, h.calls, List.append_nil]
  schedule := h.schedule_announced c

/-- A fault that is met now was planned then. -/
theorem mem_plannedFaults (h : Since s m cs t) {ms : List Method} {n : Method} (hn : n ∈ ms)
    {f : Fault} (hf : t.fault? n = some f) : f ∈ s.plannedFaults ms := by
  obtain ⟨p, hp, hpf⟩ := exists_plan_of_fault? hf
  exact List.mem_flatMap.2 ⟨n, hn, List.mem_filterMap.2 ⟨some p, h.schedule n hp, hpf⟩⟩

end Since

/-! ## How runs end -/

/-- The run of an action ends in a result and a state of which `Q` holds. -/
def Action.Ends {σ ε α : Type} (x : Action σ ε α) (Q : Except ε α → σ → Prop) (s : σ) : Prop :=
  Q (x s).1 (x s).2

theorem Action.Ends.bind {σ ε α β : Type} {x : Action σ ε α} {f : α → Action σ ε β}
    {P : Except ε α → σ → Prop} {Q : Except ε β → σ → Prop} {s : σ} (hx : x.Ends P s)
    (hfail : ∀ e t, P (.error e) t → Q (.error e) t)
    (hf : ∀ a t, P (.ok a) t → (f a).Ends Q t) : (x >>= f).Ends Q s := by
  rw [Ends] at hx
  rcases hrun : x s with ⟨e | a, t⟩ <;> rw [hrun] at hx
  · rw [Ends, Action.bind_of_error hrun]
    exact hfail e t hx
  · rw [Ends, Action.bind_of_ok hrun]
    exact hf a t hx

/-- How a step ends that does nothing to the cloud: in a value of which `Q` holds, or in an error of
which `E` holds. -/
structure Answers {ε α : Type} (s : Session) (m : Method) (cs : List Call) (Q : α → Prop)
    (E : ε → Prop) (r : Except ε α) (t : Session) : Prop where
  since : Since s m cs t
  ok : ∀ a, r = .ok a → Q a
  error : ∀ e, r = .error e → E e

namespace Answers

variable {ε δ α β : Type} {s t : Session} {m : Method} {cs : List Call} {Q : α → Prop}
  {E : ε → Prop}

theorem value {a : α} (h : Since s m cs t) (ha : Q a) : Answers s m cs Q E (.ok a) t :=
  ⟨h, fun _ hb => Except.ok.inj hb ▸ ha, nofun⟩

theorem failure {e : ε} (h : Since s m cs t) (he : E e) : Answers s m cs Q E (.error e) t :=
  ⟨h, nofun, fun _ he' => Except.error.inj he' ▸ he⟩

theorem error_imp {x : Action Session ε α} {D : ε → Prop} (hx : x.Ends (Answers s m cs Q E) t)
    (h : ∀ e, E e → D e) : x.Ends (Answers s m cs Q D) t :=
  ⟨hx.since, hx.ok, fun e he => h e (hx.error e he)⟩

theorem bind {x : Action Session ε α} {f : α → Action Session ε β} {P : β → Prop}
    (hx : x.Ends (Answers s m cs Q E) t)
    (hf : ∀ a u, Since s m cs u → Q a → (f a).Ends (Answers s m cs P E) u) :
    (x >>= f).Ends (Answers s m cs P E) t := by
  apply Action.Ends.bind hx
  · intro e u h
    exact .failure h.since (h.error e rfl)
  · intro a u h
    exact hf a u h.since (h.ok a rfl)

theorem mapError {x : Action Session ε α} {report : ε → δ} {D : δ → Prop}
    (hx : x.Ends (Answers s m cs Q E) t) (hreport : ∀ e, E e → D (report e)) :
    (Action.mapError report x).Ends (Answers s m cs Q D) t := by
  rw [Action.Ends] at hx
  rcases hrun : x t with ⟨e | a, u⟩ <;> rw [hrun] at hx <;>
    rw [Action.Ends, Action.mapError_apply, hrun]
  · exact .failure hx.since (hreport e (hx.error e rfl))
  · exact .value hx.since (hx.ok a rfl)

/-- A call of another method that changes nothing. -/
theorem of_read {x : Remote α} {c : Call} {r : Except Fault α} {E : Fault → Prop}
    (h : Since s m cs t) (hx : x t = (r, t.announced c)) (hc : c.method ≠ m)
    (hok : ∀ a, r = .ok a → Q a) (herror : ∀ f, r = .error f → E f) :
    x.Ends (Answers s m cs Q E) t := by
  rw [Action.Ends, hx]
  exact ⟨h.announced hc, hok, herror⟩

/-- Opening a client: not again while it is open. -/
theorem of_open {x : Remote Unit} {c : Call} {n : Method} {l : Links} {isOpen : Bool}
    {ms : List Method} (h : Since s m cs t) (hn : n ∈ ms) (hc : c.method ≠ m)
    (hx : x t = if isOpen then (.ok (), t) else match t.fault? n with
      | some f => (.error f, t.announced c)
      | none => (.ok (), { t.announced c with links := l })) :
    x.Ends (Answers s m cs (fun _ => True) (· ∈ s.plannedFaults ms)) t := by
  have hcalled := h.announced hc
  rw [Action.Ends, hx]
  by_cases hopen : isOpen
  · rw [if_pos hopen]
    exact .value h trivial
  · rw [if_neg hopen]
    cases hf : t.fault? n with
    | none => exact .value (hcalled.aside l _) trivial
    | some f => exact .failure hcalled (h.mem_plannedFaults hn hf)

end Answers

/-! ## Finding and making -/

/-- What is looked for in a cloud, and made where it is lacking. -/
structure Sought (α : Type) where
  /-- Something that may be given for it is in a cloud. -/
  IsIn : Cloud → α → Prop
  /-- Nothing in a cloud is in the place of what is made. -/
  Lacks : Cloud → Prop
  /-- Something else is. -/
  IsTaken : Cloud → Prop
  /-- What is made. -/
  new : α
  /-- The cloud with what is made. -/
  add : Cloud → Cloud
  /-- The call that makes it. -/
  call : Call
  /-- The methods called to find or make it. -/
  methods : List Method
  /-- The problems for which it is not given. -/
  Refuses : ProvisionProblem → Prop
  isIn_add : ∀ c, Lacks c → IsIn (add c) new
  add_ne : ∀ c, add c ≠ c

namespace Sought

variable {α : Type} (k : Sought α)

/-- The failures for which it is not given. -/
def Refused (e : Failure) : Prop := ∃ p, e = .provision p ∧ k.Refuses p

/-- Something is in the way of giving it: a fault is planned, or its place is taken. -/
def Hindered (s : Session) : Prop := s.plannedFaults k.methods ≠ [] ∨ k.IsTaken s.cloud

theorem hindered_of_mem {s : Session} {f : Fault} (h : f ∈ s.plannedFaults k.methods) :
    k.Hindered s := Or.inl (List.ne_nil_of_mem h)

/-- How making it ends: with the thing, added to the cloud, or in a fault, which was planned or says
that it is there. -/
def Makes (isThere : Fault → Bool) (s : Session) (r : Except Fault α) (t : Session) : Prop :=
  match r with
  | .ok a => a = k.new ∧ k.Lacks s.cloud ∧ t.cloud = k.add s.cloud ∧
      t.callsOf k.call.method = s.callsOf k.call.method ++ [k.call]
  | .error f => (f ∈ s.plannedFaults k.methods ∨ isThere f ∧ ¬k.Lacks s.cloud) ∧
      ∃ cs, (cs = [] ∨ cs = [k.call]) ∧ Since s k.call.method cs t

end Sought

/-- How finding or making something ends. -/
structure FoundOrMade {α : Type} (k : Sought α) (s : Session)
    (run : Except Failure (Lookup α) × Session) : Prop where
  /-- What is given is in the cloud. -/
  given : ∀ found, run.1 = .ok found → k.IsIn run.2.cloud found.value
  /-- It is said to be made exactly if it is what was added to the cloud. -/
  created_iff : ∀ found, run.1 = .ok found → (found.created = true ↔ run.2.cloud = k.add s.cloud)
  /-- What is made was lacking before, and is made by one call. -/
  made : ∀ found, run.1 = .ok found → found.created = true →
    found.value = k.new ∧ k.Lacks s.cloud ∧
      run.2.callsOf k.call.method = s.callsOf k.call.method ++ [k.call]
  /-- What is not made is given as it is. -/
  kept : ∀ found, run.1 = .ok found → found.created = false → run.2.cloud = s.cloud
  /-- An error is a problem of provisioning, and nothing has changed. -/
  refused : ∀ e, run.1 = .error e → k.Refused e ∧ run.2.cloud = s.cloud
  /-- Where nothing is in the way, it is given. -/
  answered : ¬k.Hindered s → ∃ found, run.1 = .ok found
  /-- One call at most is made. -/
  calls : run.2.callsOf k.call.method = s.callsOf k.call.method ∨
    run.2.callsOf k.call.method = s.callsOf k.call.method ++ [k.call]

namespace FoundOrMade

variable {α : Type} {k : Sought α} {s t : Session} {cs : List Call}

theorem calls_of_since (h : Since s k.call.method cs t) (hcs : cs = [] ∨ cs = [k.call]) :
    t.callsOf k.call.method = s.callsOf k.call.method ∨
      t.callsOf k.call.method = s.callsOf k.call.method ++ [k.call] := by
  rcases hcs with rfl | rfl
  · exact Or.inl (h.calls.trans (List.append_nil _))
  · exact Or.inr h.calls

theorem of_found {a : α} (h : Since s k.call.method cs t) (hcs : cs = [] ∨ cs = [k.call])
    (ha : k.IsIn s.cloud a) : FoundOrMade k s (.ok ⟨a, false⟩, t) where
  given found hfound := by
    cases hfound
    rwa [h.cloud]
  created_iff found hfound := by
    cases hfound
    refine ⟨nofun, fun hadd => absurd (hadd.symm.trans h.cloud) (k.add_ne _)⟩
  made found hfound htrue := by
    cases hfound
    cases htrue
  kept _ _ _ := h.cloud
  refused _ herror := nomatch herror
  answered _ := ⟨_, rfl⟩
  calls := calls_of_since h hcs

theorem of_made (hlacks : k.Lacks s.cloud) (hcloud : t.cloud = k.add s.cloud)
    (hcalls : t.callsOf k.call.method = s.callsOf k.call.method ++ [k.call]) :
    FoundOrMade k s (.ok ⟨k.new, true⟩, t) where
  given found hfound := by
    cases hfound
    rw [hcloud]
    exact k.isIn_add _ hlacks
  created_iff found hfound := by
    cases hfound
    exact ⟨fun _ => hcloud, fun _ => rfl⟩
  made found hfound _ := by
    cases hfound
    exact ⟨rfl, hlacks, hcalls⟩
  kept found hfound hfalse := by
    cases hfound
    cases hfalse
  refused _ herror := nomatch herror
  answered _ := ⟨_, rfl⟩
  calls := Or.inr hcalls

theorem of_refused {e : Failure} (h : Since s k.call.method cs t) (hcs : cs = [] ∨ cs = [k.call])
    (he : k.Refused e) (hhindered : k.Hindered s) : FoundOrMade k s (.error e, t) where
  given _ hfound := nomatch hfound
  created_iff _ hfound := nomatch hfound
  made _ hfound := nomatch hfound
  kept _ hfound := nomatch hfound
  refused _ herror := Except.error.inj herror ▸ ⟨he, h.cloud⟩
  answered hfree := absurd hhindered hfree
  calls := calls_of_since h hcs

end FoundOrMade

/-- Look for something; if it is not found, make it; if a fault says that it is there by then, take
it. -/
def findOrMake {α : Type} (look : Action Session Failure (Option α)) (make : Remote α)
    (isThere : Fault → Bool) (take : Action Session Failure α) (refuse : Fault → Failure)
    (reuse announce : α → Action Session Failure Unit) : Action Session Failure (Lookup α) := do
  match ← look with
  | some a =>
    reuse a
    pure ⟨a, false⟩
  | none =>
    .resume make fun r =>
      match r with
      | .ok a => do
        announce a
        pure ⟨a, true⟩
      | .error f =>
        if isThere f then do
          let a ← take
          pure ⟨a, false⟩
        else .fail (refuse f)

/-- A step that only logs messages. -/
def Action.OnlyLogs (x : Action Session Failure Unit) : Prop :=
  ∀ s, ∃ l, x s = (.ok (), { s with log := l })

section FindOrMake

variable {α : Type} {k : Sought α} {s : Session} {look : Action Session Failure (Option α)}
  {make : Remote α} {isThere : Fault → Bool} {take : Action Session Failure α}
  {refuse : Fault → Failure} {reuse announce : α → Action Session Failure Unit}

/-- **Finding something or making it.** -/
theorem findOrMake_ends (hs : ∀ f ∈ s.plannedFaults k.methods, f.isRecognised)
    (hlook : look.Ends (Answers s k.call.method [] (fun found => ∀ a, found = some a →
      k.IsIn s.cloud a) fun e => k.Refused e ∧ k.Hindered s) s)
    (hmake : ∀ t, Since s k.call.method [] t → make.Ends (k.Makes isThere s) t)
    (htake : ∀ cs t, Since s k.call.method cs t →
      take.Ends (Answers s k.call.method cs (k.IsIn s.cloud)
        fun e => k.Refused e ∧ (k.Lacks s.cloud ∨ k.Hindered s)) t)
    (hrefuse : ∀ f, f.isRecognised → k.Refused (refuse f))
    (hreuse : ∀ a, (reuse a).OnlyLogs) (hannounce : (announce k.new).OnlyLogs) :
    FoundOrMade k s (findOrMake look make isThere take refuse reuse announce s) := by
  rw [Action.Ends] at hlook
  rcases hl : look s with ⟨e | found, t⟩ <;> rw [hl] at hlook
  · rw [findOrMake, Action.bind_of_error hl]
    obtain ⟨hrefused, hhindered⟩ := hlook.error e rfl
    exact .of_refused hlook.since (Or.inl rfl) hrefused hhindered
  cases found with
  | some a =>
    obtain ⟨log, hlogged⟩ := hreuse a t
    rw [findOrMake, Action.bind_of_ok hl]
    dsimp only
    rw [Action.bind_of_ok hlogged]
    exact .of_found (hlook.since.aside _ log) (Or.inl rfl) (hlook.ok _ rfl a rfl)
  | none =>
    have hmade := hmake t hlook.since
    rw [Action.Ends] at hmade
    rw [findOrMake, Action.bind_of_ok hl]
    dsimp only
    rw [Action.resume_apply]
    rcases hm : make t with ⟨f | a, u⟩ <;> rw [hm] at hmade
    -- A fault has added nothing, whether or not the call was made that would have.
    · obtain ⟨hf, cs, hcs, hsince⟩ := hmade
      dsimp only
      by_cases hthere : isThere f
      · have htaken := htake cs u hsince
        rw [Action.Ends] at htaken
        rw [if_pos hthere]
        rcases ht : take u with ⟨e | a, v⟩ <;> rw [ht] at htaken
        · obtain ⟨hrefused, hreason⟩ := htaken.error e rfl
          rw [Action.bind_of_error ht]
          refine .of_refused htaken.since hcs hrefused ?_
          -- If it is not there after all, then the fault that said so was planned.
          rcases hf with hplanned | ⟨-, hnot⟩
          · exact k.hindered_of_mem hplanned
          · exact hreason.resolve_left hnot
        · rw [Action.bind_of_ok ht]
          exact .of_found htaken.since hcs (htaken.ok a rfl)
      · have hplanned := hf.resolve_right fun h => hthere h.1
        rw [if_neg hthere]
        exact .of_refused hsince hcs (hrefuse f (hs f hplanned)) (k.hindered_of_mem hplanned)
    · obtain ⟨rfl, hlacks, hcloud, hcalls⟩ := hmade
      obtain ⟨log, hlogged⟩ := hannounce u
      dsimp only
      rw [Action.bind_of_ok hlogged]
      exact .of_made hlacks hcloud hcalls

end FindOrMake

end TransferBucket
