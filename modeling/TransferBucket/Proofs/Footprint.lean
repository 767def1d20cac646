import TransferBucket.Provision

/-!
# What a step may change

Every step of the program is followed along a relation between the session before it and the
session after it, whatever the schedule plans and however the step ends.

**Relations** (`Permits R ms`). The relation `R` is reflexive and transitive, minds no message in
the log that reports no error, and no calls of the methods `ms`. Invariants of the cloud, "this part
is as it was", "only these calls were made" and "no error is logged" are all of this form.

**Steps** (`Along R x`). Every run of `x` leads from a session to one related to it. Composites
are along `R` when their parts are; the calls of the remote services are when `R` also permits
what they do to the cloud, the links or the vault.

**Journals** (`Calls ms`, `Quiet`). The calls made are of the methods `ms`, and the schedule has
lost one plan for each of them; the messages logged report no error.
-/

namespace TransferBucket

open Session

/-! ## The next call of a method -/

namespace Session

/-- What is planned for the next call of a method. -/
def plan? (s : Session) (m : Method) : Option Plan := (s.schedule m).head?.join

/-- The fault that the next call of a method ends in at once. -/
def fault? (s : Session) (m : Method) : Option Fault :=
  match s.plan? m with
  | some (.raise f) => some f
  | some (.raiseAfter _ f) => some f
  | _ => none

/-- The session once a call is announced. -/
def announced (s : Session) (c : Call) : Session :=
  { s with calls := s.calls ++ [c], schedule := s.schedule.drop c.method }

variable {ε : Type}

theorem announce_eq (c : Call) (s : Session) :
    (announce c : Action Session ε (Option Plan)) s = (.ok (s.plan? c.method), s.announced c) := rfl

theorem note_apply (level : Level) (message : String) (s : Session) :
    (note level message : Action Session ε Unit) s =
      (.ok (), { s with log := s.log ++ [⟨level, message⟩] }) := rfl

theorem fault?_noted (s : Session) (l : List LogRecord) (m : Method) :
    { s with log := l }.fault? m = s.fault? m := rfl

@[simp]
theorem announced_cloud (s : Session) (c : Call) : (s.announced c).cloud = s.cloud := rfl

@[simp]
theorem announced_environment (s : Session) (c : Call) :
    (s.announced c).environment = s.environment := rfl

@[simp]
theorem announced_vault (s : Session) (c : Call) : (s.announced c).vault = s.vault := rfl

@[simp]
theorem announced_links (s : Session) (c : Call) : (s.announced c).links = s.links := rfl

theorem announced_schedule (s : Session) (c : Call) :
    (s.announced c).schedule = s.schedule.drop c.method := rfl

theorem plan?_announced_of_ne (s : Session) {c : Call} {m : Method} (h : m ≠ c.method) :
    (s.announced c).plan? m = s.plan? m := by
  rw [plan?, announced_schedule, Schedule.drop_of_ne _ h, plan?]

theorem fault?_of_plan? {s : Session} {m : Method} (h : s.plan? m = none) : s.fault? m = none := by
  rw [fault?, h]

/-- What is planned for the next call is in the schedule. -/
theorem mem_schedule_of_plan? {s : Session} {m : Method} {p : Plan} (h : s.plan? m = some p) :
    some p ∈ s.schedule m :=
  List.mem_of_mem_head? (Option.join_eq_some_iff.1 h)

/-- Where nothing is planned at all, nothing is planned for the next call. -/
theorem plan?_of_schedule_none {s : Session} (h : s.schedule = .none) (m : Method) :
    s.plan? m = none := by
  rw [plan?, h]
  rfl

theorem fault?_of_schedule_none {s : Session} (h : s.schedule = .none) (m : Method) :
    s.fault? m = none := fault?_of_plan? (plan?_of_schedule_none h m)

/-- No fault is planned for the next call of any of some methods. -/
def IsFree (s : Session) (ms : List Method) : Prop := ∀ m ∈ ms, s.fault? m = none

theorem isFree_of_schedule_none {s : Session} (h : s.schedule = .none) (ms : List Method) :
    s.IsFree ms := fun m _ => fault?_of_schedule_none h m

theorem announced_schedule_none {s : Session} (h : s.schedule = .none) (c : Call) :
    (s.announced c).schedule = .none := by
  rw [announced_schedule, h, Schedule.drop_none]

end Session

/-! ## Steps along a relation -/

/-- Every run of an action leads to a state that is related to the one before it. -/
def Action.Along {σ ε α : Type} (R : σ → σ → Prop) (x : Action σ ε α) : Prop := ∀ s, R s (x s).2

/-- A relation between sessions that steps can be followed along, where they call only some
methods. -/
structure Permits (R : Session → Session → Prop) (ms : List Method) : Prop where
  refl : ∀ s, R s s
  trans : ∀ {s t u}, R s t → R t u → R s u
  log : ∀ s r, r.level ≠ .error → R s { s with log := s.log ++ [r] }
  call : ∀ s c, c.method ∈ ms → R s (s.announced c)

namespace Permits

variable {R : Session → Session → Prop} {ms ns : List Method} {ε δ α β : Type}

theorem mono (h : Permits R ns) (hms : ms ⊆ ns) : Permits R ms :=
  { h with call := fun s c hc => h.call s c (hms hc) }

/-- Steps can be followed along what stays the same, if neither journal is part of it. -/
theorem same (f : Session → β) (hlog : ∀ s l, f { s with log := l } = f s)
    (hcall : ∀ s c, f (s.announced c) = f s) (ms : List Method) :
    Permits (fun s t => f t = f s) ms where
  refl _ := rfl
  trans h₁ h₂ := h₂.trans h₁
  log s _ _ := hlog s _
  call s c _ := hcall s c

theorem cloud (ms : List Method) : Permits (fun s t => t.cloud = s.cloud) ms :=
  .same (·.cloud) (fun _ _ => rfl) (fun _ _ => rfl) ms

theorem pure (h : Permits R ms) (a : α) : (Pure.pure a : Action Session ε α).Along R :=
  fun s => h.refl s

theorem fail (h : Permits R ms) (e : ε) : (Action.fail e : Action Session ε α).Along R :=
  fun s => h.refl s

theorem read (h : Permits R ms) (f : Session → α) :
    (Action.read f : Action Session ε α).Along R := fun s => h.refl s

theorem ofExcept (h : Permits R ms) (r : Except ε α) :
    (Action.ofExcept r : Action Session ε α).Along R := fun s => h.refl s

theorem note (h : Permits R ms) {level : Level} (hlevel : level ≠ .error) (message : String) :
    (Session.note level message : Action Session ε Unit).Along R := fun s => h.log s _ hlevel

theorem debug (h : Permits R ms) (message : String) :
    (Session.debug message : Action Session ε Unit).Along R := h.note (by decide) _

theorem info (h : Permits R ms) (message : String) :
    (Session.info message : Action Session ε Unit).Along R := h.note (by decide) _

theorem warning (h : Permits R ms) (message : String) :
    (Session.warning message : Action Session ε Unit).Along R := h.note (by decide) _

theorem bind (h : Permits R ms) {x : Action Session ε α} {f : α → Action Session ε β}
    (hx : x.Along R) (hf : ∀ a, (f a).Along R) : (x >>= f).Along R := by
  intro s
  have hs := hx s
  rcases hxs : x s with ⟨e | a, t⟩
  · rw [Action.bind_of_error hxs]
    rwa [hxs] at hs
  · rw [Action.bind_of_ok hxs]
    rw [hxs] at hs
    exact h.trans hs (hf a t)

theorem resume (h : Permits R ms) {x : Action Session ε α} {f : Except ε α → Action Session δ β}
    (hx : x.Along R) (hf : ∀ r, (f r).Along R) : (Action.resume x f).Along R := by
  intro s
  rw [Action.resume_apply]
  exact h.trans (hx s) (hf _ _)

end Permits

theorem Action.Along.mapError {R : Session → Session → Prop} {ε δ α : Type}
    {x : Action Session ε α} (hx : x.Along R) (f : ε → δ) : (Action.mapError f x).Along R := by
  intro s
  rw [Action.mapError_apply]
  exact hx s

/-! ## Journals -/

/-- Between two sessions only calls of the methods `ms` were made, and the schedule lost as many
plans for every method as there were calls of it. -/
def Calls (ms : List Method) (s t : Session) : Prop :=
  ∃ cs, t.calls = s.calls ++ cs ∧ (∀ c ∈ cs, c.method ∈ ms) ∧
    ∀ m, t.schedule m = (s.schedule m).drop (cs.countP (·.method = m))

namespace Calls

variable {ms ns : List Method} {s t u : Session}

theorem refl (ms : List Method) (s : Session) : Calls ms s s := ⟨[], by simp⟩

theorem trans : Calls ms s t → Calls ms t u → Calls ms s u := by
  rintro ⟨cs, hcs, hms, hs⟩ ⟨ds, hds, hmt, ht⟩
  refine ⟨cs ++ ds, by rw [hds, hcs, List.append_assoc], fun c hc => ?_, fun m => ?_⟩
  · exact (List.mem_append.1 hc).elim (hms c) (hmt c)
  · rw [ht, hs, List.drop_drop, List.countP_append]

theorem mono (h : Calls ms s t) (hms : ms ⊆ ns) : Calls ns s t := by
  obtain ⟨cs, hcs, hin, hs⟩ := h
  exact ⟨cs, hcs, fun c hc => hms (hin c hc), hs⟩

theorem announced {c : Call} (hc : c.method ∈ ms) (s : Session) : Calls ms s (s.announced c) := by
  refine ⟨[c], rfl, fun d hd => ?_, fun m => ?_⟩
  · rw [List.mem_singleton.1 hd]
    exact hc
  · by_cases h : m = c.method
    · subst h
      simp [Session.announced]
    · simp [Session.announced, Schedule.drop_of_ne _ h, Ne.symm h]

/-- Sessions with the same journals are joined by no calls. -/
theorem of_eq (hc : t.calls = s.calls) (hs : t.schedule = s.schedule) : Calls ms s t :=
  ⟨[], by simp [hc], by simp, by simp [hs]⟩

theorem permits (ms : List Method) : Permits (Calls ms) ms where
  refl := refl ms
  trans := trans
  log _ _ _ := of_eq rfl rfl
  call s _ hc := announced hc s

/-- A method that is not among those called keeps its plans. -/
theorem schedule_eq (h : Calls ms s t) {m : Method} (hm : m ∉ ms) :
    t.schedule m = s.schedule m := by
  obtain ⟨cs, -, hin, hs⟩ := h
  have h0 : cs.countP (·.method = m) = 0 := by
    rw [List.countP_eq_zero]
    rintro c hc hcm
    exact hm (of_decide_eq_true hcm ▸ hin c hc)
  rw [hs, h0, List.drop_zero]

theorem plan?_eq (h : Calls ms s t) {m : Method} (hm : m ∉ ms) : t.plan? m = s.plan? m := by
  rw [Session.plan?, h.schedule_eq hm, Session.plan?]

theorem fault?_eq (h : Calls ms s t) {m : Method} (hm : m ∉ ms) : t.fault? m = s.fault? m := by
  rw [Session.fault?, h.plan?_eq hm, Session.fault?]

/-- What is planned later was planned before. -/
theorem mem_schedule (h : Calls ms s t) {m : Method} {p : Option Plan} (hp : p ∈ t.schedule m) :
    p ∈ s.schedule m := by
  obtain ⟨cs, -, -, hs⟩ := h
  rw [hs] at hp
  exact List.mem_of_mem_drop hp

/-- A schedule that plans nothing keeps planning nothing. -/
theorem schedule_none (h : Calls ms s t) (hs : s.schedule = .none) : t.schedule = .none := by
  obtain ⟨cs, -, -, hd⟩ := h
  funext m
  rw [hd, hs]
  exact List.drop_nil

end Calls

/-- Between two sessions messages were logged, none of which reports an error. -/
def Quiet (s t : Session) : Prop := ∃ l, t.log = s.log ++ l ∧ ∀ r ∈ l, r.level ≠ .error

namespace Quiet

variable {s t u : Session}

theorem of_eq (h : t.log = s.log) : Quiet s t := ⟨[], by simp [h], by simp⟩

theorem trans : Quiet s t → Quiet t u → Quiet s u := by
  rintro ⟨l, hl, hs⟩ ⟨l', hl', ht⟩
  refine ⟨l ++ l', by rw [hl', hl, List.append_assoc], fun r hr => ?_⟩
  exact (List.mem_append.1 hr).elim (hs r) (ht r)

theorem permits (ms : List Method) : Permits Quiet ms where
  refl _ := of_eq rfl
  trans := trans
  log _ r hr := ⟨[r], rfl, fun _ h => List.mem_singleton.1 h ▸ hr⟩
  call _ _ _ := of_eq rfl

end Quiet

end TransferBucket
