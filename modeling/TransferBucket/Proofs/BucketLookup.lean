import TransferBucket.Proofs.FindingOrMaking

/-!
# Finding or making a bucket

**Theorem (`bucket_found_or_made`).** In every session whose planned faults are recognised, the
search for a bucket by its name, which is made if none has it, ends in one of three ways
(`FoundOrMade`): the bucket of that name is given as it is and no bucket has changed; it is made in
the location, and with the storage class if there is one; or it is refused with a message that
names it and the location, and no bucket has changed. It is refused only if a fault was planned.

A conflict is a recognised fault, too, but it is asked for first: where others have made the bucket
in between, it is read. A fault in that is reported as one of the making would be.
-/

namespace TransferBucket

open Session

namespace Storage

/-- The methods called to find or make a bucket. -/
def lookupMethods : List Method := [.openStorage, .lookupBucket, .getBucket, .createBucket]

/-- The bucket with a name, which is made in a location. Its storage class is unset if none is asked
for, or an empty one. -/
def sought (name location storageClass : Value) : Sought Bucket where
  IsIn c b := c.bucket? name = some b
  Lacks c := c.bucket? name = none
  IsTaken _ := False
  new := ⟨name, location, storageClass.orElse .null, [], []⟩
  add c := c.addBucket ⟨name, location, storageClass.orElse .null, [], []⟩
  call := .createBucket name location (storageClass.orElse .null)
  methods := lookupMethods
  Refuses p := ∃ f, p = .bucketUnavailable name location f
  isIn_add _ h := Cloud.bucket?_addBucket_self h
  add_ne c h := by
    have hlength := congrArg (fun c : Cloud => c.buckets.length) h
    simp [Cloud.addBucket] at hlength

variable {cr : Credentials} {project name location storageClass : Value} {s t : Session}
  {cs : List Call}

theorem getOrCreate_eq (cr : Credentials) (project name location storageClass : Value) :
    getOrCreate cr project name location storageClass = findOrMake
      (.mapError (unavailable name location) do
        Remote.openStorage project cr
        Remote.lookupBucket name)
      (Remote.createBucket name location (storageClass.orElse .null)) (·.isConflict)
      (do
        debug s!"Bucket {name.display} was created concurrently, reusing it"
        .mapError (unavailable name location) (Remote.getBucket name))
      (unavailable name location)
      (fun _ => debug s!"Bucket {name.display} already exists, reusing it")
      (fun _ => do
        let place ← .ofExcept location.wording
        info s!"Created bucket {name.display} in {place}") := by
  refine congrArg (Action.bind _) (funext fun found => ?_)
  cases found with
  | some b => rfl
  | none =>
    refine congrArg (Action.resume _) (funext fun r => ?_)
    cases r with
    | ok b => exact (bind_assoc _ _ _).symm
    | error f => rfl

/-- A recognised fault is reported with the bucket and its location. -/
theorem refused_unavailable (hlocation : location.isSpellable) {f : Fault} (hf : f.isRecognised) :
    (sought name location storageClass).Refused (unavailable name location f) := by
  rw [unavailable, if_pos hf, Failure.showing, if_pos hlocation]
  exact ⟨_, rfl, f, rfl⟩

section Steps

theorem openStorage_ends (h : Since s .createBucket cs t) : (Remote.openStorage project cr).Ends
    (Answers s .createBucket cs (fun _ => True) (· ∈ s.plannedFaults lookupMethods)) t :=
  .of_open h (n := .openStorage) (by decide) Method.noConfusion (Remote.openStorage_apply _ _ _)

theorem lookupBucket_ends (h : Since s .createBucket cs t) : (Remote.lookupBucket name).Ends
    (Answers s .createBucket cs (fun found => ∀ b, found = some b → s.cloud.bucket? name = some b)
      (· ∈ s.plannedFaults lookupMethods)) t := by
  apply Answers.of_read h (Remote.lookupBucket_apply name t) Method.noConfusion
  · rintro _ hfound b rfl
    rw [← h.cloud]
    split at hfound
    · cases hfound
    · cases hfound
    · exact Except.ok.inj hfound
  · intro f hf
    split at hf <;> cases hf
    exact h.mem_plannedFaults (n := .lookupBucket) (by decide) ‹_›

/-- A bucket that is asked for by its name is there, or it is not. -/
theorem getBucket_ends (h : Since s .createBucket cs t) : (Remote.getBucket name).Ends
    (Answers s .createBucket cs (fun b => s.cloud.bucket? name = some b) fun f =>
      f ∈ s.plannedFaults lookupMethods ∨ f.isRecognised ∧ s.cloud.bucket? name = none) t := by
  apply Answers.of_read h (Remote.getBucket_apply name t) Method.noConfusion
  · intro b hb
    rw [← h.cloud]
    split at hb <;> cases hb
    assumption
  · intro f hf
    rw [← h.cloud]
    split at hf <;> cases hf
    · exact Or.inl (h.mem_plannedFaults (n := .getBucket) (by decide) ‹_›)
    · exact Or.inr ⟨rfl, ‹_›⟩

theorem make_ends (h : Since s .createBucket [] t) :
    (Remote.createBucket name location (storageClass.orElse .null)).Ends
      ((sought name location storageClass).Makes (·.isConflict) s) t := by
  have hcalled := h.announced_self
    (c := .createBucket name location (storageClass.orElse .null)) rfl
  rw [Action.Ends, Remote.createBucket_apply]
  cases hf : t.fault? .createBucket with
  | some f =>
    have hplanned : f ∈ s.plannedFaults lookupMethods := h.mem_plannedFaults (by decide) hf
    exact ⟨Or.inl hplanned, _, Or.inr rfl, hcalled⟩
  | none =>
    cases hb : t.cloud.bucket? name with
    | some b =>
      rw [h.cloud] at hb
      have hnot : ¬(sought name location storageClass).Lacks s.cloud := by
        intro hnone
        cases hb.symm.trans hnone
      exact ⟨Or.inr ⟨rfl, hnot⟩, _, Or.inr rfl, hcalled⟩
    | none =>
      rw [h.cloud] at hb
      exact ⟨rfl, hb, congrArg (Cloud.addBucket · _) h.cloud, hcalled.calls⟩

variable (hs : ∀ f ∈ s.plannedFaults lookupMethods, f.isRecognised)
  (hlocation : location.isSpellable)

include hs hlocation

theorem lookup_ends (h : Since s .createBucket [] t) :
    (Action.mapError (unavailable name location) do
      Remote.openStorage project cr
      Remote.lookupBucket name).Ends
      (Answers s .createBucket [] (fun found => ∀ b, found = some b →
        (sought name location storageClass).IsIn s.cloud b) fun e =>
          (sought name location storageClass).Refused e ∧
            (sought name location storageClass).Hindered s) t := by
  refine Answers.mapError (Answers.bind (openStorage_ends h) ?_) fun f hf =>
    ⟨refused_unavailable hlocation (hs f hf), Sought.hindered_of_mem _ hf⟩
  intro _ u hu _
  exact lookupBucket_ends hu

theorem take_ends (message : String) (h : Since s .createBucket cs t) : (do
      debug message
      .mapError (unavailable name location) (Remote.getBucket name)).Ends
      (Answers s .createBucket cs ((sought name location storageClass).IsIn s.cloud) fun e =>
        (sought name location storageClass).Refused e ∧
          ((sought name location storageClass).Lacks s.cloud ∨
            (sought name location storageClass).Hindered s)) t := by
  refine Answers.bind (Q := fun _ => True) (x := debug message)
    ⟨h.aside _ _, fun _ _ => trivial, nofun⟩ ?_
  intro _ u hu _
  apply Answers.mapError (getBucket_ends hu)
  rintro f (hf | ⟨hf, hnone⟩)
  · exact ⟨refused_unavailable hlocation (hs f hf), Or.inr (Sought.hindered_of_mem _ hf)⟩
  · exact ⟨refused_unavailable hlocation hf, Or.inl hnone⟩

theorem getOrCreate_ends (cr : Credentials) (project name storageClass : Value) :
    FoundOrMade (sought name location storageClass) s
      (getOrCreate cr project name location storageClass s) := by
  have hplace : location.wording = .ok location.display := if_pos hlocation
  rw [getOrCreate_eq, hplace]
  apply findOrMake_ends hs
  · exact lookup_ends hs hlocation (.refl _ _)
  · intro t ht
    exact make_ends ht
  · intro cs t ht
    exact take_ends hs hlocation _ ht
  · intro f hf
    exact refused_unavailable hlocation hf
  · intro b t
    exact ⟨_, rfl⟩
  · intro t
    exact ⟨_, rfl⟩

end Steps

/-- **Finding or making a bucket.** -/
theorem bucket_found_or_made (cr : Credentials) (project : Value) (name location : String)
    (storageClass : Value) (s : Session)
    (hs : ∀ f ∈ s.plannedFaults lookupMethods, f.isRecognised) :
    FoundOrMade (sought (.text name) (.text location) storageClass) s
        (getOrCreate cr project (.text name) (.text location) storageClass s) ∧
      ∀ e, (getOrCreate cr project (.text name) (.text location) storageClass s).1 = .error e →
        ∃ f : Fault, e.message = s!"Error creating bucket {name} in {location}: {f.text}" := by
  have hshown : (Value.text location).isSpellable := rfl
  have hends := getOrCreate_ends hs hshown cr project (.text name) storageClass
  refine ⟨hends, fun e he => ?_⟩
  obtain ⟨⟨p, rfl, f, rfl⟩, -⟩ := hends.refused e he
  exact ⟨f, rfl⟩

/-- Another bucket first, which a look-up that is out of date hides: a fault while it is read, then
the bucket as it is. -/
theorem bucket_found_or_made_conflict :
    let name := "b1"
    let location := "EU"
    let b : Bucket := ⟨.text name, .text "US", .text "NEARLINE", ["o"], []⟩
    let s : Session := {
      cloud := { buckets := [b] }
      schedule := (Schedule.none.append .lookupBucket [some .stale, some .stale]).append .getBucket
        [some (.raise ⟨.call .conflict, "later"⟩)]
      vault := { kind := .environment } }
    let run := getOrCreate .direct (.text "p1") (.text name) (.text location) (.text "") s
    (∀ f ∈ s.plannedFaults lookupMethods, f.isRecognised) ∧
      (FoundOrMade (sought (.text name) (.text location) (.text "")) s run ∧
        ∀ e, run.1 = .error e →
          ∃ f : Fault, e.message = s!"Error creating bucket {name} in {location}: {f.text}") ∧
      run.1.toOption = none ∧
      (getOrCreate .direct (.text "p1") (.text name) (.text location) (.text "") run.2).1.toOption =
        some ⟨b, false⟩ ∧
      (getOrCreate .direct (.text "p1") (.text "b2") (.text location) (.text "") s).1.toOption =
        some ⟨⟨.text "b2", .text location, .null, [], []⟩, true⟩ := by
  intro name location b s run
  have hs : ∀ f ∈ s.plannedFaults lookupMethods, f.isRecognised := by decide
  exact ⟨hs, bucket_found_or_made .direct (.text "p1") name location (.text "") s hs,
    by decide +kernel +zetaReduce, by decide +kernel +zetaReduce, by decide +kernel +zetaReduce⟩

end Storage

end TransferBucket
