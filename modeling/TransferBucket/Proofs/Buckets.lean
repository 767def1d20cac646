import TransferBucket.Proofs.Remote

/-!
# The bucket of a definition

**Making it** (`Provision.BucketMade`). The stage that finds or makes the bucket changes the cloud
in at most one way: it adds the bucket asked for, and only where there is none of its name. If the
stage succeeds, the bucket it gives is there (`bucket?_of_emptyBucket`).

**In use.** A bucket that holds an object is refused, whatever goes wrong on the way, unless a list
of its objects comes out empty by itself (`emptyBucket_in_use`).

**The right on it** (`Storage.grant_along`). Granting stores the policy that `Policy.grant` makes
of the one that is there, or changes nothing.
-/

namespace TransferBucket

open Session

/-! ## What may change -/

/-- The methods called to find, make and list a bucket. -/
def Storage.methods : List Method :=
  [.openStorage, .lookupBucket, .getBucket, .createBucket, .listObjects]

/-- The bucket that is made for a definition. -/
def Provision.newBucket (d : Definition) : Bucket :=
  ⟨d.targetBucket, d.location, d.storageClass.orElse .null, [], []⟩

section Along

variable {R : Session → Session → Prop}

namespace Storage

theorem getOrCreate_along (h : Permits R methods) (hl : ∀ s l, R s { s with links := l })
    {name location storageClass : Value}
    (hb : ∀ s, s.cloud.bucket? name = none →
      R s { s with cloud := s.cloud.addBucket ⟨name, location, storageClass.orElse .null, [], []⟩ })
    (c : Credentials) (project : Value) :
    (getOrCreate c project name location storageClass).Along R := by
  refine h.bind (Action.Along.mapError ?_ _) fun found => ?_
  · exact h.bind (Remote.openStorage_along h (by decide) hl _ _) fun _ =>
      Remote.lookupBucket_along h (by decide) _
  · cases found with
    | some b => exact h.bind (h.debug _) fun _ => h.pure _
    | none =>
      refine h.resume (Remote.createBucket_along h (by decide) hb) fun r => ?_
      cases r with
      | ok b => exact h.bind (h.ofExcept _) fun _ => h.bind (h.info _) fun _ => h.pure _
      | error f =>
        dsimp only
        split
        · refine h.bind (h.debug _) fun _ => ?_
          exact h.bind ((Remote.getBucket_along h (by decide) _).mapError _) fun _ => h.pure _
        · exact h.fail _

theorem isEmpty_along (h : Permits R methods) (hl : ∀ s l, R s { s with links := l })
    (c : Credentials) (project name : Value) : (isEmpty c project name).Along R := by
  refine Action.Along.mapError ?_ _
  refine h.bind (Remote.openStorage_along h (by decide) hl _ _) fun _ => ?_
  refine h.bind (Remote.listObjects_along h (by decide) _ _) fun listing => ?_
  split
  · exact h.pure _
  · exact h.fail _
  · exact h.pure _

end Storage

namespace Provision

theorem emptyBucket_along (h : Permits R Storage.methods) (hl : ∀ s l, R s { s with links := l })
    {d : Definition}
    (hb : ∀ s, s.cloud.bucket? d.targetBucket = none →
      R s { s with cloud := s.cloud.addBucket (newBucket d) })
    (c : Credentials) : (emptyBucket c d).Along R := by
  refine h.bind (Storage.getOrCreate_along h hl hb c _) fun found => ?_
  refine h.bind (Storage.isEmpty_along h hl c _ _) fun empty => ?_
  split
  · exact h.bind (h.debug _) fun _ => h.pure _
  · exact h.fail _

end Provision

end Along

/-- The bucket of a definition is made, where there was none of its name. -/
def Provision.BucketMade (d : Definition) (c c' : Cloud) : Prop :=
  c.bucket? d.targetBucket = none ∧ c' = c.addBucket (newBucket d)

namespace Provision

variable {d : Definition} {c c' : Cloud}

theorem BucketMade.bucket? (h : BucketMade d c c') :
    c'.bucket? d.targetBucket = some (newBucket d) := by
  obtain ⟨hnone, rfl⟩ := h
  exact Cloud.bucket?_addBucket_self hnone

/-- A bucket is made once at most. -/
theorem bucketMade_permits (d : Definition) (ms : List Method) :
    Permits (fun s t => t.cloud = s.cloud ∨ BucketMade d s.cloud t.cloud) ms where
  refl _ := Or.inl rfl
  trans := by
    rintro s t u (hst | hst) (htu | htu)
    · exact Or.inl (htu.trans hst)
    · exact Or.inr (hst ▸ htu)
    · exact Or.inr (htu ▸ hst)
    · rw [BucketMade, hst.bucket?] at htu
      cases htu.1
  log _ _ _ := Or.inl rfl
  call _ _ _ := Or.inl rfl

theorem emptyBucket_bucketMade (cr : Credentials) (d : Definition) :
    (emptyBucket cr d).Along fun s t => t.cloud = s.cloud ∨ BucketMade d s.cloud t.cloud :=
  emptyBucket_along (bucketMade_permits d _) (fun _ _ => Or.inl rfl)
    (fun _ hnone => Or.inr ⟨hnone, rfl⟩) cr

theorem emptyBucket_calls (cr : Credentials) (d : Definition) :
    (emptyBucket cr d).Along (Calls Storage.methods) :=
  emptyBucket_along (Calls.permits _) (fun _ _ => .of_eq rfl rfl) (fun _ _ => .of_eq rfl rfl) cr

end Provision

/-! ## The bucket that is found or made -/

namespace Remote

variable {name location storageClass : Value} {b : Bucket} {s t : Session}

theorem bucket?_of_lookupBucket (h : lookupBucket name s = (.ok (some b), t)) :
    t.cloud.bucket? name = some b := by
  rw [lookupBucket_apply] at h
  obtain ⟨hr, rfl⟩ := Prod.mk.inj h
  split at hr
  · cases hr
  · cases hr
  · exact Except.ok.inj hr

theorem bucket?_of_getBucket (h : getBucket name s = (.ok b, t)) :
    t.cloud.bucket? name = some b := by
  rw [getBucket_apply] at h
  obtain ⟨hr, rfl⟩ := Prod.mk.inj h
  split at hr <;> cases hr
  assumption

theorem bucket?_of_createBucket (h : createBucket name location storageClass s = (.ok b, t)) :
    t.cloud.bucket? name = some b := by
  rw [createBucket_apply] at h
  split at h <;> cases h
  exact Cloud.bucket?_addBucket_self (b := ⟨name, location, storageClass, [], []⟩) ‹_›

end Remote

namespace Storage

variable {cr : Credentials} {project name location storageClass : Value} {s t : Session}

/-- The bucket that is given is there, under its name. -/
theorem bucket?_of_getOrCreate {found : Lookup Bucket}
    (h : getOrCreate cr project name location storageClass s = (.ok found, t)) :
    t.cloud.bucket? name = some found.value := by
  obtain ⟨looked, u, hlook, hrest⟩ := Action.bind_eq_ok_iff.1 h
  cases looked with
  | some b =>
    obtain ⟨_, v, -, hv⟩ := Action.bind_eq_ok_iff.1 (Action.mapError_eq_ok_iff.1 hlook)
    cases hrest
    have hfound := Remote.bucket?_of_lookupBucket hv
    exact hfound
  | none =>
    dsimp only at hrest
    rw [Action.resume_apply] at hrest
    rcases hc : Remote.createBucket name location (storageClass.orElse .null) u with ⟨f | b, v⟩ <;>
      rw [hc] at hrest <;> dsimp only at hrest
    · split at hrest
      · obtain ⟨_, w, hw, hget⟩ := Action.bind_eq_ok_iff.1 hrest
        obtain ⟨b, w', hb, hpure⟩ := Action.bind_eq_ok_iff.1 hget
        cases hw
        cases hpure
        have hfound := Remote.bucket?_of_getBucket (Action.mapError_eq_ok_iff.1 hb)
        exact hfound
      · cases hrest
    · obtain ⟨place, w, hw, hpure⟩ := Action.bind_eq_ok_iff.1 hrest
      obtain ⟨-, rfl⟩ := Prod.mk.inj hw
      cases hpure
      have hfound := Remote.bucket?_of_createBucket hc
      exact hfound

end Storage

/-- The bucket that the stage gives is there. -/
theorem Provision.bucket?_of_emptyBucket {cr : Credentials} {d : Definition} {s t : Session}
    {b : Bucket} (h : emptyBucket cr d s = (.ok b, t)) :
    t.cloud.bucket? d.targetBucket = some b := by
  obtain ⟨found, u, hfound, hrest⟩ := Action.bind_eq_ok_iff.1 h
  obtain ⟨empty, v, hempty, hlast⟩ := Action.bind_eq_ok_iff.1 hrest
  have hsame : v.cloud = u.cloud := by
    have hkept := Storage.isEmpty_along (Permits.cloud _) (fun _ _ => rfl) cr d.project
      d.targetBucket u
    rwa [hempty] at hkept
  cases empty with
  | true =>
    cases hlast
    have hthere := Storage.bucket?_of_getOrCreate hfound
    rw [← hsame] at hthere
    exact hthere
  | false => cases hlast

/-! ## A bucket in use -/

/-- A list of the objects of a bucket in use brings one, or ends in a fault, unless it is planned
to come out empty. -/
theorem Remote.objectsListed_of_objects {s : Session} {name : Value} {b : Bucket}
    (hb : s.cloud.bucket? name = some b) (ho : b.objects ≠ [])
    (hplan : s.plan? .listObjects ≠ some .stale) {l : Listing String}
    (hl : objectsListed s name 1 = .ok l) : l.items ≠ [] ∨ l.ending.isSome := by
  have htake : b.objects.take 1 ≠ [] := by simpa using ho
  rw [objectsListed, hb] at hl
  rcases hp : s.plan? .listObjects with _ | f | _ | ⟨n, f⟩ <;> rw [hp] at hl <;> cases hl
  · exact Or.inl htake
  · exact absurd hp hplan
  · exact Or.inr rfl

namespace Storage

variable {cr : Credentials} {project name : Value} {s t : Session} {b : Bucket}

theorem isEmpty_of_objects (hb : s.cloud.bucket? name = some b) (ho : b.objects ≠ [])
    (hstale : some .stale ∉ s.schedule .listObjects) :
    isEmpty cr project name s ≠ (.ok true, t) := by
  intro h
  obtain ⟨_, u, hopen, hrest⟩ := Action.bind_eq_ok_iff.1 (Action.mapError_eq_ok_iff.1 h)
  obtain ⟨listing, v, hlist, hlast⟩ := Action.bind_eq_ok_iff.1 hrest
  have hcloud : u.cloud = s.cloud := by
    have hkept := Remote.openStorage_along (Permits.cloud _) (List.mem_singleton_self _)
      (fun _ _ => rfl) project cr s
    rwa [hopen] at hkept
  have hcalls : Calls [.openStorage] s u := by
    have hmade := Remote.openStorage_along (Calls.permits _) (List.mem_singleton_self _)
      (fun _ _ => .of_eq rfl rfl) project cr s
    rwa [hopen] at hmade
  have hplan : u.plan? .listObjects ≠ some .stale := fun hp =>
    hstale (hcalls.mem_schedule (mem_schedule_of_plan? hp))
  rw [Remote.listObjects_apply] at hlist
  have hlisting := Remote.objectsListed_of_objects (hcloud ▸ hb) ho hplan (Prod.mk.inj hlist).1
  rcases hitems : listing.items with _ | ⟨o, os⟩ <;>
    rcases hending : listing.ending with _ | f <;>
    rw [hitems, hending] at hlast <;> cases hlast
  rw [hitems, hending] at hlisting
  simp at hlisting

end Storage

namespace Remote

variable {s : Session}

theorem openStorage_of_open (h : s.links.storage = true) (project : Value) (cr : Credentials) :
    openStorage project cr s = (.ok (), s) := by
  rw [openStorage_apply, if_pos h]

theorem openStorage_of_free (h : s.fault? .openStorage = none) (project : Value)
    (cr : Credentials) : ∃ t, openStorage project cr s = (.ok (), t) ∧ t.links.storage = true ∧
      t.cloud = s.cloud ∧ ∀ m, m ≠ .openStorage → t.plan? m = s.plan? m := by
  rw [openStorage_apply, h]
  split
  · exact ⟨s, rfl, ‹_›, rfl, fun _ _ => rfl⟩
  · exact ⟨_, rfl, rfl, rfl, fun m hm => plan?_announced_of_ne s hm⟩

end Remote

/-- Where nothing is planned for the list, an open client tells whether a bucket is empty. -/
theorem Storage.isEmpty_of_open {cr : Credentials} {project name : Value} {s : Session} {b : Bucket}
    (hlinks : s.links.storage = true) (hplan : s.plan? .listObjects = none)
    (hb : s.cloud.bucket? name = some b) :
    (isEmpty cr project name s).1 = .ok b.objects.isEmpty := by
  have hlisted : Remote.objectsListed s name 1 = .ok ⟨b.objects.take 1, none⟩ := by
    rw [Remote.objectsListed, hplan, hb]
  rw [isEmpty, Action.mapError_apply, Action.bind_of_ok (Remote.openStorage_of_open hlinks _ _),
    Action.bind_apply, Remote.listObjects_apply, hlisted]
  rcases b.objects with _ | ⟨o, os⟩ <;> rfl

namespace Provision

variable {cr : Credentials} {d : Definition} {s t : Session} {b : Bucket}

/-- A bucket in use is not given. -/
theorem emptyBucket_in_use (hb : s.cloud.bucket? d.targetBucket = some b) (ho : b.objects ≠ [])
    (hstale : some .stale ∉ s.schedule .listObjects) (b' : Bucket) :
    emptyBucket cr d s ≠ (.ok b', t) := by
  intro h
  obtain ⟨found, u, hfound, hrest⟩ := Action.bind_eq_ok_iff.1 h
  obtain ⟨empty, v, hempty, hlast⟩ := Action.bind_eq_ok_iff.1 hrest
  have hcloud : u.cloud = s.cloud := by
    have hmade := Storage.getOrCreate_along (bucketMade_permits d _) (fun _ _ => Or.inl rfl)
      (fun _ hnone => Or.inr ⟨hnone, rfl⟩) cr d.project s
    rw [hfound] at hmade
    refine hmade.resolve_right fun hmade => ?_
    rw [BucketMade, hb] at hmade
    cases hmade.1
  have hcalls : Calls Storage.methods s u := by
    have hmade : (Storage.getOrCreate cr d.project d.targetBucket d.location d.storageClass).Along
        (Calls Storage.methods) :=
      Storage.getOrCreate_along (Calls.permits _) (fun _ _ => .of_eq rfl rfl)
        (fun _ _ => .of_eq rfl rfl) cr d.project
    have hs := hmade s
    rwa [hfound] at hs
  cases empty with
  | true =>
    refine Storage.isEmpty_of_objects (hcloud ▸ hb) ho (fun hp => hstale ?_) hempty
    exact hcalls.mem_schedule hp
  | false => cases hlast

/-- Where nothing goes wrong, a bucket in use is refused as one. -/
theorem emptyBucket_refuses (hb : s.cloud.bucket? d.targetBucket = some b) (ho : b.objects ≠ [])
    (hopen : s.fault? .openStorage = none) (hlook : s.plan? .lookupBucket = none)
    (hlist : s.plan? .listObjects = none) :
    (emptyBucket cr d s).1 = .error (.provision (.bucketInUse d.targetBucket)) := by
  obtain ⟨u, hu, hlinks, hcloud, hplan⟩ := Remote.openStorage_of_free hopen d.project cr
  have hfree : u.plan? .lookupBucket = none := (hplan _ (by decide)).trans hlook
  have hlooked : (do Remote.openStorage d.project cr; Remote.lookupBucket d.targetBucket) s =
      (.ok (some b), u.announced (.lookupBucket d.targetBucket)) := by
    rw [Action.bind_of_ok hu, Remote.lookupBucket_apply, fault?_of_plan? hfree, hfree, hcloud, hb]
  obtain ⟨v, hv, hvlinks, hvcloud, hvplan⟩ : ∃ v,
      Storage.getOrCreate cr d.project d.targetBucket d.location d.storageClass s =
        (.ok ⟨b, false⟩, v) ∧ v.links.storage = true ∧ v.cloud = s.cloud ∧
        v.plan? .listObjects = none := by
    refine ⟨_, Action.bind_eq_ok_iff.2 ⟨_, _, Action.mapError_eq_ok_iff.2 hlooked, rfl⟩, ?_⟩
    refine ⟨hlinks, hcloud, ?_⟩
    have hkept := plan?_announced_of_ne u (c := .lookupBucket d.targetBucket)
      (Method.noConfusion : Method.listObjects ≠ .lookupBucket)
    exact hkept.trans ((hplan _ (by decide)).trans hlist)
  rw [← hvcloud] at hb
  have hfull : (Storage.isEmpty cr d.project d.targetBucket v).1 = _ :=
    Storage.isEmpty_of_open hvlinks hvplan hb
  rcases hx : Storage.isEmpty cr d.project d.targetBucket v with ⟨r, w⟩
  rw [hx, List.isEmpty_eq_false_iff.2 ho] at hfull
  obtain rfl : r = .ok false := hfull
  rw [emptyBucket, Action.bind_of_ok hv, Action.bind_of_ok hx]
  rfl

end Provision

/-! ## The right on a bucket -/

namespace Storage

/-- Granting reads the policy, takes the member in and stores the policy. -/
theorem grant_apply (bucket : Value) (email : String) (s : Session) :
    grant bucket email s = match s.fault? .getPolicy with
      | some f => (.error (reported (.grantRefused email bucket) f),
          s.announced (.getPolicy bucket Policy.version))
      | none => match Policy.grant (Policy.member email)
          ((s.cloud.bucket? bucket).elim [] Bucket.bindings) with
        | .error e => (.error e, s.announced (.getPolicy bucket Policy.version))
        | .ok gs => match s.fault? .setPolicy with
          | some f => (.error (reported (.grantRefused email bucket) f),
              (s.announced (.getPolicy bucket Policy.version)).announced (.setPolicy bucket gs))
          | none => (.ok (),
              { (s.announced (.getPolicy bucket Policy.version)).announced
                  (.setPolicy bucket gs) with
                cloud := s.cloud.setBindings bucket gs
                log := s.log ++ [⟨.info,
                  s!"Granted {Policy.objectAdmin} on bucket {bucket.display} to {email}"⟩] }) := by
  have hget := Remote.getPolicy_apply bucket Policy.version s
  rcases hf : s.fault? .getPolicy with _ | f <;> rw [hf] at hget
  · rw [grant, Action.bind_of_ok (Action.mapError_of_ok hget), Action.bind_apply,
      Action.ofExcept_apply]
    rcases Policy.grant (Policy.member email)
      ((s.cloud.bucket? bucket).elim [] Bucket.bindings) with e | gs
    · rfl
    · have hset := Remote.setPolicy_apply bucket gs
        (s.announced (.getPolicy bucket Policy.version))
      have hplan : (s.announced (.getPolicy bucket Policy.version)).fault? .setPolicy =
          s.fault? .setPolicy := by
        rw [fault?, plan?_announced_of_ne s Method.noConfusion, ← fault?]
      dsimp only
      rw [hplan] at hset
      rcases hf' : s.fault? .setPolicy with _ | f <;> rw [hf'] at hset
      · rw [Action.bind_of_ok (Action.mapError_of_ok hset)]
        rfl
      · rw [Action.bind_of_error (Action.mapError_of_error hset)]
  · rw [grant, Action.bind_of_error (Action.mapError_of_error hget)]

/-- Granting stores the policy that has taken the member in, or changes nothing. -/
theorem grant_along {R : Session → Session → Prop} {ms : List Method} (h : Permits R ms)
    (hget : .getPolicy ∈ ms) (hset : .setPolicy ∈ ms) {bucket : Value} {email : String}
    (hg : ∀ s gs, Policy.grant (Policy.member email)
        ((s.cloud.bucket? bucket).elim [] Bucket.bindings) = .ok gs →
      R s { s with cloud := s.cloud.setBindings bucket gs }) :
    (grant bucket email).Along R := by
  intro s
  have hread : R s (s.announced (.getPolicy bucket Policy.version)) := h.call s _ hget
  rw [grant_apply]
  split
  · exact hread
  · split
    · exact hread
    · rename_i gs hgs
      have hwrite := h.trans hread (h.call _ (.setPolicy bucket gs) hset)
      split
      · exact hwrite
      · exact h.trans (h.trans hwrite (hg _ _ hgs)) (h.log _ ⟨.info, _⟩ Level.noConfusion)

/-- How granting ends: with the policy stored that has taken the member in, or in an error that
leaves the cloud as it was. -/
theorem grant_ending (bucket : Value) (email : String) (s : Session) :
    (∃ e t, grant bucket email s = (.error e, t) ∧ t.cloud = s.cloud) ∨
      ∃ gs t, Policy.grant (Policy.member email)
          ((s.cloud.bucket? bucket).elim [] Bucket.bindings) = .ok gs ∧
        grant bucket email s = (.ok (), t) ∧ t.cloud = s.cloud.setBindings bucket gs := by
  rw [grant_apply]
  split
  · exact Or.inl ⟨_, _, rfl, rfl⟩
  · split
    · exact Or.inl ⟨_, _, rfl, rfl⟩
    · rename_i gs hgs
      split
      · exact Or.inl ⟨_, _, rfl, rfl⟩
      · exact Or.inr ⟨gs, _, hgs, rfl, rfl⟩

end Storage

end TransferBucket
