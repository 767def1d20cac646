import TransferBucket.Proofs.Course

/-!
# A bucket in use is never touched

**Theorem (`provision_in_use`).** If the bucket of a definition is there and holds an object, and
no list of objects is planned to come out empty by itself, then a provisioning does not succeed,
calls nothing that works on accounts, tokens or policies, and leaves the cloud as it was, whatever
else goes wrong. Where credentials are found and none of the calls up to the list goes wrong, it
answers that the bucket is not empty.

The stage of the bucket can be reached through the look-up, through a look-up that misses the
bucket and the conflict that follows, or not at all. On each of these ways the bucket is not made
again, because it is there (`emptyBucket_bucketMade`), and it is not given, because its list is
not empty (`emptyBucket_in_use`); so no later stage begins.
-/

namespace TransferBucket

open Session

namespace Provision

/-- The methods that work on accounts, on tokens and on the policies of buckets. -/
def granting : List Method :=
  [.openIdentity, .listAccounts, .createAccount, .getAccount, .deleteAccount, .openIssuer,
    .issueToken, .getPolicy, .setPolicy]

variable {d : Definition} {s : Session} {b : Bucket}

theorem stages_in_use (hb : s.cloud.bucket? d.targetBucket = some b) (ho : b.objects ≠ [])
    (hstale : some .stale ∉ s.schedule .listObjects) (lifetime : Value) :
    ∃ e t, stages lifetime d s = (.error e, t) ∧ t.cloud = s.cloud ∧
      Calls (Source.methods ++ Storage.methods) s t := by
  have hcloud := credentials_cloud d s
  have hcalls := credentials_calls d s
  rcases hx : credentials d s with ⟨e | cr, u⟩ <;> rw [hx] at hcloud hcalls
  · refine ⟨_, u, Action.bind_of_error (after_of_error hx), hcloud, hcalls.mono ?_⟩
    exact List.subset_append_left _ _
  rw [← hcloud] at hb
  have hmade := emptyBucket_bucketMade cr d u
  have hlisted := emptyBucket_calls cr d u
  have hnot : some .stale ∉ u.schedule .listObjects := fun h => hstale (hcalls.mem_schedule h)
  rcases hy : emptyBucket cr d u with ⟨e | b', t⟩ <;> rw [hy] at hmade hlisted
  · refine ⟨_, t, (Action.bind_of_ok (after_of_ok hx)).trans
      (Action.bind_of_error (after_of_error hy)), ?_, ?_⟩
    -- the bucket is there, so the stage cannot have made it
    · refine (hmade.resolve_right fun h => ?_).trans hcloud
      rw [BucketMade, hb] at h
      cases h.1
    · exact (hcalls.mono (List.subset_append_left _ _)).trans
        (hlisted.mono (List.subset_append_right _ _))
  -- its list cannot be missed, because nothing stale is planned
  · exact absurd hy (emptyBucket_in_use hb ho hnot b')

theorem stages_refuse (hb : s.cloud.bucket? d.targetBucket = some b) (ho : b.objects ≠ [])
    (hplan : ∀ m ∈ [.openStorage, .lookupBucket, .listObjects], s.plan? m = none)
    {cr : Credentials} (hcred : (d.address.credentials Source.defaultOrder s).1 = .ok cr)
    (lifetime : Value) : (stages lifetime d s).1 =
      .error (.credentialsResolved, .provision (.bucketInUse d.targetBucket)) := by
  have hcloud := credentials_cloud d s
  have hcalls := credentials_calls d s
  obtain ⟨t, ht⟩ := credentials_of_found hcred
  rw [ht] at hcloud hcalls
  have hfree : ∀ m ∈ [.openStorage, .lookupBucket, .listObjects], t.plan? m = none := fun m hm =>
    (hcalls.plan?_eq (by revert m; decide)).trans (hplan m hm)
  rw [← hcloud] at hb
  have hrefused : (emptyBucket cr d t).1 = _ := emptyBucket_refuses hb ho
    (fault?_of_plan? (hfree _ (by decide))) (hfree _ (by decide)) (hfree _ (by decide))
  rcases hy : emptyBucket cr d t with ⟨r, u⟩
  rw [hy] at hrefused
  obtain rfl : r = .error (.provision (.bucketInUse d.targetBucket)) := hrefused
  rw [stages, Action.bind_of_ok (after_of_ok ht), Action.bind_of_error (after_of_error hy)]

end Provision

/-- **A bucket in use is never touched.** -/
theorem provision_in_use (lifetime : Value) (d : Definition) (s : Session) (b : Bucket)
    (hb : s.cloud.bucket? d.targetBucket = some b) (ho : b.objects ≠ [])
    (hstale : some .stale ∉ s.schedule .listObjects) :
    (∀ o, (provision lifetime d s).1 = .ok o → o.succeeded = false) ∧
      (∃ cs, (provision lifetime d s).2.calls = s.calls ++ cs ∧
        ∀ c ∈ cs, c.method ∉ Provision.granting) ∧
      (provision lifetime d s).2.cloud = s.cloud ∧
      ((∀ m ∈ [.openStorage, .lookupBucket, .listObjects], s.plan? m = none) →
        (∃ cr, (d.address.credentials Source.defaultOrder (Provision.opened d s)).1 = .ok cr) →
        (provision lifetime d s).1 = .ok (.failure .fatalError
          [.text s!"Bucket: {d.targetBucket.display} already exists and is not empty."])) := by
  obtain ⟨l, hrun⟩ := Provision.provision_apply lifetime d s
  obtain ⟨⟨stage, e⟩, t, hstages, hcloud, cs, hcs, hms, -⟩ :=
    Provision.stages_in_use (s := Provision.opened d s) hb ho hstale lifetime
  rw [hrun, hstages]
  refine ⟨fun o h => Provision.not_succeeded_of_error (d := d) (e := (stage, e)) h,
    ⟨cs, hcs, fun c hc => ?_⟩, hcloud, fun hplan hcred => ?_⟩
  · have hm := hms c hc
    generalize c.method = m at hm
    revert m
    decide
  · obtain ⟨cr, hcr⟩ := hcred
    have hrefused := Provision.stages_refuse (s := Provision.opened d s) hb ho hplan hcr lifetime
    rw [hstages] at hrefused
    rw [hrefused]
    rfl

/-- A bucket with one object, found by its definition's own name. -/
theorem provision_in_use_found :
    let b : Bucket := ⟨.text "b1", .text "EU", .null, ["part-1"], []⟩
    let s : Session := { cloud := { buckets := [b] }, vault := { kind := .environment } }
    let d : Definition := {
      id := .text "b1", transferProcess := .text "tp-1", location := .text "US"
      project := .text "p1" }
    s.cloud.bucket? d.targetBucket = some b ∧ b.objects ≠ [] ∧
      some .stale ∉ s.schedule .listObjects ∧
      (provision (.int 3600) d s).2.cloud = s.cloud ∧
      (provision (.int 3600) d s).1 =
        .ok (.failure .fatalError [.text "Bucket: b1 already exists and is not empty."]) := by
  intro b s d
  have hb : s.cloud.bucket? d.targetBucket = some b := by decide
  have ho : b.objects ≠ [] := by decide
  have hstale : some .stale ∉ s.schedule .listObjects := by decide
  obtain ⟨-, -, hcloud, hanswer⟩ := provision_in_use (.int 3600) d s b hb ho hstale
  exact ⟨hb, ho, hstale, hcloud, hanswer (fun m _ => plan?_of_schedule_none rfl m) ⟨_, rfl⟩⟩

end TransferBucket
