import TransferBucket.Identity
import TransferBucket.Address
import TransferBucket.Value.Set

/-!
# Buckets

The bucket of a definition, whether it is empty, and the right of an account on it. A bucket that
is there is taken as it is. Granting a right adds one member to one binding of the bucket's
policy, or one binding, and keeps all else.
-/

namespace TransferBucket

open Session

/-! ## Policies -/

namespace Policy

/-- The role that an account is given on a bucket. -/
def objectAdmin : String := "roles/storage.objectAdmin"

/-- The version in which policies are asked for. -/
def version : Nat := 3

/-- The member that an account is. -/
def member (email : String) : String := s!"serviceAccount:{email}"

/-- What the members of a binding list: items, names of entries, or characters. -/
def listed (members : Option Value) : Except Failure (List Value) :=
  match members with
  | none => .ok []
  | some (.list items) => .ok items
  | some (.mapping entries) => .ok (entries.map (·.1))
  | some (.text s) => .ok (s.toList.map fun c => .text (String.singleton c))
  | some v => .error (.mismatch (.notIterable v.fullKindName))

/-- The members of a binding as a set, each of which must be able to be in one. -/
def memberSet (members : Option Value) : Except Failure (List Value) :=
  match listed members with
  | .error e => .error e
  | .ok items =>
    match items.find? fun v => !v.isKey with
    | some v => .error (.mismatch (.unhashable v.kindName))
    | none => .ok items

/-- Whether a binding is for the role without a condition; a binding must have a role. -/
def isPlainAdmin (b : Binding) : Except Failure Bool :=
  match b.role with
  | none => .error (.missingKey (.text "role"))
  | some role =>
    .ok (Value.equals role (.text objectAdmin) && !(b.condition.getD .null).isTruthy)

/-- A policy in which a member has the role: the member joins the first plain binding of the role,
or gets a binding of its own at the end. -/
def grant (m : String) : List Binding → Except Failure (List Binding)
  | [] => .ok [⟨some (.text objectAdmin), some (.list [.text m]), none, []⟩]
  | b :: rest =>
    match isPlainAdmin b with
    | .error e => .error e
    | .ok true =>
      match memberSet b.members with
      | .error e => .error e
      | .ok members => .ok ({ b with members := some (Value.ofSet (members ++ [.text m])) } :: rest)
    | .ok false => (grant m rest).map (b :: ·)

end Policy

/-! ## Steps on buckets -/

namespace Storage

/-- The failure that a fault is while a bucket is looked for or made. Its message shows the location,
which it must be able to show. -/
def unavailable (name location : Value) (f : Fault) : Failure :=
  if f.isRecognised then .showing location (.provision (.bucketUnavailable name location f))
  else .fault f

/-- The bucket with a name, made in a location if there is none. -/
def getOrCreate (credentials : Credentials) (project name location storageClass : Value) :
    Action Session Failure (Lookup Bucket) :=
  let report := unavailable name location
  .bind (.mapError report do
      Remote.openStorage project credentials
      Remote.lookupBucket name) fun found =>
    match found with
    | some b => do
      debug s!"Bucket {name.display} already exists, reusing it"
      pure ⟨b, false⟩
    | none =>
      .resume (Remote.createBucket name location (storageClass.orElse .null)) fun r =>
        match r with
        | .ok b => do
          let place ← .ofExcept location.wording
          info s!"Created bucket {name.display} in {place}"
          pure ⟨b, true⟩
        | .error f =>
          if f.isConflict then do
            debug s!"Bucket {name.display} was created concurrently, reusing it"
            let b ← .mapError report (Remote.getBucket name)
            pure ⟨b, false⟩
          else .fail (report f)

/-- Whether a bucket holds no object. The list is asked for its first item only. -/
def isEmpty (credentials : Credentials) (project name : Value) : Action Session Failure Bool :=
  .mapError (reported (.bucketUnlisted name)) do
    Remote.openStorage project credentials
    let listing ← Remote.listObjects name 1
    match listing.items, listing.ending with
    | _ :: _, _ => pure false
    | [], some f => .fail f
    | [], none => pure true

/-- Give an account the right to read and write the objects of a bucket. -/
def grant (bucket : Value) (email : String) : Action Session Failure Unit := do
  let report := reported (.grantRefused email bucket)
  let bindings ← .mapError report (Remote.getPolicy bucket Policy.version)
  let granted ← .ofExcept (Policy.grant (Policy.member email) bindings)
  .mapError report (Remote.setPolicy bucket granted)
  info s!"Granted {Policy.objectAdmin} on bucket {bucket.display} to {email}"

end Storage

end TransferBucket
