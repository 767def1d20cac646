import TransferBucket.Source
import TransferBucket.Storage
import TransferBucket.Outcome

/-!
# Provisioning

Making and giving up the resources of a transfer process. Provisioning goes through five stages
in a fixed order: credentials, an empty bucket, an account, the right of the account on the
bucket, a token. A reported problem at a stage ends it with a failure that names the last stage
completed; everything made up to then stays, and a later try finds it again. All other failures
pass through.
-/

namespace TransferBucket

open Session

/-- The last stage that a provisioning has completed. -/
inductive Stage where
  | requested
  | credentialsResolved
  | bucketReady
  | identityReady
  | permissionGranted
  deriving DecidableEq, Repr

/-- The name of a stage. -/
def Stage.name : Stage → String
  | .requested => "REQUESTED"
  | .credentialsResolved => "CREDENTIALS_RESOLVED"
  | .bucketReady => "BUCKET_READY"
  | .identityReady => "IDENTITY_READY"
  | .permissionGranted => "PERMISSION_GRANTED"

namespace Provision

/-- A step after a stage: its failure carries the stage. -/
def after (stage : Stage) {α : Type} (x : Action Session Failure α) :
    Action Session (Stage × Failure) α :=
  .mapError (fun e => (stage, e)) x

/-- Close the clients of buckets and accounts. -/
def closeLinks {ε : Type} : Action Session ε Unit := changeLinks fun _ => {}

/-- The credentials of a definition. -/
def credentials (d : Definition) : Action Session Failure Credentials := do
  let c ← d.address.credentials Source.defaultOrder
  debug s!"Credentials resolved for {d.id.display}"
  pure c

/-- The empty bucket of a definition. -/
def emptyBucket (c : Credentials) (d : Definition) : Action Session Failure Bucket := do
  let found ← Storage.getOrCreate c d.project d.targetBucket d.location d.storageClass
  let empty ← Storage.isEmpty c d.project d.targetBucket
  if empty then
    debug s!"Bucket {d.targetBucket.display} ready and empty"
    pure found.value
  else .fail (.provision (.bucketInUse d.targetBucket))

/-- The account of a definition. -/
def account (c : Credentials) (d : Definition) : Action Session Failure Account := do
  let id ← .ofExcept (accountIdOf d.transferProcess)
  let found ← Identity.getOrCreate c d.project id
    (accountDescription d.transferProcess d.targetBucket)
  debug s!"Service account {found.value.email} ready for {d.id.display}"
  pure found.value

/-- The stages of a provisioning, one after the other. -/
def stages (lifetime : Value) (d : Definition) :
    Action Session (Stage × Failure) (Account × AccessToken) := do
  let c ← after .requested (credentials d)
  let bucket ← after .credentialsResolved (emptyBucket c d)
  let a ← after .bucketReady (account c d)
  after .identityReady (Storage.grant bucket.name a.email)
  let token ← after .permissionGranted (Identity.issueToken c lifetime a.email)
  pure (a, token)

/-- The record of what was made for a definition. -/
def record (d : Definition) (a : Account) : Resource where
  id := d.id
  definitionId := d.id
  transferProcess := d.transferProcess
  location := d.location
  project := d.project
  storageClass := d.storageClass
  bucketName := d.targetBucket
  accountEmail := .text a.email
  accountName := .text a.name
  resourceName := .text s!"{d.id.display}-bucket"
  hasToken := .bool true
  address := d.address

end Provision

/-- Provision what a definition asks for. -/
def provision (lifetime : Value) (d : Definition) :
    Action Session Failure (Outcome Provisioned) := do
  Provision.closeLinks
  debug s!"GCS bucket request submitted: {d.targetBucket.display} ({d.id.display})"
  .resume (Provision.stages lifetime d) fun r => match r with
    | .ok (a, token) => do
      info s!"Provisioned bucket {d.targetBucket.display} for transfer process {d.transferProcess.display}"
      pure (.success ⟨Provision.record d a, token⟩)
    | .error (stage, e) =>
      if e.isReported then do
        Session.error s!"Provisioning of {d.id.display} failed after {stage.name}: {e.message}"
        pure (.failure .fatalError [.text e.message])
      else .fail e

/-- Give up what a record names: the account is deleted, the bucket and its objects are kept. -/
def deprovision (r : Resource) : Action Session Failure (Outcome Deprovisioned) := do
  Provision.closeLinks
  debug s!"Deprovisioning {r.id.display}: deleting {r.accountEmail.display}"
  .resume (do
      let c ← r.address.credentials Source.defaultOrder
      Identity.delete c r.project r.accountEmail r.accountName)
    fun result => match result with
    | .ok () => do
      info s!"Deprovisioned {r.id.display}; bucket {r.bucketName.display} is kept"
      pure (.success ⟨r.id⟩)
    | .error e =>
      if e.isReported then do
        Session.error s!"Deprovisioning of {r.id.display} failed: {e.message}"
        pure (.failure .fatalError [.text s!"Deprovision failed with: {e.message}"])
      else .fail e

/-! ## What can be submitted -/

/-- Something handed over to be provisioned or given up. -/
inductive Submission where
  | definition (d : Definition)
  | resource (r : Resource)
  | address (a : Address)
  | plain (v : Value)
  deriving DecidableEq

/-- Whether something can be provisioned. -/
def Submission.canProvision : Submission → Bool
  | .definition _ => true
  | _ => false

/-- Whether something can be given up. -/
def Submission.canDeprovision : Submission → Bool
  | .resource _ => true
  | _ => false

end TransferBucket
