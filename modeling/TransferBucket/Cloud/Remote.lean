import TransferBucket.Cloud.Session

/-!
# What the remote services do

Every call is written into the journal first, then meets what is planned for it, then works on the
cloud. A call ends in a result or in a fault; a fault leaves the cloud as it was.
-/

namespace TransferBucket

/-- A call: an action that ends in a fault or a result. -/
abbrev Remote (α : Type) := Action Session Fault α

namespace Remote

open Session

/-- The fault of a call that is refused by the service itself. -/
def refusal (e : CallError) (message : String) : Fault := ⟨.call e, message⟩

/-- Announce a call for which only a fault can be planned. -/
def begin (c : Call) : Remote Unit := do
  match ← announce c with
  | some (.raise f) => .fail f
  | some (.raiseAfter _ f) => .fail f
  | _ => pure ()

/-! ## Clients -/

/-- Open a client for buckets, unless one is open. -/
def openStorage (project : Value) (credentials : Credentials) : Remote Unit := do
  let links ← .read Session.links
  if links.storage then pure ()
  else
    begin (.openStorage project credentials)
    changeLinks ({ · with storage := true })

/-- Open a client for accounts, unless one is open. -/
def openIdentity (credentials : Credentials) : Remote Unit := do
  let links ← .read Session.links
  if links.identity then pure ()
  else
    begin (.openIdentity credentials)
    changeLinks ({ · with identity := true })

/-- Open a client for tokens, unless one is open. -/
def openIssuer (credentials : Credentials) : Remote Unit := do
  let links ← .read Session.links
  if links.issuer then pure ()
  else
    begin (.openIssuer credentials)
    changeLinks ({ · with issuer := true })

/-- Open the client of the vault, unless it is open. -/
def openSecrets : Remote Unit := do
  let vault ← .read Session.vault
  if vault.isOpen then pure ()
  else
    begin .openSecrets
    changeVault ({ · with isOpen := true })

/-! ## Buckets -/

/-- The bucket with a name, if there is one. -/
def lookupBucket (name : Value) : Remote (Option Bucket) := do
  match ← announce (.lookupBucket name) with
  | some (.raise f) => .fail f
  | some (.raiseAfter _ f) => .fail f
  | some .stale => pure none
  | none => .read fun s => s.cloud.bucket? name

/-- The bucket with a name. -/
def getBucket (name : Value) : Remote Bucket := do
  begin (.getBucket name)
  match ← .read fun s => s.cloud.bucket? name with
  | some b => pure b
  | none => .fail (refusal .notFound s!"no bucket: {name.display}")

/-- Make a bucket. -/
def createBucket (name location storageClass : Value) : Remote Bucket := do
  begin (.createBucket name location storageClass)
  match ← .read fun s => s.cloud.bucket? name with
  | some _ => .fail (refusal .conflict s!"bucket exists: {name.display}")
  | none =>
    let b : Bucket := { name, location, storageClass }
    changeCloud (·.addBucket b)
    pure b

/-- A list as it arrives: its items, and the fault that may end it. -/
structure Listing (α : Type) where
  items : List α
  ending : Option Fault := none

/-- The first objects of a bucket. -/
def listObjects (name : Value) (limit : Nat) : Remote (Listing String) := do
  let plan ← announce (.listObjects name limit)
  match plan with
  | some (.raise f) => .fail f
  | some .stale => pure ⟨[], none⟩
  | some (.raiseAfter n f) =>
    .read fun s => ⟨(((s.cloud.bucket? name).elim [] Bucket.objects).take limit).take n, some f⟩
  | none =>
    match ← .read fun s => s.cloud.bucket? name with
    | some b => pure ⟨b.objects.take limit, none⟩
    | none => .fail (refusal .notFound s!"no bucket: {name.display}")

/-- The policy of a bucket. -/
def getPolicy (bucket : Value) (version : Nat) : Remote (List Binding) := do
  begin (.getPolicy bucket version)
  .read fun s => (s.cloud.bucket? bucket).elim [] Bucket.bindings

/-- Store the policy of a bucket. -/
def setPolicy (bucket : Value) (bindings : List Binding) : Remote Unit := do
  begin (.setPolicy bucket bindings)
  changeCloud (·.setBindings bucket bindings)

/-! ## Accounts -/

/-- The full name of a project. -/
def projectName (project : Value) : String := s!"projects/{project.display}"

/-- The e-mail address of the account with an id in a project. -/
def accountEmail (id : String) (project : Value) : String :=
  s!"{id}@{project.display}.iam.gserviceaccount.com"

/-- The full name of the account with an e-mail address in a project. -/
def accountName (project : Value) (email : String) : String :=
  s!"projects/{project.display}/serviceAccounts/{email}"

/-- The accounts of a project. -/
def listAccounts (project : Value) : Remote (Listing Account) := do
  let plan ← announce (.listAccounts (projectName project))
  let start := projectName project ++ "/serviceAccounts/"
  match plan with
  | some (.raise f) => .fail f
  | some .stale => pure ⟨[], none⟩
  | some (.raiseAfter n f) =>
    .read fun s => ⟨(s.cloud.accounts.filter fun a => start.isPrefixOf a.name).take n, some f⟩
  | none =>
    .read fun s => ⟨s.cloud.accounts.filter fun a => start.isPrefixOf a.name, none⟩

/-- Make an account. -/
def createAccount (project : Value) (id description : String) : Remote Account := do
  begin (.createAccount (projectName project) id id description)
  let email := accountEmail id project
  let name := accountName project email
  match ← .read fun s => s.cloud.account? name with
  | some _ => .fail (refusal .alreadyExists s!"account exists: {email}")
  | none =>
    let a : Account := ⟨email, name, description⟩
    changeCloud (·.addAccount a)
    pure a

/-- The account with a full name. -/
def getAccount (name : String) : Remote Account := do
  begin (.getAccount name)
  match ← .read fun s => s.cloud.account? name with
  | some a => pure a
  | none => .fail (refusal .notFound s!"no account: {name}")

/-- Delete the account with a full name. -/
def deleteAccount (name : Value) : Remote Unit := do
  begin (.deleteAccount name)
  match ← .read fun s => name.text?.bind s.cloud.account? with
  | some a => changeCloud (·.dropAccount a.name)
  | none => .fail (refusal .notFound s!"no account: {name.display}")

/-! ## Tokens and secrets -/

/-- Issue a token for an account. The texts of issued tokens are numbered. -/
def issueToken (name : String) (scopes : List String) (lifetime : Int) :
    Remote (String × Instant) := do
  begin (.issueToken name scopes lifetime)
  changeCloud fun c => { c with tokensIssued := c.tokensIssued + 1 }
  .read fun s => (s!"issued-{s.cloud.tokensIssued}", s.cloud.tokenEnd)

/-- The bytes of a secret. -/
def readSecret (name : String) : Remote (List UInt8) := do
  begin (.readSecret name)
  match ← .read fun s => s.cloud.secret? name with
  | some bytes => pure bytes
  | none => .fail (refusal .notFound s!"no secret: {name}")

/-- The credentials of a key file. -/
def loadKeyFile (info : Value) (scopes : List String) : Remote Credentials := do
  begin (.loadKeyFile info scopes)
  pure (.keyFile info scopes)

/-- The variable that names the key file of the default credentials. -/
def keyFileVariable : String := "GOOGLE_APPLICATION_CREDENTIALS"

/-- The default credentials of the surroundings. -/
def findDefault (scopes : List String) : Remote Credentials := do
  let file ← .read fun s => s.environment.get? keyFileVariable
  begin (.findDefault scopes file)
  pure (.surrounding scopes)

end Remote

end TransferBucket
