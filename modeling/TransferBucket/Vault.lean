import TransferBucket.Cloud.Remote
import TransferBucket.Failure

/-!
# The vault

The text that the vault keeps under a key. A vault of the environment looks only there. A vault
of secrets may look into the environment first; what it fetches from the secrets of its project
it remembers, and never fetches again.
-/

namespace TransferBucket.Vault

open Session

/-- A key as the name of a variable. -/
def variableName (key : Value) : Action Session Failure String :=
  match key with
  | .text s => pure s
  | v => .fail (.mismatch (.notEnvironmentText v.kindName))

/-- The full name of the secret under a key. -/
def secretName (project key : Value) : String :=
  s!"projects/{project.display}/secrets/{key.display}/versions/latest"

/-- The text fetched before under a key. -/
def remembered? (v : Vault) (key : Value) : Option String :=
  (v.fetched.find? fun e => Value.sameKey e.1 key).map (·.2)

/-- Remember a text under a key. -/
def remember (key : Value) (text : String) : Action Session Failure Unit :=
  changeVault fun v => { v with fetched := v.fetched ++ [(key, text)] }

/-- Fetch the text under a key from the secrets of a project; a secret that is not there is no
error. -/
def fetch (project key : Value) : Action Session Failure (Option String) :=
  .resume (do Remote.openSecrets; Remote.readSecret (secretName project key)) fun r =>
    match r with
    | .ok bytes =>
      match Utf8.decode bytes with
      | .ok cs => pure (some (String.ofList cs))
      | .error m => .fail (.value (.undecodable m))
    | .error f =>
      if f.isNotFound then do
        warning s!"Secret {key.display} not found in project {project.display}"
        pure none
      else if f.isRecognised then .fail (.credential (.vaultUnread key f))
      else .fail (.fault f)

/-- The text of the environment under a key, if it is looked for there and is not empty. -/
def fromEnvironment (environmentFirst : Bool) (key : Value) :
    Action Session Failure (Option String) := do
  if environmentFirst then
    let name ← variableName key
    match ← .read fun s => s.environment.get? name with
    | some text =>
      if text = "" then pure none
      else
        debug s!"Secret {key.display} resolved from environment"
        pure (some text)
    | none => pure none
  else pure none

/-- The text remembered or fetched under a key. -/
def fromSecrets (project key : Value) : Action Session Failure (Option String) := do
  if key.isKey then
    match ← .read fun s => remembered? s.vault key with
    | some text => pure (some text)
    | none =>
      match ← fetch project key with
      | some text =>
        remember key text
        pure (some text)
      | none => pure none
  else .fail (.mismatch (.unhashable key.kindName))

/-- The text under a key, if there is one. -/
def resolve (key : Value) : Action Session Failure (Option String) := do
  let vault ← .read Session.vault
  match vault.kind with
  | .environment =>
    let name ← variableName key
    .read fun s => s.environment.get? name
  | .secrets project environmentFirst =>
    match ← fromEnvironment environmentFirst key with
    | some text => pure (some text)
    | none => fromSecrets project key

/-- The text under a key, which must be there and not empty. -/
def require (key : Value) : Action Session Failure String := do
  match ← resolve key with
  | some text => if text = "" then .fail (.credential (.unresolved key)) else pure text
  | none => .fail (.credential (.unresolved key))

end TransferBucket.Vault
