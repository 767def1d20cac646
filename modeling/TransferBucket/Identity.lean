import TransferBucket.Cloud.Remote
import TransferBucket.Failure
import TransferBucket.Token
import TransferBucket.Digest.Sha256

/-!
# Identities

The account of a transfer process for a bucket. Its id is made from the id of the process; its
description names process and bucket, and finds the account again. An account is made only if no
account of the project has that description, and never taken over from another resource.
-/

namespace TransferBucket

open Session

/-! ## Account ids -/

namespace AccountId

/-- What every id starts with. -/
def start : String := "edc-"

/-- The most characters after the start. -/
def longest : Nat := 26

/-- The fewest usable characters that make an id without a digest. -/
def fewest : Nat := 2

/-- The characters after the start of an id that needs a digest. -/
def filled : Nat := 8

/-- Whether a character may stand in an id. -/
def isUsable (c : Char) : Bool := ('a' ≤ c && c ≤ 'z') || ('0' ≤ c && c ≤ '9')

/-- The usable characters of the lower case of a character. Beside the capital letters, two
characters have a usable one in their lower case: the dotted capital I and the Kelvin sign. -/
def usable (c : Char) : List Char :=
  if isUsable c then [c]
  else if 'A' ≤ c ∧ c ≤ 'Z' then [c.toLower]
  else if c = '\u0130' then ['i']
  else if c = '\u212a' then ['k']
  else []

/-- What an id has after its start. -/
def suffix (process : List Char) : List Char :=
  let name := (process.flatMap usable).take longest
  if name.length < fewest then
    (name ++ Sha256.hexDigest (Utf8.encode process)).take filled
  else name

end AccountId

/-- The id of the account of a transfer process. -/
def accountId (process : String) : String :=
  AccountId.start ++ String.ofList (AccountId.suffix process.toList)

/-- The id of the account of a transfer process given as a document value. -/
def accountIdOf (process : Value) : Except Failure String :=
  match process with
  | .text s => .ok (accountId s)
  | v => .error (.mismatch (.noMember v.fullKindName "lower"))

/-- The description of the account of a transfer process for a bucket. -/
def accountDescription (process bucket : Value) : String :=
  s!"transferProcess:{process.display}\nbucket:{bucket.display}"

/-! ## Accounts -/

/-- Something found or made; `created` says which. -/
structure Lookup (α : Type) where
  value : α
  created : Bool
  deriving DecidableEq

/-- The failure that a fault is: one of the program's own, if the fault is recognised. -/
def reported (problem : Fault → ProvisionProblem) (f : Fault) : Failure :=
  if f.isRecognised then .provision (problem f) else .fault f

namespace Identity

/-- The first account of a project with a description. A list that ends in a fault is searched as
far as it comes. -/
def find? (credentials : Credentials) (project : Value) (description : String) :
    Action Session Failure (Option Account) :=
  .mapError (reported (.accountsUnlisted project)) do
    Remote.openIdentity credentials
    let listing ← Remote.listAccounts project
    match listing.items.find? fun a => a.description = description with
    | some a => pure (some a)
    | none => match listing.ending with
      | some f => .fail f
      | none => pure none

/-- The account that took an id first, if it has the description. -/
def takeExisting (credentials : Credentials) (project : Value) (id description : String) :
    Action Session Failure Account := do
  let email := Remote.accountEmail id project
  let account ← .mapError (reported (.accountUnread email)) do
    Remote.openIdentity credentials
    Remote.getAccount (Remote.accountName project email)
  if account.description = description then
    debug s!"Service account {email} was created concurrently, reusing it"
    pure account
  else .fail (.provision (.accountTaken email))

/-- The account with a description, made if there is none. -/
def getOrCreate (credentials : Credentials) (project : Value) (id description : String) :
    Action Session Failure (Lookup Account) := do
  match ← find? credentials project description with
  | some a =>
    debug s!"Reusing service account {a.email}"
    pure ⟨a, false⟩
  | none =>
    .resume (do Remote.openIdentity credentials; Remote.createAccount project id description)
      fun r => match r with
      | .ok a => do
        info s!"Created service account {a.email}"
        pure ⟨a, true⟩
      | .error f =>
        if f.isAlreadyExists then do
          let a ← takeExisting credentials project id description
          pure ⟨a, false⟩
        else .fail (reported (.accountNotCreated id) f)

/-- The scope of tokens issued for an account. -/
def tokenScopes : List String := ["https://www.googleapis.com/auth/devstorage.read_write"]

/-- The lifetime in seconds that a value asks for: none is zero, and another whole number must be one
of the machine's. -/
def lifetimeOf (v : Value) : Except Failure Int :=
  match v with
  | .null => .ok 0
  | .int n =>
    if -9223372036854775808 ≤ n ∧ n ≤ 9223372036854775807 then .ok n
    else .error (.value (.lifetime n))
  | v => .error (.mismatch (.notNumber v.kindName))

/-- Issue a token for an account. The client is opened before the lifetime is looked at. -/
def issueToken (credentials : Credentials) (lifetime : Value) (email : String) :
    Action Session Failure AccessToken := do
  let report := reported (.tokenNotIssued email)
  .mapError report (Remote.openIssuer credentials)
  let seconds ← .ofExcept (lifetimeOf lifetime)
  let (secret, ends) ← .mapError report
    (Remote.issueToken s!"projects/-/serviceAccounts/{email}" tokenScopes seconds)
  debug s!"Issued access token for {email}"
  pure ⟨secret, AccessToken.expirationAt ends⟩

/-- The full name of an account: the one given, else the one its e-mail address has. -/
def fullName (project email name : Value) : Value :=
  name.orElse (.text (Remote.accountName project email.display))

/-- Delete an account; one that is not there is no error. -/
def delete (credentials : Credentials) (project email name : Value) :
    Action Session Failure Unit :=
  .resume (do
      Remote.openIdentity credentials
      Remote.deleteAccount (fullName project email name))
    fun r => match r with
    | .ok () => info s!"Deleted service account {email.display}"
    | .error f =>
      if f.isNotFound then
        info s!"Service account {email.display} not found, no deletion needed"
      else .fail (reported (.accountNotDeleted email) f)

end Identity

end TransferBucket
