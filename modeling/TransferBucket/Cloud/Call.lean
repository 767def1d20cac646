import TransferBucket.Cloud.State

/-!
# Remote calls

The calls that the program makes, each with what it hands over. Together, in their order, they are
all that a remote service sees of a run.
-/

namespace TransferBucket

/-- What a client of a remote service is made with. -/
inductive Credentials where
  /-- A token issued elsewhere, with the instant at which it ends. -/
  | token (secret : String) (ends : Instant)
  /-- The content of a key file, for some scopes. -/
  | keyFile (info : Value) (scopes : List String)
  /-- The default credentials of the surroundings, for some scopes. -/
  | surrounding (scopes : List String)
  /-- Credentials that the caller brought along. -/
  | direct
  deriving DecidableEq, Inhabited

/-- The methods of the remote services. -/
inductive Method where
  | openStorage
  | openIdentity
  | openIssuer
  | openSecrets
  | lookupBucket
  | getBucket
  | createBucket
  | listObjects
  | getPolicy
  | setPolicy
  | listAccounts
  | createAccount
  | getAccount
  | deleteAccount
  | issueToken
  | readSecret
  | loadKeyFile
  | findDefault
  deriving DecidableEq, Repr

/-- A call with what it hands over. -/
inductive Call where
  | openStorage (project : Value) (credentials : Credentials)
  | openIdentity (credentials : Credentials)
  | openIssuer (credentials : Credentials)
  | openSecrets
  | lookupBucket (name : Value)
  | getBucket (name : Value)
  | createBucket (name location storageClass : Value)
  | listObjects (name : Value) (limit : Nat)
  | getPolicy (bucket : Value) (version : Nat)
  | setPolicy (bucket : Value) (bindings : List Binding)
  | listAccounts (parent : String)
  | createAccount (parent id displayName description : String)
  | getAccount (name : String)
  | deleteAccount (name : Value)
  | issueToken (name : String) (scopes : List String) (lifetime : Int)
  | readSecret (name : String)
  | loadKeyFile (info : Value) (scopes : List String)
  | findDefault (scopes : List String) (keyFile : Option String)
  deriving DecidableEq

/-- The method of a call. -/
def Call.method : Call → Method
  | .openStorage .. => .openStorage
  | .openIdentity .. => .openIdentity
  | .openIssuer .. => .openIssuer
  | .openSecrets => .openSecrets
  | .lookupBucket .. => .lookupBucket
  | .getBucket .. => .getBucket
  | .createBucket .. => .createBucket
  | .listObjects .. => .listObjects
  | .getPolicy .. => .getPolicy
  | .setPolicy .. => .setPolicy
  | .listAccounts .. => .listAccounts
  | .createAccount .. => .createAccount
  | .getAccount .. => .getAccount
  | .deleteAccount .. => .deleteAccount
  | .issueToken .. => .issueToken
  | .readSecret .. => .readSecret
  | .loadKeyFile .. => .loadKeyFile
  | .findDefault .. => .findDefault

end TransferBucket
