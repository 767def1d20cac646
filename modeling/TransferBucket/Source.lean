import TransferBucket.Vault
import TransferBucket.Address
import TransferBucket.Token
import TransferBucket.Text.Base64

/-!
# Sources of credentials

Where the credentials for an address come from. An address may name several sources; they are
tried in a fixed order, and the first one present decides alone: if what it names is malformed or
missing, the whole fails and no later source is looked at. Without any source the default
credentials of the surroundings are taken.
-/

namespace TransferBucket

open Session

/-- The scopes of key files and default credentials. -/
def platformScopes : List String := ["https://www.googleapis.com/auth/cloud-platform"]

namespace Credentials

/-- The credentials of a token. -/
def ofToken (t : AccessToken) : Action Session Failure Credentials := do
  info "The provided token will be used to resolve the google credentials."
  match t.expiry? with
  | some ends => pure (.token t.secret ends)
  | none => .fail (.credential .tokenFormat)

/-- The credentials of the text of a token. -/
def ofTokenText (content : String) : Action Session Failure Credentials := do
  let token ← .ofExcept ((AccessToken.ofText content).mapError TokenProblem.failure)
  ofToken token

/-- The credentials of the text of a key file. -/
def ofKeyFileText (content : String) : Action Session Failure Credentials := do
  info "The provided credentials file will be used to resolve the google credentials."
  match Json.decode content.toList with
  | .error _ => .fail (.credential .keyFile)
  | .ok contents =>
    .mapError (fun f => if f.isKeyFileRefusal then .credential .keyFile else .fault f)
      (Remote.loadKeyFile contents platformScopes)

/-- The default credentials. -/
def ofSurroundings : Action Session Failure Credentials := do
  info "The default credentials will be used to resolve the google credentials."
  .mapError (fun f => if f.isDefaultCredentials then .credential .noDefault else .fault f)
    (Remote.findDefault platformScopes)

end Credentials

/-- The text that an encoded value holds; `problem` says what it is not. -/
def decodeInline (problem : CredentialProblem) (value : Value) : Except Failure String :=
  match value with
  | .text s =>
    if s.toList.all fun c => c.toNat < 128 then
      match Base64.decode? s.toList with
      | none => .error (.credential problem)
      | some bytes => match Utf8.decode bytes with
        | .ok cs => .ok (String.ofList cs)
        | .error _ => .error (.credential problem)
    else .error (.value .notAscii)
  | v => .error (.mismatch (.notBytes v))

/-- The mark that a key file contains. -/
def keyFileMark : String := "service_account"

/-- A kind of source. -/
inductive Source where
  | vaultToken
  | inlineToken
  | vaultKeyFile
  | inlineKeyFile
  deriving DecidableEq, Repr

namespace Source

/-- The order in which sources are tried. -/
def defaultOrder : List Source := [.vaultToken, .inlineToken, .vaultKeyFile, .inlineKeyFile]

/-- What an address gives for a source: the value that counts as given, if one does. -/
def given? (s : Source) (a : Address) : Option Value :=
  match s with
  | .vaultToken =>
    match a.keyName.present? with
    | some key => some key
    | none => (a.property Property.tokenKey).present?
  | .inlineToken => (a.property Property.tokenValue).present?
  | .vaultKeyFile => (a.property Property.keyFileKey).present?
  | .inlineKeyFile => (a.property Property.keyFileValue).present?

/-- The credentials of a source for what an address gives for it. -/
def credentials (s : Source) (given : Value) : Action Session Failure Credentials := do
  match s with
  | .vaultToken =>
    let content ← Vault.require given
    Credentials.ofTokenText content
  | .inlineToken =>
    let content ← .ofExcept (decodeInline .tokenEncoding given)
    Credentials.ofTokenText content
  | .vaultKeyFile =>
    let content ← Vault.require given
    Credentials.ofKeyFileText content
  | .inlineKeyFile =>
    let content ← .ofExcept (decodeInline .keyFileEncoding given)
    if occursIn keyFileMark.toList content.toList then Credentials.ofKeyFileText content
    else .fail (.credential .noKeyFileMark)

end Source

/-- The credentials for an address: those of the first source present, else the default ones. -/
def Address.credentials (order : List Source) (a : Address) :
    Action Session Failure Credentials :=
  match order with
  | [] => Credentials.ofSurroundings
  | s :: rest =>
    match s.given? a with
    | some given => s.credentials given
    | none => a.credentials rest

end TransferBucket
