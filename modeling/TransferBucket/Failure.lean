import TransferBucket.Cloud.Fault
import TransferBucket.Json.Reader
import TransferBucket.Json.Writer
import TransferBucket.Number.Literal
import TransferBucket.Text.Utf8

/-!
# Failures

Why a step of the program ends without a result. Three families belong to the program: credential
problems, provisioning problems and configuration problems. The first two are turned into the
failure results of provisioning; all other failures pass through it.
-/

namespace TransferBucket

/-- Problems with the credentials that an address names. -/
inductive CredentialProblem where
  /-- A text is no access token. -/
  | tokenFormat
  /-- A text is no key file. -/
  | keyFile
  /-- There are no default credentials. -/
  | noDefault
  /-- An inline access token is not decodable. -/
  | tokenEncoding
  /-- An inline key file is not decodable. -/
  | keyFileEncoding
  /-- An inline text lacks the mark of a key file. -/
  | noKeyFileMark
  /-- The vault has no text, or an empty one, under a key. -/
  | unresolved (key : Value)
  /-- The vault could not be read. -/
  | vaultUnread (key : Value) (cause : Fault)
  deriving DecidableEq

/-- The wording of a credential problem. -/
def CredentialProblem.message : CredentialProblem → String
  | .tokenFormat => "The access token is not in the expected format."
  | .keyFile => "Error while getting the credentials from the credentials file."
  | .noDefault => "Error while getting the default credentials."
  | .tokenEncoding => "The access token value is not valid base64."
  | .keyFileEncoding => "The service account value is not valid base64."
  | .noKeyFileMark => "The service account value is not a valid key file."
  | .unresolved key => s!"Secret '{key.display}' could not be resolved from the vault."
  | .vaultUnread key cause =>
    s!"Failed to read secret {key.display} from Secret Manager: {cause.text}"

/-- Problems while a resource is provisioned or given up. -/
inductive ProvisionProblem where
  | bucketUnavailable (name location : Value) (cause : Fault)
  | bucketUnlisted (name : Value) (cause : Fault)
  | bucketInUse (name : Value)
  | accountsUnlisted (project : Value) (cause : Fault)
  | accountNotCreated (id : String) (cause : Fault)
  | accountUnread (email : String) (cause : Fault)
  | accountTaken (email : String)
  | grantRefused (email : String) (bucket : Value) (cause : Fault)
  | tokenNotIssued (email : String) (cause : Fault)
  | accountNotDeleted (email : Value) (cause : Fault)
  | foreignDestination (type : Value)
  deriving DecidableEq

/-- The wording of a provisioning problem. -/
def ProvisionProblem.message : ProvisionProblem → String
  | .bucketUnavailable name location cause =>
    s!"Error creating bucket {name.display} in {location.display}: {cause.text}"
  | .bucketUnlisted name cause => s!"Error listing objects of bucket {name.display}: {cause.text}"
  | .bucketInUse name => s!"Bucket: {name.display} already exists and is not empty."
  | .accountsUnlisted project cause =>
    s!"Error listing service accounts of project {project.display}: {cause.text}"
  | .accountNotCreated id cause => s!"Error creating service account {id}: {cause.text}"
  | .accountUnread email cause => s!"Error reading service account {email}: {cause.text}"
  | .accountTaken email => s!"Service account {email} already exists for a different resource."
  | .grantRefused email bucket cause =>
    s!"Error granting {email} access to bucket {bucket.display}: {cause.text}"
  | .tokenNotIssued email cause =>
    s!"Error creating access token for service account {email}: {cause.text}"
  | .accountNotDeleted email cause =>
    s!"Error deleting service account {email.display}: {cause.text}"
  | .foreignDestination type =>
    s!"Cannot provision a GCS bucket for destination type {type.display}"

/-- Refusals of the file system, with the path as it was given. -/
inductive FileProblem where
  | missing (path : String)
  | exists (path : String)
  | notDirectory (path : String)
  | isDirectory (path : String)
  /-- The path, or a name in it, has too many bytes. -/
  | tooLong (path : String)
  deriving DecidableEq, Repr

/-- The wording of a refusal: its number, its text and the path. -/
def FileProblem.message : FileProblem → String
  | .missing path => s!"[Errno 2] No such file or directory: {Value.quoted path}"
  | .exists path => s!"[Errno 17] File exists: {Value.quoted path}"
  | .notDirectory path => s!"[Errno 20] Not a directory: {Value.quoted path}"
  | .isDirectory path => s!"[Errno 21] Is a directory: {Value.quoted path}"
  | .tooLong path => s!"[Errno 36] File name too long: {Value.quoted path}"

/-- Problems with a configuration file. -/
inductive ConfigProblem where
  | unparsable (path : String)
  | unreadable (path : String) (cause : FileProblem)
  | empty (path : String)
  | notMapping (path : String)
  | noProjectSection (path : String)
  | noProjectId
  | authenticationNotMapping
  | noAuthenticationType
  | foreignAuthentication (type : Value)
  | noKeyFilePath
  | noKeyFile (path : Value)
  | sectionNotMapping (name : String)
  | notPositive (key : String) (value : Value)
  | foreignVault (kind : Value)
  deriving DecidableEq

/-- The kinds of vault that a configuration may choose. -/
def vaultKinds : List String := ["secret_manager", "environment"]

/-- The wording of a configuration problem. -/
def ConfigProblem.message : ConfigProblem → String
  | .unparsable path => s!"Failed to parse YAML config at {path}: not a YAML document"
  | .unreadable path cause => s!"Failed to read config file at {path}: {cause.message}"
  | .empty path => s!"Config file at {path} is empty"
  | .notMapping path => s!"Config file at {path} must contain a mapping"
  | .noProjectSection path =>
    s!"Missing 'gcp' section in config at {path}\nRequired format:\ngcp:\n  project_id: your-project-id"
  | .noProjectId => "Missing 'gcp.project_id' in config"
  | .authenticationNotMapping => "'authentication' must be a mapping"
  | .noAuthenticationType => "Missing 'authentication.type' in config"
  | .foreignAuthentication type =>
    s!"Unsupported authentication type: {type.display}\nOnly 'service_account' is supported."
  | .noKeyFilePath =>
    "Missing 'authentication.service_account_path' in config\n" ++
      "Please specify the absolute path to your service account JSON file."
  | .noKeyFile path => s!"Service account file not found at: {path.display}"
  | .sectionNotMapping name => s!"'{name}' must be a mapping"
  | .notPositive key value =>
    s!"'provisioning.{key}' must be a positive integer, got: {value.inner}"
  | .foreignVault kind =>
    s!"Unsupported vault: {kind.display}\nSupported vaults: " ++ ", ".intercalate vaultKinds

/-- A value of a kind that cannot be used where it stands. -/
inductive Mismatch where
  /-- A value has no such member. -/
  | noMember (kind member : String)
  /-- A value has no items. -/
  | notIterable (kind : String)
  /-- An item of a list of entries has no items. -/
  | notEntry (index : Nat)
  /-- A value cannot be a key. -/
  | unhashable (kind : String)
  /-- The fields of a record have names that are no texts. -/
  | fieldNames
  /-- The fields of a record are no mapping. -/
  | notFields (record kind : String)
  | unexpectedField (record name : String)
  | missingFields (record : String) (names : List String)
  | notPath (kind : String)
  | notFile (kind : String)
  | notEnvironmentText (kind : String)
  | notBytes (value : Value)
  /-- A pattern is looked for in what is no text. -/
  | notText (kind : String)
  /-- A number is asked for. -/
  | notNumber (kind : String)
  /-- The name of a level of messages is that of a table. -/
  | levelTable
  | unwritable (obstacle : Json.Obstacle)
  /-- Membership is asked of a value that has no members. -/
  | noMembership (kind : String)
  /-- Membership of a text is asked of a text, but the member is none. -/
  | textMembership (kind : String)
  | textIndex (kind : String)
  | listIndex (kind : String)
  | noIndex (kind : String)
  | noItemAssignment (kind : String)
  | noItemDeletion (kind : String)
  | notJoinable (index : Nat) (kind : String)
  deriving DecidableEq

/-- Names in an enumeration: `'a'`, `'a' and 'b'`, `'a', 'b', and 'c'`. -/
def enumerate (names : List String) : String :=
  match names.map fun n => s!"'{n}'" with
  | [] => ""
  | [a] => a
  | [a, b] => a ++ " and " ++ b
  | many => ", ".intercalate many.dropLast ++ ", and " ++ many.getLastD ""

/-- The layouts of messages by their marks, as a message shows them. -/
def layoutTable : String :=
  let row (mark name text : String) : String :=
    s!"'{mark}': (<class 'logging.{name}'>, '{text}')"
  "\x7b" ++ ", ".intercalate [
    row "%" "PercentStyle" "%(levelname)s:%(name)s:%(message)s",
    row "\x7b" "StrFormatStyle" "\x7blevelname\x7d:\x7bname\x7d:\x7bmessage\x7d",
    row "$" "StringTemplateStyle" "$\x7blevelname\x7d:$\x7bname\x7d:$\x7bmessage\x7d"] ++ "\x7d"

/-- The wording of a mismatch. -/
def Mismatch.message : Mismatch → String
  | .noMember kind member => s!"'{kind}' object has no attribute '{member}'"
  | .notIterable kind => s!"'{kind}' object is not iterable"
  | .notEntry index =>
    s!"cannot convert dictionary update sequence element #{index} to a sequence"
  | .unhashable kind => s!"unhashable type: '{kind}'"
  | .fieldNames => "keywords must be strings"
  | .notFields record kind => s!"{record}() argument after ** must be a mapping, not {kind}"
  | .unexpectedField record name =>
    -- under the name `self` the record itself is handed over already
    if name = "self" then s!"{record}.__init__() got multiple values for argument '{name}'"
    else s!"{record}.__init__() got an unexpected keyword argument '{name}'"
  | .missingFields record names =>
    let word := if names.length = 1 then "argument" else "arguments"
    s!"{record}.__init__() missing {names.length} required positional {word}: {enumerate names}"
  | .notPath kind => s!"expected str, bytes or os.PathLike object, not {kind}"
  | .notFile kind => s!"stat: path should be string, bytes, os.PathLike or integer, not {kind}"
  | .notEnvironmentText kind => s!"str expected, not {kind}"
  | .notBytes value =>
    s!"argument should be a bytes-like object or ASCII string, not '{value.kindName}'"
  | .notText kind => s!"expected string or bytes-like object, got '{kind}'"
  | .notNumber kind => s!"'{kind}' object cannot be interpreted as an integer"
  | .levelTable => s!"Level not an integer or a valid string: {layoutTable}"
  | .unwritable obstacle => obstacle.message
  | .noMembership kind => s!"argument of type '{kind}' is not iterable"
  | .textMembership kind => s!"'in <string>' requires string as left operand, not {kind}"
  | .textIndex kind => s!"string indices must be integers, not '{kind}'"
  | .listIndex kind => s!"list indices must be integers or slices, not {kind}"
  | .noIndex kind => s!"'{kind}' object is not subscriptable"
  | .noItemAssignment kind => s!"'{kind}' object does not support item assignment"
  | .noItemDeletion kind => s!"'{kind}' object does not support item deletion"
  | .notJoinable index kind =>
    s!"sequence item {index}: expected str instance, {kind} found"

/-- A value of the right kind that is out of range or malformed. -/
inductive ValueProblem where
  /-- An item of a list of entries has another number of parts than two. -/
  | entryLength (index length : Nat)
  | notAscii
  | json (e : Json.ReadError)
  | undecodable (m : Utf8.Malformed)
  | date (p : Date.Problem)
  | wholeNumber (base : Nat) (text : String)
  | decimal (text : String)
  | tooLong (digits : Nat)
  | character
  | time (p : Timestamp.Problem)
  | nullByte
  | logLevel (text : String)
  | unwritable (obstacle : Json.Obstacle)
  /-- A whole number that a text would have to show has too many digits. -/
  | longNumber
  /-- A lifetime in seconds that the machine's numbers do not hold. -/
  | lifetime (seconds : Int)
  deriving DecidableEq

/-- The most characters of a quoted text that a message about a number shows. -/
def quotedLimit : Nat := 200

/-- The start of a text in quotes. -/
def quotedStart (text : String) : String := String.ofList ((Value.quoted text).toList.take quotedLimit)

/-- The wording of a value problem. -/
def ValueProblem.message : ValueProblem → String
  | .entryLength index length =>
    s!"dictionary update sequence element #{index} has length {length}; 2 is required"
  | .notAscii => "string argument should contain only ASCII characters"
  | .json e => e.message
  | .undecodable m => m.message
  | .date p => p.message
  | .wholeNumber base text => s!"invalid literal for int() with base {base}: {quotedStart text}"
  | .decimal text => s!"could not convert string to float: {Value.quoted text}"
  | .tooLong digits => tooLongMessage digits
  | .character => "chr() arg not in range(0x110000)"
  | .time p => p.message
  | .nullByte => "embedded null byte"
  | .logLevel text => s!"Unknown level: {Value.quoted text}"
  | .unwritable obstacle => obstacle.message
  | .longNumber => unwritableMessage
  | .lifetime seconds =>
    if isWritable seconds then s!"Value out of range: {seconds}" else unwritableMessage

/-- Numbers that a result cannot hold. -/
inductive RangeProblem where
  | infinity
  /-- A whole number is beyond all floating-point numbers. -/
  | wholeNumber
  /-- The number of a character is beyond the machine's numbers. -/
  | characterNumber
  | descriptorAbove
  | descriptorBelow
  deriving DecidableEq, Repr

/-- The wording of a range problem. -/
def RangeProblem.message : RangeProblem → String
  | .infinity => "cannot convert float infinity to integer"
  | .wholeNumber => "int too large to convert to float"
  | .characterNumber => "Python int too large to convert to C int"
  | .descriptorAbove => "fd is greater than maximum"
  | .descriptorBelow => "fd is less than minimum"

/-- Indices without an item. -/
inductive IndexProblem where
  /-- A text ends before it. -/
  | text
  /-- A list ends before it. -/
  | list
  /-- It is beyond the machine's numbers. -/
  | size
  deriving DecidableEq, Repr

/-- The wording of an index problem. -/
def IndexProblem.message : IndexProblem → String
  | .text => "string index out of range"
  | .list => "list assignment index out of range"
  | .size => "cannot fit 'int' into an index-sized integer"

/-- Why a step ends without a result. -/
inductive Failure where
  /-- A fault of a remote call, as it came. -/
  | fault (f : Fault)
  | credential (p : CredentialProblem)
  | provision (p : ProvisionProblem)
  | config (p : ConfigProblem)
  /-- There is no configuration file; `directory` is where one is looked for. -/
  | noConfigFile (directory : String)
  | file (p : FileProblem)
  | mismatch (m : Mismatch)
  | value (p : ValueProblem)
  | missingKey (key : Value)
  | range (p : RangeProblem)
  | index (p : IndexProblem)
  /-- The home directory is not known. -/
  | noHome
  /-- What is asked of a value leads back to it without end. -/
  | endless
  deriving DecidableEq

namespace Failure

/-- The failure that an obstacle to writing a JSON text is: the wrong kind of value, or a value of
the right kind. -/
def ofObstacle (o : Json.Obstacle) : Failure :=
  match o with
  | .value _ | .key _ => .mismatch (.unwritable o)
  | .circular | .longNumber => .value (.unwritable o)

/-- A failure whose message shows a value. If the value cannot be shown, that is the failure. -/
def showing (v : Value) (f : Failure) : Failure :=
  if v.isSpellable then f else .value .longNumber

/-- The advice when there is no configuration file. -/
def noConfigFileMessage (directory : String) : String :=
  "Configuration file not found. Please set up your config file using one of these methods:\n\n" ++
  "1. Use the default location:\n" ++
  s!"   mkdir -p {directory}\n" ++
  s!"   cp /path/to/your/config.yml {directory}/config.yml\n\n" ++
  "2. Point to an existing config file:\n" ++
  "   gcsprovision config set-path /path/to/your/config.yml\n"

/-- The wording of a failure. -/
def message : Failure → String
  | .fault f => f.text
  | .credential p => p.message
  | .provision p => p.message
  | .config p => p.message
  | .noConfigFile directory => noConfigFileMessage directory
  | .file p => p.message
  | .mismatch m => m.message
  | .value p => p.message
  | .missingKey key => key.inner
  | .range p => p.message
  | .index p => p.message
  | .noHome => "Could not determine home directory."
  | .endless => "maximum recursion depth exceeded"

/-- Whether provisioning turns a failure into a failure result. -/
def isReported : Failure → Bool
  | .credential _ => true
  | .provision _ => true
  | _ => false

/-- Whether a failure says that a value has the wrong form or kind. -/
def isBadValue : Failure → Bool
  | .value _ => true
  | .mismatch (.noMember ..) => false
  | .mismatch _ => true
  | _ => false

/-- Whether a failure is an interruption by the user. -/
def isInterrupt : Failure → Bool
  | .fault f => decide (f.kind = .foreign .interrupt)
  | _ => false

end Failure

end TransferBucket
