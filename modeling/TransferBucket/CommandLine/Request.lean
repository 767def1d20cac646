import TransferBucket.CommandLine.Argument

/-!
# Requests

What a command line asks for: one of the program's commands with its settings. A command line that
asks for nothing is refused, with the reason.
-/

namespace TransferBucket.CommandLine

/-- The settings of a provisioning; those not given come from the configuration. -/
structure ProvisionSettings where
  /-- The id of the transfer process; none if its flag has no text. -/
  transferProcess : Option String
  bucketName : Option String := none
  location : Option String := none
  storageClass : Option String := none
  project : Option String := none
  keyFileKey : Option String := none
  tokenKey : Option String := none
  output : Option String := none
  deriving DecidableEq, Repr

/-- What can be asked for. -/
inductive Request where
  | version
  | setConfigPath (path : String)
  | showConfigPath
  | clearConfigPath
  | provision (p : ProvisionSettings)
  /-- The file is none if its flag has no text. -/
  | deprovision (resourceFile : Option String)
  deriving DecidableEq, Repr

/-- A request, and how many messages are wanted with it. -/
structure Invocation where
  verbosity : Nat
  request : Request
  deriving DecidableEq, Repr

namespace Request

/-- A text that counts as given: not the empty one. -/
def given (text : Option String) : Option String := text.filter (· ≠ "")

/-- The request for a provisioning. -/
def ofProvision (r : Findings) : Request :=
  let text (name : String) : Option String := given (r.text? name)
  .provision {
    transferProcess := r.text? "--transfer-process-id"
    bucketName := text "--bucket-name"
    location := text "--location"
    storageClass := text "--storage-class"
    project := text "--project-id"
    keyFileKey := text "--service-account-key-name"
    tokenKey := text "--access-token-key-name"
    output := text "--output" }

/-- The request in the words behind `config`, with the arguments set aside; none if there is no
further command. -/
def ofConfig (words : List String) : Except Refusal (Option Request × List String) := do
  let r ← configGrammar.read words
  match r.operand with
  | some ("set-path" :: rest) =>
    let s ← setPathGrammar.read rest
    pure (some (.setConfigPath ((s.operand.bind List.head?).getD "")), r.aside ++ s.aside)
  | some ("show" :: rest) =>
    let s ← showGrammar.read rest
    pure (some .showConfigPath, r.aside ++ s.aside)
  | some ("clear" :: rest) =>
    let s ← clearGrammar.read rest
    pure (some .clearConfigPath, r.aside ++ s.aside)
  | _ => pure (none, r.aside)

/-- The request in the words of a command, with the arguments set aside; a grammar to explain if
there is no command. -/
def ofWords : List String → Except Refusal (Except Grammar Request × List String)
  | "version" :: rest => do
    let r ← versionGrammar.read rest
    pure (.ok .version, r.aside)
  | "config" :: rest => do
    match ← ofConfig rest with
    | (some request, aside) => pure (.ok request, aside)
    | (none, aside) => pure (.error configGrammar, aside)
  | "provision" :: rest => do
    let r ← provisionGrammar.read rest
    pure (.ok (ofProvision r), r.aside)
  | "deprovision" :: rest => do
    let r ← deprovisionGrammar.read rest
    pure (.ok (.deprovision (r.text? "--resource-file")), r.aside)
  | _ => .ok (.error mainGrammar, [])

end Request

/-- What the arguments of the program ask for. -/
def Invocation.ofArguments (args : List String) : Except Refusal Invocation := do
  let r ← mainGrammar.read args
  let (request?, aside) ← Request.ofWords (r.operand.getD [])
  match r.aside ++ aside with
  | [] =>
    match request? with
    | .ok request => pure ⟨r.count, request⟩
    | .error g => throw (.usage g false)
  | strange =>
    let list := " ".intercalate strange
    throw (.misuse mainGrammar s!"unrecognized arguments: {list}")

end TransferBucket.CommandLine
