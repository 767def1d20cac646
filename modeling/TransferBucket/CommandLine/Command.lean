import TransferBucket.CommandLine.Request
import TransferBucket.CommandLine.Terminal
import TransferBucket.CommandLine.Validation
import TransferBucket.Configuration
import TransferBucket.Provision

/-!
# Commands

What the program does for each request, and how it ends: with status 0 if all went well, 1 after a
failure, 2 if the program was used wrongly. Every command is a process of its own: the variables it
sets, its vault and its clients end with it.
-/

namespace TransferBucket.CommandLine

open Shell

/-! ## Messages -/

/-- The letters besides the small ones from `a` to `z` whose capitals are from `A` to `Z`: the sharp
s, the dotless i, the long s, and joined letters. -/
def foreignCapitals : List (Char × List Char) := [
  ('\u00df', ['S', 'S']), ('\u0131', ['I']), ('\u017f', ['S']), ('\ufb00', ['F', 'F']),
  ('\ufb01', ['F', 'I']), ('\ufb02', ['F', 'L']), ('\ufb03', ['F', 'F', 'I']),
  ('\ufb04', ['F', 'F', 'L']), ('\ufb05', ['S', 'T']), ('\ufb06', ['S', 'T'])]

/-- A text in capitals, as far as names of levels need it: a letter whose capitals are not all from
`A` to `Z` stays as it is, and is in no name. -/
def capitals (s : String) : String :=
  String.ofList (s.toList.flatMap fun c => (foreignCapitals.lookup c).getD [c.toUpper])

/-- The ranks that names stand for. -/
def namedRanks : List (String × Nat) := [
  ("CRITICAL", 50), ("FATAL", 50), ("ERROR", 40), ("WARNING", 30), ("WARN", 30), ("INFO", 20),
  ("DEBUG", 10), ("NOTSET", 0)]

/-- The lowest rank shown for a verbosity; without any the configuration decides. A name that is
none of a level means warnings, except for two, which name a layout and a table of layouts and no
level. -/
def thresholdOf (verbosity : Nat) (configured : Value) : Except Failure Nat :=
  match verbosity with
  | 0 =>
    match (configured.orElse (.text "WARNING")).wording with
    | .error e => .error e
    | .ok text =>
      let name := capitals text
      match namedRanks.lookup name with
      | some rank => .ok rank
      | none =>
        if name = "BASIC_FORMAT" then
          .error (.value (.logLevel "%(levelname)s:%(name)s:%(message)s"))
        else if name = "_STYLES" then .error (.mismatch .levelTable)
        else .ok Level.warning.rank
  | 1 => .ok Level.info.rank
  | _ => .ok Level.debug.rank

/-! ## Settings -/

/-- What a section of a configuration says under a name. -/
def setting (config : Mapping) (part name : String) : Value :=
  match Value.field part config with
  | .mapping m => Value.field name m
  | _ => .null

/-- The configuration in use: that of the file, whose key file is made the default one, or the one
for the case that there is no file. -/
def configuration : Action Host Failure Mapping :=
  .resume Configuration.load fun r => match r with
    | .ok config => do
      Configuration.applyAuthentication (.mapping config)
      pure config
    | .error (.noConfigFile _) => do
      Host.inSession (Session.info "No config file found, using defaults")
      pure Configuration.withoutFile
    | .error e => .fail e

/-- Read the configuration, and show messages from then on as it says. -/
def configure (verbosity : Nat) : Shell Mapping := do
  onHost Host.requireHome
  let config ← onHost configuration
  let threshold ← ofExcept (thresholdOf verbosity (setting config "logging" "level"))
  .modify fun t => { t with threshold }
  pure config

/-- Open the vault that a configuration chooses. -/
def openVault (config : Mapping) (project : Value) : Shell Unit :=
  let kind : VaultKind :=
    if (setting config "provisioning" "vault").equals (.text "environment") then .environment
    else .secrets project true
  inSession (Session.changeVault fun _ => { kind })

/-! ## The commands -/

/-- The number of this version. -/
def versionNumber : String := "0.1.0"

/-- Make a file the configuration file. -/
def setConfigPath (path : String) : Shell Unit := do
  onHost Host.requireHome
  if path.toList.contains '\x00' then .fail (.failure (.value .nullByte))
  let files ← .read fun t => t.host.files
  let full := Path.absolute (Path.resolve files.directory path)
  if !(← onHost (Host.isThere full)) then exitWith 1 s!"Error: Config file does not exist: {full}"
  if !(← onHost (Host.isFile full)) then exitWith 1 s!"Error: Path is not a file: {full}"
  onHost (Preferences.set (.text "config_path") (.text full))
  say s!"Config path set to: {full}"

/-- Show which file is the configuration file. -/
def showConfigPath : Shell Unit := do
  onHost Host.requireHome
  match ← onHost Configuration.preferredPath with
  | some path => do
    if ← onHost (Host.isThere path) then say s!"Config path: {path}"
    else say s!"Config path (from preference, but file not found): {path}"
    say "Source: preference"
  | none => do
    let path ← onHost Configuration.defaultPath
    say s!"Config path: {path}"
    if ← onHost (Host.isThere path) then say "Source: default"
    else say "Source: default (file not found)"

/-- Go back to the default configuration file. -/
def clearConfigPath : Shell Unit := do
  onHost Host.requireHome
  onHost (Preferences.clear (.text "config_path"))
  let path ← onHost Configuration.defaultPath
  say s!"Config path preference cleared. Will use default: {path}"

/-- The properties of the address that the settings of a provisioning make. -/
def ProvisionSettings.properties (p : ProvisionSettings) : Mapping :=
  let property (name : String) (text : Option String) : Mapping :=
    text.toList.map fun s => (.text name, .text s)
  property Property.bucketName p.bucketName ++ property Property.keyFileKey p.keyFileKey ++
    property Property.tokenKey p.tokenKey

/-- The value of a flag, which is an empty list where the flag has no text. -/
def flagValue (text : Option String) : Value := (text.map Value.text).getD (.list [])

/-- The definition that the settings of a provisioning make. -/
def ProvisionSettings.definition (p : ProvisionSettings) (id : String) (config : Mapping)
    (project : Value) : Except Failure Definition :=
  let orConfigured (text : Option String) (name : String) : Value :=
    (text.map Value.text).getD (setting config "provisioning" name)
  Definition.forTransfer id (flagValue p.transferProcess) { properties := p.properties } project
    (orConfigured p.location "location") (orConfigured p.storageClass "storage_class")

/-- Refuse names that cannot be those of a transfer process or bucket. -/
def ProvisionSettings.check (p : ProvisionSettings) : Shell Unit := do
  let heed (refusal? : Except Failure (Option String)) : Shell Unit := do
    match ← ofExcept refusal? with
    | some refusal => do
      .modify fun t => { t with errors := t.errors ++ refusal }
      exit 2
    | none => pure ()
  heed (Validation.processIdRefusal? (flagValue p.transferProcess))
  match p.bucketName with
  | some name => heed (Validation.bucketNameRefusal? (.text name))
  | none => pure ()

/-- A value as an indented JSON text. -/
def jsonText (v : Value) : Shell (List Char) :=
  ofExcept ((Json.encode (.indented 2) v).mapError Failure.ofObstacle)

/-- The content of an outcome; a failure ends the command. -/
def contentOf {α : Type} (o : Outcome α) : Shell α := do
  match o.content with
  | some content => pure content
  | none => do
    let detail ← ofExcept o.detail
    exitWith 1 s!"Error: {detail}"

/-- Provision a bucket for a transfer process; `id` is the id of the definition made for it. The
token is never printed. -/
def provisionCommand (id : String) (verbosity : Nat) (p : ProvisionSettings) : Shell Unit := do
  onHost Host.requireHome
  p.check
  let config ← configure verbosity
  let project ← match p.project with
    | some project => pure (Value.text project)
    | none => onHost (Configuration.projectId (some (.mapping config)))
  if !project.isTruthy then
    exitWith 1 ("Error: No project id. Pass --project-id, set GCP_PROJECT or configure " ++
      "gcp.project_id")
  let definition ← ofExcept (p.definition id config project)
  openVault config project
  let outcome ← inSession
    (TransferBucket.provision (setting config "provisioning" "token_lifetime_seconds") definition)
  let made ← contentOf outcome
  match p.output with
  | none => pure ()
  | some file => do
    let text ← jsonText made.resource.toValue
    onHost (Host.writeText (Path.normalise file) text)
    complain s!"Provisioned resource written to: {file}"
  let text ← jsonText (.record [
    ("resource", made.resource.toValue),
    ("token_expiration", .int made.token.expiration)])
  say (String.ofList text)

/-- The record that the text of a file gives. -/
def resourceOf (text : String) : Except Failure Resource :=
  match Json.decode text.toList with
  | .ok v => Resource.ofValue v
  | .error e => .error (.value (.json e))

/-- Read a record from a file. -/
def readResource (path : String) : Shell Resource := do
  let resource : Action Host Failure Resource := do
    let text ← Host.readText path
    .ofExcept (resourceOf text)
  .resume (onHost resource) fun r => match r with
    | .ok resource => pure resource
    | .error (.failure e) =>
      if e.isBadValue then
        exitWith 2 s!"Error: Resource file is not a provisioned resource: {e.message}"
      else .fail (.failure e)
    | .error e => .fail e

/-- Give up the resource whose record a file holds. -/
def deprovisionCommand (verbosity : Nat) (resourceFile : Option String) : Shell Unit := do
  let path ← match resourceFile with
    | some file => pure (Path.normalise file)
    | none => .fail (.failure (.mismatch (.notPath (Value.list []).kindName)))
  if !(← onHost (Host.isFile path)) then
    exitWith 1 s!"Error: Resource file does not exist: {path}"
  let resource ← readResource path
  let config ← configure verbosity
  openVault config resource.project
  let outcome ← inSession (TransferBucket.deprovision resource)
  let gone ← contentOf outcome
  say s!"Deprovisioned resource: {gone.resourceId.display}"

/-- Do what is asked for. -/
def perform (id : String) (i : Invocation) : Shell Unit :=
  match i.request with
  | .version => say s!"gcs-provision {versionNumber}"
  | .setConfigPath path => setConfigPath path
  | .showConfigPath => showConfigPath
  | .clearConfigPath => clearConfigPath
  | .provision p => provisionCommand id i.verbosity p
  | .deprovision file => deprovisionCommand i.verbosity file

/-! ## The whole program -/

/-- What a refusal leaves behind. -/
def Refusal.report : Refusal → Report
  | .usage g asked => { status := if asked then 0 else 2, output := g.usage }
  | .misuse g message => { status := 2, errors := g.usage ++ s!"{g.program}: error: {message}\n" }

/-- The report of a command that has ended. -/
def conclude (r : Except Ending Unit) (t : Terminal) : Report :=
  match r with
  | .ok () => ⟨0, t.output, t.errors⟩
  | .error (.exit status) => ⟨status, t.output, t.errors⟩
  | .error (.failure f) =>
    let last := if f.isInterrupt then "\nInterrupted\n" else s!"Error: {f.message}\n"
    ⟨1, t.output, t.errors ++ last⟩

/-- Run the program on its arguments; `id` is the id for a definition, should one be made. -/
def run (id : String) (args : List String) (h : Host) : Report × Host :=
  match Invocation.ofArguments args with
  | .error refusal => (refusal.report, h)
  | .ok i =>
    let home := h.currentHome.toOption.getD h.home
    let start : Host := { h with home, session := { h.session with links := {} } }
    match perform id i { host := start } with
    | (r, t) =>
      let s := t.host.session
      (conclude r t, { t.host with
        home := h.home
        session := { s with
          environment := h.session.environment, vault := h.session.vault,
          links := h.session.links } })

end TransferBucket.CommandLine
