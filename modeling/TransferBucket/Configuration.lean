import TransferBucket.Preferences
import TransferBucket.Cloud.Remote
import TransferBucket.Yaml.Document

/-!
# Configuration

The configuration is a YAML file that says for which project to work, with which key file, and
how to provision. The file is the one that the preferences name, if something is there, else the
one at the default place. It is checked as a whole before it is used, and two of its sections are
filled up with defaults.
-/

namespace TransferBucket.Configuration

open Host

/-! ## The file -/

/-- The directory of the default configuration file. -/
def defaultDirectory : Action Host Failure String := do
  let h ← .get
  let home ← .ofExcept h.currentHome
  pure (settingsDirectory home)

/-- The configuration file in a directory. -/
def fileIn (directory : String) : String := Path.inside directory "config.yml"

/-- The default configuration file. -/
def defaultPath : Action Host Failure String := fileIn <$> defaultDirectory

/-- The file that the preferences name, if they name one. -/
def preferredPath : Action Host Failure (Option String) := do
  let preference ← Preferences.get (.text "config_path")
  match preference.present? with
  | none => pure none
  | some (.text s) => pure (some (Path.normalise s))
  | some v => .fail (.mismatch (.notPath v.kindName))

/-- The default configuration file, which must be there. -/
def presentDefault : Action Host Failure String := do
  let directory ← defaultDirectory
  let path := fileIn directory
  if ← isThere path then
    inSession (Session.info s!"Using default config location: {path}")
    pure path
  else .fail (.noConfigFile directory)

/-- The configuration file. -/
def path : Action Host Failure String := do
  match ← preferredPath with
  | none => presentDefault
  | some path =>
    if ← isThere path then
      inSession (Session.info s!"Using config from preference: {path}")
      pure path
    else
      inSession (Session.warning s!"Config path from preference doesn't exist: {path}")
      presentDefault

/-- What the configuration file at a path holds. -/
def read (path : String) : Action Host Failure Value := do
  let bytes ← .mapError (fun e => match e with
    | .file p => .config (.unreadable path p)
    | e => e) (readBytes path)
  match Yaml.decode (Yaml.Input.ofBytes bytes) with
  | .ok v => pure v
  | .error .malformed => .fail (.config (.unparsable path))
  | .error (.failure e) => .fail e

/-! ## Checks -/

/-- The section on provisioning where the file does not say otherwise. -/
def provisioningDefaults : Mapping := [
  (.text "location", .text "US"),
  (.text "storage_class", .text "STANDARD"),
  (.text "max_workers", .int 4),
  (.text "token_lifetime_seconds", .int 3600),
  (.text "vault", .text "secret_manager")]

/-- The section on messages where the file does not say otherwise. -/
def loggingDefaults : Mapping := [(.text "level", .text "WARNING")]

/-- The configuration where there is no file. -/
def withoutFile : Mapping := [
  (.text "gcp", .mapping []),
  (.text "provisioning", .mapping provisioningDefaults),
  (.text "logging", .mapping loggingDefaults)]

/-- Whether a value names a file. A whole number stands for an open stream, which is none. -/
def namesFile (files : FileSystem) (v : Value) : Except Failure Bool :=
  let stream (n : Int) : Except Failure Bool :=
    if 2147483647 < n then .error (.range .descriptorAbove)
    else if n < -2147483648 then .error (.range .descriptorBelow)
    else .ok false
  match v with
  | .text s => .ok (files.isFile s)
  | .bytes bs => match Utf8.decode bs with
    | .ok cs => .ok (files.isFile (String.ofList cs))
    | .error _ => .ok false
  | .int n => stream n
  | .bool _ => .ok false
  | v => .error (.mismatch (.notFile v.kindName))

/-- Check the section on authentication, where there is one. -/
def checkAuthentication (files : FileSystem) : Option Value → Except Failure Unit
  | none => .ok ()
  | some (.mapping m) =>
    match Value.field? "type" m, Value.field? "service_account_path" m with
    | none, _ => .error (.config .noAuthenticationType)
    | some type, file =>
      if type.equals (.text "service_account") then
        match file with
        | none => .error (.config .noKeyFilePath)
        | some file =>
          match namesFile files file with
          | .ok true => .ok ()
          | .ok false => .error (.config (.noKeyFile file))
          | .error e => .error e
      else .error (.showing type (.config (.foreignAuthentication type)))
  | some _ => .error (.config .authenticationNotMapping)

/-- Defaults with the entries of a section in place of theirs. -/
def merge (defaults given : Mapping) : Mapping :=
  given.foldl (fun m e => Value.insert e.1 e.2 m) defaults

/-- A section filled up with defaults. -/
def filled (config : Mapping) (name : String) (defaults : Mapping) : Except Failure Mapping :=
  match (Value.field name config).orElse (.mapping []) with
  | .mapping m => .ok (merge defaults m)
  | _ => .error (.config (.sectionNotMapping name))

/-- Whether a value is a whole number above zero. -/
def isPositive : Value → Bool
  | .int n => decide (0 < n)
  | _ => false

/-- Check that a section has a positive number under a name. -/
def checkPositive (m : Mapping) (name : String) : Except Failure Unit :=
  let v := Value.field name m
  if isPositive v then .ok () else .error (.showing v (.config (.notPositive name v)))

/-- Check that a section chooses one of the vaults. -/
def checkVault (m : Mapping) : Except Failure Unit :=
  let vault := Value.field "vault" m
  if vaultKinds.any fun k => vault.equals (.text k) then .ok ()
  else .error (.showing vault (.config (.foreignVault vault)))

/-- The mapping that a configuration must be. -/
def topLevel (path : String) (v : Value) : Except Failure Mapping :=
  if v.isTruthy then
    match v with
    | .mapping m => .ok m
    | _ => .error (.config (.notMapping path))
  else .error (.config (.empty path))

/-- The project section of a configuration. -/
def projectSection (path : String) (m : Mapping) : Except Failure Mapping :=
  match Value.field? "gcp" m with
  | some (.mapping project) => .ok project
  | _ => .error (.config (.noProjectSection path))

/-- Check that a project section names the project. -/
def checkProject (project : Mapping) : Except Failure Unit :=
  match Value.field? "project_id" project with
  | some _ => .ok ()
  | none => .error (.config .noProjectId)

/-- A configuration with its two sections as they are after filling up. -/
def withSections (m provisioning logging : Mapping) : Mapping :=
  Value.insert (.text "logging") (.mapping logging)
    (Value.insert (.text "provisioning") (.mapping provisioning) m)

/-- The configuration that the value of a file makes. The first check that fails decides. -/
def ofValue (files : FileSystem) (path : String) (v : Value) : Except Failure Mapping := do
  let m ← topLevel path v
  let project ← projectSection path m
  checkProject project
  checkAuthentication files (Value.field? "authentication" m)
  let provisioning ← filled m "provisioning" provisioningDefaults
  checkPositive provisioning "max_workers"
  checkPositive provisioning "token_lifetime_seconds"
  checkVault provisioning
  let logging ← filled m "logging" loggingDefaults
  pure (withSections m provisioning logging)

/-! ## Use -/

/-- Read and check the configuration. -/
def load : Action Host Failure Mapping := do
  let path ← path
  let v ← read path
  let files ← .read Host.files
  let config ← .ofExcept (ofValue files path v)
  let project ← .ofExcept (projectSection path config)
  inSession (Session.info s!"Configuration loaded successfully from {path}")
  let id := Value.field "project_id" project
  let shown ← .ofExcept id.wording
  inSession (Session.debug s!"Using project ID: {shown}")
  pure config

/-- Make the key file of a configuration the one for default credentials. -/
def applyAuthentication (config : Value) : Action Host Failure Unit := do
  let m ← .ofExcept config.members
  match (Value.field "authentication" m).present? with
  | none => pure ()
  | some authentication =>
    match ← .ofExcept (authentication.item "service_account_path") with
    | .text file =>
      if file.toList.contains '\x00' then .fail (.value .nullByte)
      else
        inSession do
          Action.modify fun s => { s with environment := s.environment.set Remote.keyFileVariable file }
          Session.info s!"Set GOOGLE_APPLICATION_CREDENTIALS from config: {file}"
    | v => .fail (.mismatch (.notEnvironmentText v.kindName))

/-- The variable that names the project before the configuration does. -/
def projectVariable : String := "GCP_PROJECT"

/-- The project to work for: that of the environment, else that of a configuration; null if
neither names one. -/
def projectId (config : Option Value) : Action Host Failure Value := do
  let given ← .read fun h => h.session.environment.get? projectVariable
  match given.filter (· ≠ "") with
  | some project => do
    inSession (Session.debug s!"Using GCP_PROJECT from environment: {project}")
    pure (.text project)
  | none =>
    let config := (config.bind Value.present?).getD (.mapping [])
    if ← .ofExcept (config.holds (.text "gcp")) then
      let project ← .ofExcept (config.item "gcp")
      let m ← .ofExcept project.members
      pure (Value.field "project_id" m)
    else
      inSession (Session.error ("Project ID not found. Please set GCP_PROJECT environment " ++
        "variable or configure project_id in config file"))
      pure .null

end TransferBucket.Configuration
