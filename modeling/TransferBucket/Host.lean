import TransferBucket.FileSystem
import TransferBucket.Cloud.Session

/-!
# The host

The machine that the program runs on: a session with the remote services, and files. The
preferences lie below the home directory at the start of the program; the default configuration
file below the home directory of the moment.
-/

namespace TransferBucket

/-- A session together with files. -/
structure Host where
  session : Session
  files : FileSystem := {}
  /-- The home directory when the program started. -/
  home : String
  /-- The home directory of the account, which counts where the environment names none. -/
  accountHome : String := "/root"

namespace Host

variable {ε α : Type}

/-- An action of the session. -/
def inSession (x : Action Session ε α) : Action Host ε α :=
  .onPart Host.session (fun h s => { h with session := s }) x

/-- The directory of the program's own files below a home directory. -/
def settingsDirectory (home : String) : String :=
  Path.inside (Path.inside (Path.normalise home) ".config") "gcs-provision"

/-- The home directory of the moment. One that is written with a tilde is not known. -/
def currentHome (h : Host) : Except Failure String :=
  match h.session.environment.get? "HOME" with
  | some d => if d.toList.head? = some '~' then .error .noHome else .ok (Path.trimmed d)
  | none => .ok h.accountHome

/-- Refuse to go on if the home directory is not known. -/
def requireHome : Action Host Failure Unit := do
  let h ← .get
  let _ ← .ofExcept h.currentHome

/-- What is at the end of a path, if anything is. -/
def look (path : String) : Action Host Failure (Option Node) := do
  match ← .read fun h => h.files.look path with
  | .ok node? => pure node?
  | .error e => .fail (.file e)

/-- Whether something is at the end of a path. -/
def isThere (path : String) : Action Host Failure Bool := Option.isSome <$> look path

/-- Whether a file is at the end of a path. -/
def isFile (path : String) : Action Host Failure Bool := do
  match ← look path with
  | some (.file _) => pure true
  | _ => pure false

/-- The bytes of a file. -/
def readBytes (path : String) : Action Host Failure (List UInt8) := do
  match ← .read fun h => h.files.readBytes path with
  | .error e => .fail (.file e)
  | .ok bytes => pure bytes

/-- The text of a file, its line ends unified. -/
def readText (path : String) : Action Host Failure String := do
  match Utf8.decode (← readBytes path) with
  | .ok cs => pure (String.ofList (unifyLineEnds cs))
  | .error m => .fail (.value (.undecodable m))

/-- Write the text of a file. -/
def writeText (path : String) (text : List Char) : Action Host Failure Unit := do
  if path.toList.contains '\x00' then .fail (.value .nullByte)
  match ← .read fun h => h.files.writeBytes path (Utf8.encode text) with
  | .error e => .fail (.file e)
  | .ok files => .modify fun h => { h with files }

end Host

end TransferBucket
