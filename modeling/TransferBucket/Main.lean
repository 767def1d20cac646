import TransferBucket.CommandLine.Command

/-!
# The program

The command line program: it takes the variables and files that a command may look at from the
machine, runs the command, prints what it says and writes the files that it has changed. The
remote services are those of this library, a cloud without accounts and buckets at the start of
every command. The id of a definition is made from a random number: thirty-two digits to base
sixteen in five groups, of which two digits say that the others are random.
-/

namespace TransferBucket.Program

/-- The digits of an identifier made from a number: the thirteenth is a four, and the seventeenth
is eight to eleven. -/
def identifierDigits (n : Nat) : List Char :=
  let ds := hexPadded 32 (n % Nat.pow 2 128)
  let variant := Nat.digitChar (8 + n / Nat.pow 2 60 % 4)
  (ds.set 12 '4').set 16 variant

/-- The identifier made from a number. -/
def identifierText (n : Nat) : String :=
  let ds := identifierDigits n
  let group (start length : Nat) : String := String.ofList ((ds.drop start).take length)
  "-".intercalate [group 0 8, group 8 4, group 12 4, group 16 4, group 20 12]

/-- The bytes of a file of the machine, if it can be read. -/
def fileBytes? (path : String) : IO (Option (List UInt8)) := do
  try
    let bytes ← IO.FS.readBinFile path
    pure (some bytes.toList)
  catch _ => pure none

/-- The host with a file of the machine in its place, if it is there. -/
def withFile (h : Host) (path : String) : IO Host := do
  match ← fileBytes? path with
  | none => pure h
  | some bytes =>
    let parts := Path.resolve h.files.directory path
    let files := (h.files.ensureDirectory parts.dropLast).put parts (.file bytes)
    pure { h with files }

/-- The variables that a command may look at: its own ones, and one for each argument that may be
the key of a secret. -/
def environmentFor (args : List String) : IO Environment := do
  let names := "HOME" :: Configuration.projectVariable :: Remote.keyFileVariable :: args
  let found ← names.mapM fun name => do
    let value ← IO.getEnv name
    pure (value.map fun v => (name, v))
  pure (found.filterMap id)

/-- The host as a command finds it. -/
def startingHost (args : List String) : IO Host := do
  let environment ← environmentFor args
  let directory ← IO.currentDir
  let parts := Path.resolve [] directory.toString
  let h : Host := {
    session := { environment, vault := { kind := .environment } }
    files := ({ directory := parts } : FileSystem).ensureDirectory parts
    home := "" }
  let h := { h with home := h.currentHome.toOption.getD h.accountHome }
  let h ← withFile h (Preferences.path h)
  let h ← match (Configuration.defaultPath h).1 with
    | .ok path => withFile h path
    | .error _ => pure h
  let h ← match (Configuration.preferredPath h).1 with
    | .ok (some path) => withFile h path
    | _ => pure h
  args.foldlM withFile h

/-- Write the files that differ between two hosts. -/
def writeChanges (before after : Host) : IO Unit := do
  for (parts, node) in after.files.nodes do
    if before.files.node? parts ≠ some node then
      match node with
      | .directory => pure ()
      | .file bytes =>
        IO.FS.createDirAll (Path.absolute parts.dropLast)
        IO.FS.writeBinFile (Path.absolute parts) ⟨bytes.toArray⟩

/-- Run a command on the machine and give its status. -/
def run (args : List String) : IO UInt32 := do
  let start ← startingHost args
  let n ← IO.rand 0 (Nat.pow 2 122)
  match CommandLine.run (identifierText n) args start with
  | (report, h) => do
    writeChanges start h
    IO.print report.output
    IO.eprint report.errors
    pure (UInt32.ofNat report.status)

end TransferBucket.Program

/-- Run a command. -/
def main (args : List String) : IO UInt32 := TransferBucket.Program.run args
