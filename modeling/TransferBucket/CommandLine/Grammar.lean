/-!
# Grammars of command lines

What a command line may hold: flags, each with one or two names, and at most one operand. The
operand of a grammar may be the name of a command with a grammar of its own for what follows it.
-/

namespace TransferBucket.CommandLine

/-- What a flag does. -/
inductive Effect where
  /-- It asks how the program is used. -/
  | help
  /-- It counts how often it is given. -/
  | count
  /-- It takes a text. -/
  | take
  deriving DecidableEq, Repr

/-- A flag. -/
structure Flag where
  names : List String
  effect : Effect
  required : Bool := false
  /-- The labels of the flags that it excludes. -/
  rivals : List String := []
  deriving DecidableEq, Repr

/-- All names of a flag, as messages show them. -/
def Flag.label (f : Flag) : String := "/".intercalate f.names

/-- What a grammar allows besides flags. -/
inductive Operand where
  | none
  /-- A text, which must be given. -/
  | text (name : String)
  /-- One of certain commands, and all that follows it. -/
  | command (name : String) (choices : List String)
  deriving DecidableEq, Repr

/-- A grammar, with the name of the program or command that it belongs to. -/
structure Grammar where
  program : String
  flags : List Flag
  operand : Operand := .none
  deriving DecidableEq, Repr

namespace Grammar

/-- The names of all flags, in order, each with its flag. -/
def names (g : Grammar) : List (String × Flag) :=
  g.flags.flatMap fun f => f.names.map fun n => (n, f)

/-- The flag with a name. -/
def flag? (g : Grammar) (name : String) : Option Flag := g.names.lookup name

/-- How a flag is shown to those who ask how the program is used. -/
def showFlag (f : Flag) : String :=
  let name := f.names.headD "" ++ (if f.effect = .take then " TEXT" else "")
  if f.required then name else "[" ++ name ++ "]"

/-- How the operand is shown to those who ask how the program is used. -/
def showOperand : Operand → List String
  | .none => []
  | .text name => [name]
  | .command _ choices => ["\x7b" ++ ",".intercalate choices ++ "\x7d ..."]

/-- How the program is used. -/
def usage (g : Grammar) : String :=
  "usage: " ++ " ".intercalate (g.program :: (g.flags.map showFlag ++ showOperand g.operand)) ++
    "\n"

end Grammar

/-! ## The grammars of this program -/

/-- The flag that every grammar has. -/
def helpFlag : Flag := { names := ["-h", "--help"], effect := .help }

/-- The flag that asks for more messages. -/
def verboseFlag : Flag := { names := ["-v", "--verbose"], effect := .count }

/-- The name of the program. -/
def programName : String := "gcsprovision"

/-- The grammar of the whole command line. -/
def mainGrammar : Grammar where
  program := programName
  flags := [helpFlag, verboseFlag]
  operand := .command "command" ["version", "config", "provision", "deprovision"]

/-- The grammar of `version`. -/
def versionGrammar : Grammar where
  program := programName ++ " version"
  flags := [helpFlag]

/-- The grammar of `config`. -/
def configGrammar : Grammar where
  program := programName ++ " config"
  flags := [helpFlag]
  operand := .command "config_command" ["set-path", "show", "clear"]

/-- The grammar of `config set-path`. -/
def setPathGrammar : Grammar where
  program := programName ++ " config set-path"
  flags := [helpFlag]
  operand := .text "path"

/-- The grammar of `config show`. -/
def showGrammar : Grammar where
  program := programName ++ " config show"
  flags := [helpFlag]

/-- The grammar of `config clear`. -/
def clearGrammar : Grammar where
  program := programName ++ " config clear"
  flags := [helpFlag]

/-- The grammar of `provision`. -/
def provisionGrammar : Grammar where
  program := programName ++ " provision"
  flags := [helpFlag,
    { names := ["--transfer-process-id"], effect := .take, required := true },
    { names := ["--bucket-name"], effect := .take },
    { names := ["--location"], effect := .take },
    { names := ["--storage-class"], effect := .take },
    { names := ["--project-id"], effect := .take },
    { names := ["--service-account-key-name"], effect := .take,
      rivals := ["--access-token-key-name"] },
    { names := ["--access-token-key-name"], effect := .take,
      rivals := ["--service-account-key-name"] },
    { names := ["--output"], effect := .take }]

/-- The grammar of `deprovision`. -/
def deprovisionGrammar : Grammar where
  program := programName ++ " deprovision"
  flags := [helpFlag, { names := ["--resource-file"], effect := .take, required := true }]

end TransferBucket.CommandLine
