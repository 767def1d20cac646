import TransferBucket.Host

/-!
# Terminals

Where a command runs: the host, and two streams of text. What a command prints goes to the output;
errors go to the other stream, in between the messages that the program logs, as far as these are
important enough to be shown.
-/

namespace TransferBucket.CommandLine

/-- A host with the texts printed so far. -/
structure Terminal where
  host : Host
  output : String := ""
  errors : String := ""
  /-- The lowest rank of the messages that are shown. -/
  threshold : Nat := Level.warning.rank

/-- How a command ends early. -/
inductive Ending where
  /-- With a status; what there was to say has been said. -/
  | exit (status : Nat)
  | failure (f : Failure)
  deriving DecidableEq

/-- A step of a command. -/
abbrev Shell (α : Type) := Action Terminal Ending α

/-- What a command leaves behind: its status and its two texts. -/
structure Report where
  status : Nat
  output : String := ""
  errors : String := ""
  deriving DecidableEq, Repr

namespace Shell

variable {α : Type}

/-- Print a line. -/
def say (line : String) : Shell Unit := .modify fun t => { t with output := t.output ++ line ++ "\n" }

/-- Print a line of the error stream. -/
def complain (line : String) : Shell Unit :=
  .modify fun t => { t with errors := t.errors ++ line ++ "\n" }

/-- End with a status. -/
def exit (status : Nat) : Shell α := .fail (.exit status)

/-- Print a line of the error stream and end with a status. -/
def exitWith (status : Nat) (line : String) : Shell α := do
  complain line
  exit status

/-- The lines of the messages that are shown from a rank on. -/
def shown (threshold : Nat) (log : List LogRecord) : String :=
  String.join ((log.filter fun r => decide (threshold ≤ r.level.rank)).map fun r => r.message ++ "\n")

/-- A step on the host; the messages that it logs are shown. -/
def onHost (x : Action Host Failure α) : Shell α := fun t =>
  let before := t.host.session.log
  match x { t.host with session := { t.host.session with log := [] } } with
  | (r, h) =>
    let news := h.session.log
    (r.mapError .failure, { t with
      host := { h with session := { h.session with log := before ++ news } }
      errors := t.errors ++ shown t.threshold news })

/-- A step in the session; the messages that it logs are shown. -/
def inSession (x : Action Session Failure α) : Shell α := onHost (Host.inSession x)

/-- A result, or the failure that ends the command. -/
def ofExcept (r : Except Failure α) : Shell α := Action.ofExcept (r.mapError Ending.failure)

end Shell

end TransferBucket.CommandLine
