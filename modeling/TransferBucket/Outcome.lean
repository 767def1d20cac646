import TransferBucket.Record
import TransferBucket.Token

/-!
# Outcomes

What provisioning and giving up answer: success with a content, or a failure with messages.
-/

namespace TransferBucket

/-- How a request went. -/
inductive Status where
  | ok
  | fatalError
  | errorRetry
  deriving DecidableEq, Repr

namespace Status

/-- All statuses. -/
def all : List Status := [.ok, .fatalError, .errorRetry]

/-- The name of a status. -/
def name : Status → String
  | .ok => "OK"
  | .fatalError => "FATAL_ERROR"
  | .errorRetry => "ERROR_RETRY"

/-- The word that stands for a status in documents. -/
def word : Status → String
  | .ok => "ok"
  | .fatalError => "fatal_error"
  | .errorRetry => "error_retry"

/-- The status with a name. -/
def ofName? (n : String) : Option Status := all.find? fun s => s.name == n

end Status

/-- A status with its content or its failure messages. -/
structure Outcome (α : Type) where
  status : Status
  content : Option α := none
  messages : List Value := []
  deriving DecidableEq

namespace Outcome

variable {α : Type}

/-- Success with a content. -/
def success (content : α) : Outcome α := ⟨.ok, some content, []⟩

/-- Failure with messages. -/
def failure (status : Status) (messages : List Value) : Outcome α := ⟨status, none, messages⟩

/-- Whether a request went well. -/
def succeeded (o : Outcome α) : Bool := decide (o.status = .ok)

/-- Whether a request failed. -/
def failed (o : Outcome α) : Bool := !o.succeeded

/-- All messages in one text; each must be a text. -/
def detail (o : Outcome α) : Except Failure String :=
  let rec texts : Nat → List Value → Except Failure (List String)
    | _, [] => .ok []
    | i, .text s :: rest => (texts (i + 1) rest).map (s :: ·)
    | i, v :: _ => .error (.mismatch (.notJoinable i v.fullKindName))
  (texts 0 o.messages).map fun ts => ", ".intercalate ts

end Outcome

/-- What provisioning answers: the record and a token. -/
structure Provisioned where
  resource : Resource
  token : AccessToken
  deriving DecidableEq

/-- What giving up answers: the id of the record. -/
structure Deprovisioned where
  resourceId : Value
  deriving DecidableEq

end TransferBucket
