import TransferBucket.Value.Display

/-!
# Faults of remote calls

What a remote call may be answered with instead of a result. Three families are told apart:
errors that the service reports for the call, errors of the credentials that were to be sent with
it, and everything else. The first two are *recognised*: the steps of the program turn them into
errors of their own. The third passes through every step as it is.
-/

namespace TransferBucket

/-- An error that a service reports for a call. -/
inductive CallError where
  | badRequest
  | unauthenticated
  | forbidden
  | permissionDenied
  | notFound
  | conflict
  | alreadyExists
  | preconditionFailed
  | tooManyRequests
  | cancelled
  | internalServerError
  | serviceUnavailable
  | deadlineExceeded
  | unspecified
  | unknown
  deriving DecidableEq, Repr

/-- The status code of an error, where it has one. -/
def CallError.code? : CallError → Option Nat
  | .badRequest => some 400
  | .unauthenticated => some 401
  | .forbidden => some 403
  | .permissionDenied => some 403
  | .notFound => some 404
  | .conflict => some 409
  | .alreadyExists => some 409
  | .preconditionFailed => some 412
  | .tooManyRequests => some 429
  | .cancelled => some 499
  | .internalServerError => some 500
  | .serviceUnavailable => some 503
  | .deadlineExceeded => some 504
  | .unspecified => none
  | .unknown => none

/-- An error of credentials. Malformed ones are a special case of missing default ones. -/
inductive AuthError where
  | general
  | refresh
  | transport
  | defaultCredentials
  | malformed
  deriving DecidableEq, Repr

/-- An error of neither family. -/
inductive ForeignError where
  | api
  | retry
  | runtime
  | value
  | type
  | key
  | system
  | attribute
  | interrupt
  deriving DecidableEq, Repr

/-- The kind of a fault. -/
inductive FaultKind where
  | call (e : CallError)
  | auth (e : AuthError)
  | foreign (e : ForeignError)
  deriving DecidableEq, Repr

/-- A fault: its kind and what is said with it. -/
structure Fault where
  kind : FaultKind
  message : String
  deriving DecidableEq, Repr

namespace Fault

/-- The text of a fault in a message. Errors of calls start with their code; a missing key is
quoted. -/
def text (f : Fault) : String :=
  match f.kind with
  | .call e =>
    (match e.code? with
      | some n => toString n
      | none => "None") ++ " " ++ f.message
  | .auth _ => f.message
  | .foreign .retry => f.message ++ ", last exception: None"
  | .foreign .key => Value.quoted f.message
  | .foreign _ => f.message

/-- Whether the steps of the program turn a fault into an error of their own. -/
def isRecognised (f : Fault) : Bool :=
  match f.kind with
  | .call _ => true
  | .auth _ => true
  | .foreign _ => false

/-- Whether the thing asked for is not there. -/
def isNotFound (f : Fault) : Bool := decide (f.kind = .call .notFound)

/-- Whether the thing to create is there already, as services of accounts say it. -/
def isAlreadyExists (f : Fault) : Bool := decide (f.kind = .call .alreadyExists)

/-- Whether the thing to create is there already, in any wording. -/
def isConflict (f : Fault) : Bool :=
  decide (f.kind = .call .conflict) || decide (f.kind = .call .alreadyExists)

/-- Whether there are no default credentials. -/
def isDefaultCredentials (f : Fault) : Bool :=
  decide (f.kind = .auth .defaultCredentials) || decide (f.kind = .auth .malformed)

/-- Whether a key file is refused: by the credentials, or as a value of the wrong form. -/
def isKeyFileRefusal (f : Fault) : Bool :=
  match f.kind with
  | .auth _ => true
  | .foreign .value => true
  | .foreign .type => true
  | _ => false

end Fault

end TransferBucket
