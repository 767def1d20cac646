import TransferBucket.Provision
import TransferBucket.Cloud.Event

/-!
# Operations

A session as a sequence of operations: provisioning, giving up, and what happens from outside in
between. Every operation starts in the state in which the one before it ended, however that was.
-/

namespace TransferBucket

/-- Something done in a session, or to it. -/
inductive Operation where
  | provision (d : Definition)
  | deprovision (r : Resource)
  | event (e : Event)
  deriving DecidableEq

/-- How an operation ended. -/
inductive OperationResult where
  | provisioned (r : Except Failure (Outcome Provisioned))
  | deprovisioned (r : Except Failure (Outcome Deprovisioned))
  | happened

namespace Operation

/-- The result of an operation, and the session after it. Tokens are issued for `lifetime`. -/
def perform (lifetime : Value) (s : Session) : Operation → OperationResult × Session
  | .provision d =>
    match TransferBucket.provision lifetime d s with
    | (r, t) => (.provisioned r, t)
  | .deprovision r =>
    match TransferBucket.deprovision r s with
    | (result, t) => (.deprovisioned result, t)
  | .event e => (.happened, e.apply s)

/-- The results of operations one after the other, and the session after them. -/
def performAll (lifetime : Value) (s : Session) : List Operation → List OperationResult × Session
  | [] => ([], s)
  | o :: rest =>
    match perform lifetime s o with
    | (r, t) => match performAll lifetime t rest with
      | (rs, u) => (r :: rs, u)

/-- The session after operations. -/
def runAll (lifetime : Value) (s : Session) (os : List Operation) : Session :=
  (performAll lifetime s os).2

@[simp]
theorem runAll_nil (lifetime : Value) (s : Session) : runAll lifetime s [] = s := rfl

@[simp]
theorem runAll_cons (lifetime : Value) (s : Session) (o : Operation) (os : List Operation) :
    runAll lifetime s (o :: os) = runAll lifetime (perform lifetime s o).2 os := rfl

end Operation

end TransferBucket
