import TransferBucket.Failure

/-!
# Access tokens

A token with the instant at which it ends, in milliseconds since 1970, and its text: a JSON object
with both. The instant is read from anything that a whole number can be made of.
-/

namespace TransferBucket

/-- A token and its end in milliseconds since 1970. -/
structure AccessToken where
  secret : String
  expiration : Int
  deriving DecidableEq, Inhabited

/-- Why a text gives no token. -/
inductive TokenProblem where
  /-- It is not written as one. -/
  | format
  /-- Its end is beyond all numbers. -/
  | infinite
  deriving DecidableEq, Repr

/-- The failure that a problem is. -/
def TokenProblem.failure : TokenProblem → Failure
  | .format => .credential .tokenFormat
  | .infinite => .range .infinity

/-- The whole number that a value makes: numbers lose their fraction, texts are read. -/
def Value.toWhole (v : Value) : Except TokenProblem Int :=
  match v with
  | .bool b => .ok (if b then 1 else 0)
  | .int n => .ok n
  | .float (.infinite _) => .error .infinite
  | .float x => match x.truncate? with
    | some n => .ok n
    | none => .error .format
  | .text s => (wholeNumber s.toList).mapError fun _ => .format
  | _ => .error .format

namespace AccessToken

/-- The token that a JSON value gives. -/
def ofValue (v : Value) : Except TokenProblem AccessToken :=
  match v with
  | .mapping m =>
    match Value.field? "token" m, Value.field? "expiration" m with
    | some token, some expiration =>
      match expiration.toWhole with
      | .error e => .error e
      | .ok n =>
        match token with
        | .text s => if s = "" then .error .format else .ok ⟨s, n⟩
        | _ => .error .format
    | _, _ => .error .format
  | _ => .error .format

/-- The token that a text gives. -/
def ofText (s : String) : Except TokenProblem AccessToken :=
  match Json.decode s.toList with
  | .error _ => .error .format
  | .ok v => ofValue v

/-- A token as a JSON value. -/
def toValue (t : AccessToken) : Value :=
  .record [("token", .text t.secret), ("expiration", .int t.expiration)]

/-- The text of a token. -/
def toText (t : AccessToken) : String := Json.writeLine t.toValue

/-- A token in a message: its secret is not shown. -/
def display (t : AccessToken) : String := s!"GcpAccessToken(expiration={t.expiration})"

/-- The instant at which a token ends, if it can be written. The milliseconds are divided into
seconds; the seconds' fraction is taken to microseconds, a half going to the even one. -/
def expiry? (t : AccessToken) : Option Instant :=
  let seconds := Binary64.ofQuotient t.expiration 1000
  match seconds.truncate?, (seconds.fraction.mul (Binary64.ofInt 1000000)).round? with
  | some whole, some micros =>
    let i : Instant := ⟨whole * 1000000 + micros⟩
    if i.isWritable then some i else none
  | _, _ => none

/-- The milliseconds that a token issued to end at an instant carries: the instant in seconds, a
thousand times, without the fraction. -/
def expirationAt (i : Instant) : Int :=
  let seconds := Binary64.ofQuotient i.microseconds 1000000
  ((seconds.mul (Binary64.ofInt 1000)).truncate?).getD 0

end AccessToken

end TransferBucket
