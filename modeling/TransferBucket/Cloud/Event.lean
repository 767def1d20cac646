import TransferBucket.Cloud.Session

/-!
# Events

What happens to a session from outside, between the steps of the program: others put objects into
buckets, take accounts away and store secrets; variables change; calls to come will go wrong.
-/

namespace TransferBucket

/-- Something that happens to a session from outside. -/
inductive Event where
  /-- The next calls of a method go as planned, after those planned before. -/
  | plan (method : Method) (plans : List (Option Plan))
  /-- An object appears in a bucket. -/
  | putObject (bucket : Value) (object : String)
  /-- The accounts with an e-mail address are gone. -/
  | removeAccount (email : String)
  /-- The secret with a full name has these bytes from now on. -/
  | storeSecret (name : String) (bytes : List UInt8)
  /-- Tokens issued from now on end at an instant. -/
  | moveTokenEnd (ends : Instant)
  /-- A variable has a value from now on, or none. -/
  | setVariable (name : String) (value : Option String)
  deriving DecidableEq

namespace Event

/-- The session after an event. -/
def apply (s : Session) : Event → Session
  | .plan method plans => { s with schedule := s.schedule.append method plans }
  | .putObject bucket object => { s with cloud := s.cloud.putObject bucket object }
  | .removeAccount email => { s with cloud := s.cloud.dropEmail email }
  | .storeSecret name bytes => { s with cloud := s.cloud.setSecret name bytes }
  | .moveTokenEnd ends => { s with cloud := { s.cloud with tokenEnd := ends } }
  | .setVariable name (some value) => { s with environment := s.environment.set name value }
  | .setVariable name none => { s with environment := s.environment.unset name }

end Event

end TransferBucket
