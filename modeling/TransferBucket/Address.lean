import TransferBucket.Value.Access

/-!
# Data addresses

A data address says where data lies and how to reach it: a type, the key of a secret, and
properties. Two of the properties may hold key material itself; an address is stored without them.
-/

namespace TransferBucket

/-! ## Property names -/

namespace Property

/-- The type of an address of a bucket. -/
def storageType : String := "GoogleCloudStorage"

/-- The name of the bucket. -/
def bucketName : String := "bucket_name"

/-- The vault key of a key file. -/
def keyFileKey : String := "service_account_key_name"

/-- A key file, encoded. -/
def keyFileValue : String := "service_account_value"

/-- The vault key of an access token. -/
def tokenKey : String := "access_token_key_name"

/-- An access token, encoded. -/
def tokenValue : String := "access_token_value"

/-- The properties that hold key material. -/
def inlineSecrets : List String := [keyFileValue, tokenValue]

/-- Whether a property holds key material. -/
def isInlineSecret (key : Value) : Bool :=
  inlineSecrets.any fun name => Value.sameKey key (.text name)

end Property

/-! ## Addresses -/

/-- Where data lies and how to reach it. -/
structure Address where
  type : Value := .text Property.storageType
  keyName : Value := .null
  properties : Mapping := []
  deriving DecidableEq, Inhabited

namespace Address

/-- A property, null where it is not set. -/
def property (a : Address) (name : String) : Value := Value.field name a.properties

/-- The address without the properties that hold key material. -/
def withoutInlineSecrets (a : Address) : Address :=
  { a with properties := a.properties.filter fun e => !Property.isInlineSecret e.1 }

/-- An address as a document value. -/
def toValue (a : Address) : Value :=
  .record [("type", a.type), ("key_name", a.keyName), ("properties", .mapping a.properties)]

/-- The address that a document value gives; what it leaves out has its default. -/
def ofValue (v : Value) : Except Failure Address :=
  match v.members with
  | .error e => .error e
  | .ok m =>
    match ((Value.field "properties" m).orElse (.mapping [])).toMapping with
    | .error e => .error e
    | .ok properties =>
      .ok {
        type := (Value.field? "type" m).getD (.text Property.storageType)
        keyName := Value.field "key_name" m
        properties }

end Address

end TransferBucket
