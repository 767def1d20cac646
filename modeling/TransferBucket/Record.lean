import TransferBucket.Address

/-!
# Definitions and resources

A definition asks for a bucket for one transfer process. A resource is the record of what was
made for it: the bucket and the account bound to it. Both are read from the fields of a document,
which must be exactly the fields of the record.
-/

namespace TransferBucket

/-! ## Fields of a record -/

/-- The text keys of a mapping, if all keys are texts. -/
def textKeys? : Mapping → Option (List String)
  | [] => some []
  | (.text k, _) :: rest => (textKeys? rest).map (k :: ·)
  | _ :: _ => none

/-- Check that a mapping has the fields of a record: only texts as names, no other field, and all
required ones. The checks come in this order. -/
def checkFields (record : String) (required optional : List String) (m : Mapping) :
    Except Failure Unit :=
  match textKeys? m with
  | none => .error (.mismatch .fieldNames)
  | some names =>
    match names.find? fun n => !(required.contains n || optional.contains n) with
    | some n => .error (.mismatch (.unexpectedField record n))
    | none =>
      match required.filter fun n => !names.contains n with
      | [] => .ok ()
      | missing => .error (.mismatch (.missingFields record missing))

/-! ## Definitions -/

/-- A request for a bucket for one transfer process. -/
structure Definition where
  id : Value
  transferProcess : Value
  location : Value
  project : Value
  storageClass : Value := .null
  bucketName : Value := .null
  address : Address := {}
  deriving DecidableEq, Inhabited

namespace Definition

/-- The name of the bucket: the one asked for, else the id. -/
def targetBucket (d : Definition) : Value := d.bucketName.orElse d.id

/-- The fields that a definition must have. -/
def required : List String := ["id", "transfer_process_id", "location", "project_id"]

/-- The fields that a definition may have. -/
def optional : List String := ["storage_class", "bucket_name", "data_address"]

/-- The definition with the given fields. The address is read first. -/
def ofFields (m : Mapping) : Except Failure Definition :=
  let address? : Except Failure Address := match Value.field? "data_address" m with
    | some v => Address.ofValue v
    | none => .ok {}
  match address? with
  | .error e => .error e
  | .ok address =>
    match checkFields "ResourceDefinition" required optional m with
    | .error e => .error e
    | .ok () =>
      .ok {
        id := Value.field "id" m
        transferProcess := Value.field "transfer_process_id" m
        location := Value.field "location" m
        project := Value.field "project_id" m
        storageClass := Value.field "storage_class" m
        bucketName := Value.field "bucket_name" m
        address }

/-- The definition that a document value gives. -/
def ofValue (v : Value) : Except Failure Definition :=
  match v with
  | .mapping m => ofFields m
  | v => .error (.mismatch (.notFields "ResourceDefinition" v.fullKindName))

/-- Whether a destination asks for a bucket. -/
def canServe (destination : Address) : Bool :=
  Value.equals destination.type (.text Property.storageType)

/-- The definition of the bucket that the destination of a transfer needs. The bucket has the
name that the destination gives, or none of its own. -/
def forTransfer (id : String) (transferProcess : Value) (destination : Address)
    (project location storageClass : Value) : Except Failure Definition :=
  if canServe destination then
    .ok {
      id := .text id
      transferProcess, location, project, storageClass
      bucketName := (destination.property Property.bucketName).orElse .null
      address := destination }
  else .error (.provision (.foreignDestination destination.type))

end Definition

/-! ## Resources -/

/-- The record of a bucket and the account bound to it. -/
structure Resource where
  id : Value
  definitionId : Value
  transferProcess : Value
  location : Value
  project : Value
  bucketName : Value
  accountEmail : Value
  accountName : Value
  resourceName : Value
  storageClass : Value := .null
  hasToken : Value := .bool false
  address : Address := {}
  deriving DecidableEq, Inhabited

namespace Resource

/-- The fields that a record must have. -/
def required : List String := [
  "id", "resource_definition_id", "transfer_process_id", "location", "project_id", "bucket_name",
  "service_account_email", "service_account_name", "resource_name"]

/-- The fields that a record may have. -/
def optional : List String := ["storage_class", "has_token", "data_address"]

/-- A record as a document value; key material of its address is left out. -/
def toValue (r : Resource) : Value :=
  .record [
    ("id", r.id),
    ("resource_definition_id", r.definitionId),
    ("transfer_process_id", r.transferProcess),
    ("location", r.location),
    ("project_id", r.project),
    ("bucket_name", r.bucketName),
    ("service_account_email", r.accountEmail),
    ("service_account_name", r.accountName),
    ("resource_name", r.resourceName),
    ("storage_class", r.storageClass),
    ("has_token", r.hasToken),
    ("data_address", r.address.withoutInlineSecrets.toValue)]

/-- The record that a document value gives. The address is read before the fields are checked. -/
def ofValue (v : Value) : Except Failure Resource :=
  match v.toMapping with
  | .error e => .error e
  | .ok m =>
    match Address.ofValue ((Value.field "data_address" m).orElse (.mapping [])) with
    | .error e => .error e
    | .ok address =>
      match checkFields "ProvisionedResource" required optional m with
      | .error e => .error e
      | .ok () =>
        .ok {
          id := Value.field "id" m
          definitionId := Value.field "resource_definition_id" m
          transferProcess := Value.field "transfer_process_id" m
          location := Value.field "location" m
          project := Value.field "project_id" m
          bucketName := Value.field "bucket_name" m
          accountEmail := Value.field "service_account_email" m
          accountName := Value.field "service_account_name" m
          resourceName := Value.field "resource_name" m
          storageClass := Value.field "storage_class" m
          hasToken := (Value.field? "has_token" m).getD (.bool false)
          address }

/-- Whether two records mean the same. -/
def equals (r s : Resource) : Bool :=
  let fields (r : Resource) : Value := .list [
    r.id, r.definitionId, r.transferProcess, r.location, r.project, r.bucketName, r.accountEmail,
    r.accountName, r.resourceName, r.storageClass, r.hasToken, r.address.toValue]
  Value.equals (fields r) (fields s)

end Resource

end TransferBucket
