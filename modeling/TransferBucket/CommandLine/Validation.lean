import TransferBucket.Value.Access

/-!
# Names given on the command line

The names of buckets and transfer processes that the command line takes. Their patterns allow one
line feed at the very end. A name that is refused is refused with an explanation of several lines.
A value that is no text is no name, and not looked at; but as the id of a transfer process one that
counts as empty is refused like the empty text.
-/

namespace TransferBucket.Validation

/-- A text without one line feed at its end. -/
def withoutLineEnd (cs : List Char) : List Char :=
  if cs.getLast? = some '\n' then cs.dropLast else cs

/-- Whether a character is a small letter or a digit. -/
def isPlain (c : Char) : Bool := ('a' ≤ c && c ≤ 'z') || ('0' ≤ c && c ≤ '9')

/-- Whether a character may stand inside the name of a bucket. -/
def isInner (c : Char) : Bool := isPlain c || c == '.' || c == '_' || c == '-'

/-- Whether a text has the form of a bucket's name: three to sixty-three characters, the first and
the last of them letters or digits. -/
def hasBucketForm (cs : List Char) : Bool :=
  3 ≤ cs.length && cs.length ≤ 63 && cs.all isInner && (cs.head?.elim false isPlain) &&
    (cs.getLast?.elim false isPlain)

/-- Whether a name can be that of a bucket. -/
def acceptsBucketName (name : String) : Bool :=
  let cs := name.toList
  hasBucketForm (withoutLineEnd cs) && !occursIn ['.', '.'] cs && !"goog".toList.isPrefixOf cs

/-- Whether a character may stand in the id of a transfer process. -/
def isProcessChar (c : Char) : Bool :=
  isPlain c || ('A' ≤ c && c ≤ 'Z') || c == '_' || c == '-'

/-- Whether a text can be the id of a transfer process. -/
def acceptsProcessId (id : String) : Bool :=
  let cs := withoutLineEnd id.toList
  !cs.isEmpty && cs.all isProcessChar

/-- The explanation of a refused name of a bucket. -/
def bucketNameRefusal (name : String) : String :=
  s!"Error: Invalid bucket name '{name}'\n" ++
  "\nBucket names must be 3-63 characters of lowercase letters, digits,\n" ++
  "dashes (-), underscores (_) and dots (.), start and end with a letter or digit,\n" ++
  "and must not begin with 'goog'.\n" ++
  "\nExamples of valid names:\n" ++
  "  ✓ transfer-output\n" ++
  "  ✓ my_bucket.2024\n" ++
  "\nExamples of invalid names:\n" ++
  "  ✗ MyBucket (uppercase)\n" ++
  "  ✗ -bucket (starts with dash)\n"

/-- The explanation of a refused id of a transfer process. -/
def processIdRefusal (id : String) : String :=
  s!"Error: Invalid transfer process id '{id}'\n" ++
  "\nAllowed characters: letters, numbers, underscores (_), hyphens (-)\n"

/-- The explanation with which a value is refused as the name of a bucket; none if it is accepted. -/
def bucketNameRefusal? : Value → Except Failure (Option String)
  | .text s => .ok (if acceptsBucketName s then none else some (bucketNameRefusal s))
  | v => .error (.mismatch (.notText v.kindName))

/-- The explanation with which a value is refused as the id of a transfer process; none if it is
accepted. -/
def processIdRefusal? : Value → Except Failure (Option String)
  | .text s => .ok (if acceptsProcessId s then none else some (processIdRefusal s))
  | v =>
    if v.isTruthy then .error (.mismatch (.notText v.kindName))
    else .ok (some (processIdRefusal v.display))

end TransferBucket.Validation
