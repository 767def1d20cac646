import TransferBucket.Number.Literal
import TransferBucket.Text.Base64
import TransferBucket.Text.Case
import TransferBucket.Yaml.Cursor

/-!
# The meaning of scalars

A scalar is a text with a tag, and the tag says which kind of value the text names. A plain scalar
has no tag of its own: its form decides. The forms are those of YAML 1.1, where `yes` and `off`
are truth values, `010` is octal, `1:30` counts in sixties, and a number with an exponent needs a
point and a sign.
-/

namespace TransferBucket.Yaml

/-- Kinds of nodes. -/
inductive Tag where
  | null
  | bool
  | int
  | float
  | timestamp
  | text
  /-- Bytes written with sixty-four letters. -/
  | binary
  | sequence
  | mapping
  /-- A list of mappings with one entry each, read as pairs. -/
  | pairs
  /-- A mapping whose keys alone matter. -/
  | set
  /-- The key whose value is merged into the mapping around it. -/
  | merge
  /-- The lone `=`, which names no value: as a key it is a text, elsewhere it cannot be read. -/
  | value
  /-- A kind that is not read. -/
  | foreign
  deriving DecidableEq, Repr

/-- The kind that a full name of a tag stands for. -/
def Tag.ofName (name : String) : Tag :=
  let kinds : List (String × Tag) := [("null", .null), ("bool", .bool), ("int", .int),
    ("float", .float), ("timestamp", .timestamp), ("str", .text), ("seq", .sequence),
    ("map", .mapping), ("omap", .pairs), ("pairs", .pairs), ("set", .set), ("merge", .merge),
    ("value", .value), ("binary", .binary)]
  match kinds.find? fun k => "tag:yaml.org,2002:" ++ k.1 = name with
  | some k => k.2
  | none => .foreign

/-! ## Forms of numbers -/

/-- Whether a character is a digit or an underscore between digits. -/
def isSpacedDigit (c : Char) : Bool := c.isDigit || c == '_'

/-- Whether a character of a set follows its first one only by others of the set. -/
def isAll (p : Char → Bool) (cs : List Char) : Bool := !cs.isEmpty && cs.all p

/-- The pieces of a text between colons. -/
def colonParts (cs : List Char) : List (List Char) :=
  cs.foldr (fun c parts =>
    if c = ':' then [] :: parts
    else match parts with
      | p :: rest => (c :: p) :: rest
      | [] => [[c]]) [[]]

/-- Whether a text is one or two digits below sixty. -/
def isSixtieth : List Char → Bool
  | [a] => a.isDigit
  | [a, b] => '0' ≤ a && a ≤ '5' && b.isDigit
  | _ => false

/-- Whether a text starts with a digit, which only digits and underscores follow. -/
def isSpacedNumber (cs : List Char) : Bool :=
  cs.all isSpacedDigit && (cs.head?.elim false Char.isDigit)

/-- Whether a text has the form of a whole number, a sign aside. -/
def isWhole : List Char → Bool
  | ['0'] => true
  | '0' :: 'b' :: rest => isAll (fun c => c == '0' || c == '1' || c == '_') rest
  | '0' :: 'x' :: rest => isAll (fun c => (Literal.hexDigit? c).isSome || c == '_') rest
  | '0' :: rest => isAll (fun c => (Literal.digitBelow? 8 c).isSome || c == '_') rest
  | cs =>
    match colonParts cs with
    | first :: sixtieths => isSpacedNumber first && sixtieths.all isSixtieth
    | [] => false

/-- Whether a text is empty or an exponent with its sign. -/
def isExponent : List Char → Bool
  | [] => true
  | e :: sign :: rest => (e == 'e' || e == 'E') && (sign == '+' || sign == '-') &&
      isAll Char.isDigit rest
  | _ => false

/-- Whether a text is a fraction: a point, digits, perhaps an exponent. -/
def isFraction : List Char → Bool
  | '.' :: rest => isExponent (rest.dropWhile isSpacedDigit)
  | _ => false

/-- Whether a text has the form of a decimal number, a sign aside. -/
def isDecimal (cs : List Char) : Bool :=
  let whole := cs.takeWhile isSpacedDigit
  let inSixties : Bool := match colonParts (cs.takeWhile (· != '.')) with
    | first :: second :: rest => isSpacedNumber first && (second :: rest).all isSixtieth &&
        (match cs.dropWhile (· != '.') with
          | _ :: digits => digits.all isSpacedDigit
          | [] => false)
    | _ => false
  (isSpacedNumber whole && isFraction (cs.drop whole.length)) || inSixties

/-- Whether a text has the form of a floating-point number. -/
def isFloat (cs : List Char) : Bool :=
  let (_, unsigned) := Literal.sign cs
  isDecimal unsigned ||
    (match cs with
      | '.' :: c :: _ => c.isDigit && isFraction cs
      | _ => false) ||
    [".inf", ".Inf", ".INF"].contains (String.ofList unsigned) ||
    [".nan", ".NaN", ".NAN"].contains (String.ofList cs)

/-! ## Dates -/

/-- A number of one or two digits, with what follows. -/
def oneOrTwoDigits : List Char → Option (Nat × List Char)
  | a :: b :: rest =>
    if a.isDigit then
      if b.isDigit then some (a.toNat * 10 + b.toNat - 528, rest) else some (a.toNat - 48, b :: rest)
    else none
  | [a] => if a.isDigit then some (a.toNat - 48, []) else none
  | [] => none

/-- A number of two digits, with what follows. -/
def twoDigits : List Char → Option (Nat × List Char)
  | a :: b :: rest =>
    if a.isDigit && b.isDigit then some (a.toNat * 10 + b.toNat - 528, rest) else none
  | _ => none

/-- What follows a character. -/
def after? (c : Char) : List Char → Option (List Char)
  | d :: rest => if d = c then some rest else none
  | [] => none

/-- Year, month and day, with what follows. -/
def dayNumbers (cs : List Char) : Option ((Nat × Nat × Nat) × List Char) := do
  let (century, cs) ← twoDigits cs
  let (year, cs) ← twoDigits cs
  let cs ← after? '-' cs
  let (month, cs) ← oneOrTwoDigits cs
  let cs ← after? '-' cs
  let (day, cs) ← oneOrTwoDigits cs
  pure ((century * 100 + year, month, day), cs)

/-- The distance from universal time in minutes, if a text names one; or nothing at all. -/
def zoneOffset (cs : List Char) : Option (Option Int) :=
  match cs with
  | [] => some none
  | _ =>
    match cs.dropWhile isInlineBlank with
    | ['Z'] => some (some 0)
    | sign :: rest => do
      guard (sign = '+' ∨ sign = '-')
      let (hours, rest) ← oneOrTwoDigits rest
      let minutes ← match rest with
        | [] => some 0
        | _ => do
          let rest ← after? ':' rest
          let (minutes, rest) ← twoDigits rest
          guard rest.isEmpty
          pure minutes
      let distance : Int := hours * 60 + minutes
      pure (some (if sign = '-' then -distance else distance))
    | [] => none

/-- The time of day behind a date: hour, minute, second, microsecond and zone. -/
def clockNumbers (cs : List Char) : Option (Nat × Nat × Nat × Nat × Option Int) := do
  let cs ← match cs with
    | 'T' :: rest => some rest
    | 't' :: rest => some rest
    | c :: rest => if isInlineBlank c then some (rest.dropWhile isInlineBlank) else none
    | [] => none
  let (hour, cs) ← oneOrTwoDigits cs
  let cs ← after? ':' cs
  let (minute, cs) ← twoDigits cs
  let cs ← after? ':' cs
  let (second, cs) ← twoDigits cs
  let fraction := match cs with
    | '.' :: rest => rest.takeWhile Char.isDigit
    | _ => []
  let cs := match cs with
    | '.' :: rest => rest.dropWhile Char.isDigit
    | _ => cs
  let zone ← zoneOffset cs
  let micros := (fraction ++ List.replicate 6 '0').take 6
  pure (hour, minute, second, ofDigits 10 (micros.map fun c => c.toNat - 48), zone)

/-- Whether a text has the form of a date: two digits for month and day, unless a time of day
follows. -/
def isTimestamp (cs : List Char) : Bool :=
  match dayNumbers cs with
  | none => false
  | some (_, []) => cs.length == 10
  | some (_, rest) => (clockNumbers rest).isSome

/-! ## Kinds of plain scalars -/

/-- The words for truth values. -/
def truthWords : List (String × Bool) := [("yes", true), ("no", false), ("true", true),
  ("false", false), ("on", true), ("off", false)]

/-- Whether a text is a word in small letters, in capitals, or with a capital at its start. -/
def isSpelling (word : String) (cs : List Char) : Bool :=
  let w := word.toList
  cs == w || cs == w.map Char.toUpper ||
    cs == (match w with
      | c :: rest => c.toUpper :: rest
      | [] => [])

/-- The kind of a plain scalar. A line feed at the end does not count, except where it is all there
is. The marks of tags, anchors and aliases are kept for kinds that are not read. -/
def Tag.ofPlain (text : String) : Tag :=
  let cs := text.toList
  let cs := if cs.getLast? = some '\n' then cs.dropLast else cs
  if truthWords.any fun w => isSpelling w.1 cs then .bool
  else if isFloat cs then .float
  else if isWhole (Literal.sign cs).2 then .int
  else if cs = ['<', '<'] then .merge
  else if text = "" || cs = ['~'] || isSpelling "null" cs then .null
  else if isTimestamp cs then .timestamp
  else if cs = ['='] then .value
  else if cs = ['!'] || cs = ['&'] || cs = ['*'] then .foreign
  else .text

/-! ## Values -/

/-- A digit below a base, of any script or a letter. -/
def digitOfBase? (base : Nat) (c : Char) : Option Nat :=
  ((decimalDigit? c).or (Literal.hexDigit? c)).filter (· < base)

/-- The whole number that a text writes to a base, which a mark of the base may precede. -/
def wholeNumberIn? (base : Nat) (cs : List Char) : Option Int :=
  let (negative, cs) := Literal.sign (Literal.trim cs)
  let isMark (c : Char) : Bool :=
    (base == 2 && c.toLower == 'b') || (base == 8 && c.toLower == 'o') ||
      (base == 16 && c.toLower == 'x')
  let cs := match cs with
    | '0' :: c :: rest => if isMark c then rest else cs
    | _ => cs
  (Literal.digitsBetween (digitOfBase? base) false cs).map fun ds =>
    if negative then -(ofDigits base ds : Int) else ofDigits base ds

/-- The whole number that a text writes to a base, or what is wrong with it. -/
def wholeIn (base : Nat) (cs : List Char) : Except Problem Int :=
  let problem (p : ValueProblem) : Except Problem Int := .error (.failure (.value p))
  if base = 10 then
    match wholeNumber cs with
    | .ok n => .ok n
    | .error (.tooLong digits) => problem (.tooLong digits)
    | .error .malformed => problem (.wholeNumber 10 (String.ofList cs))
  else
    match wholeNumberIn? base cs with
    | some n => .ok n
    | none => problem (.wholeNumber base (String.ofList cs))

/-- The sum of parts that each count sixty of the next. -/
def sixties (parts : List Int) : Int := parts.foldl (fun n d => n * 60 + d) 0

/-- A sum to which parts are added that each count sixty of the one before. A unit beyond all
floating-point numbers is refused. -/
def addSixties (total : Binary64) (unit : Int) : List Binary64 → Except Problem Binary64
  | [] => .ok total
  | d :: rest =>
    match Binary64.ofInt unit with
    | .infinite _ => .error (.failure (.range .wholeNumber))
    | u => addSixties (total.add (d.mul u)) (unit * 60) rest

/-- The sum of parts that each count sixty of the next, taken from the last part on. -/
def floatSixties (parts : List Binary64) : Except Problem Binary64 :=
  addSixties (.ofInt 0) 1 parts.reverse

/-- A text without its sign, if there is any text. -/
def signed (cs : List Char) : Except Problem (Bool × List Char) :=
  if cs.isEmpty then .error (.failure (.index .text)) else .ok (Literal.sign cs)

/-- The whole number that a scalar names. -/
def readInt (text : String) : Except Problem Value := do
  let (negative, cs) ← signed (text.toList.filter (· != '_'))
  let n ← match cs with
    | [] => .error (.failure (.index .text))
    | ['0'] => .ok 0
    | '0' :: 'b' :: rest => wholeIn 2 rest
    | '0' :: 'x' :: rest => wholeIn 16 rest
    | '0' :: _ => wholeIn 8 cs
    | _ =>
      if cs.contains ':' then ((colonParts cs).mapM (wholeIn 10)).map sixties
      else wholeIn 10 cs
  pure (.int (if negative then -n else n))

/-- The decimal number that a text writes, or what is wrong with it. -/
def decimal (cs : List Char) : Except Problem Binary64 :=
  match floatNumber? cs with
  | some x => .ok x
  | none => .error (.failure (.value (.decimal (String.ofList cs))))

/-- The part of a scalar that names a floating-point number, the sign aside: small letters, without
underscores. -/
def unsignedFloat (text : String) : Except Problem (Bool × List Char) :=
  signed (Case.lower (text.toList.filter (· != '_')))

/-- Whether a scalar names what is not a number by its word. -/
def isNanWord (text : String) : Bool :=
  match unsignedFloat text with
  | .ok (_, cs) => cs = ".nan".toList
  | .error _ => false

/-- The floating-point number that a scalar names. -/
def readFloat (text : String) : Except Problem Value := do
  let (negative, cs) ← unsignedFloat text
  let x ←
    if cs = ".inf".toList then .ok (.infinite false)
    else if cs = ".nan".toList then .ok .nan
    else if cs.contains ':' then ((colonParts cs).mapM decimal).bind floatSixties
    else decimal cs
  pure (.float (if negative then x.neg else x))

/-- The truth value that a scalar names. -/
def readBool (text : String) : Except Problem Value :=
  let lower := String.ofList (Case.lower text.toList)
  match truthWords.lookup lower with
  | some b => .ok (.bool b)
  | none => .error (.failure (.missingKey (.text lower)))

/-- The day, or moment of a day, that a scalar names. -/
def readTimestamp (text : String) : Except Problem Value :=
  let cs := text.toList
  let cs := if cs.getLast? = some '\n' then cs.dropLast else cs
  let unread : Except Problem Value := .error (.failure (.mismatch (.noMember "NoneType" "groupdict")))
  match dayNumbers cs with
  | none => unread
  | some ((y, m, d), []) =>
    match Date.ofNumbers y m d with
    | .ok d => .ok (.date d)
    | .error p => .error (.failure (.value (.date p)))
  | some ((y, mo, d), rest) =>
    match clockNumbers rest with
    | none => unread
    | some (h, mi, s, us, zone) =>
      match Timestamp.ofNumbers y mo d h mi s us zone with
      | .ok t => .ok (.timestamp t)
      | .error p => .error (.failure (.value (.time p)))

/-- The bytes that a scalar names. -/
def readBinary (text : String) : Except Problem Value :=
  if text.toList.all fun c => c.toNat < 128 then
    match Base64.decodeLoose? text.toList with
    | some bytes => .ok (.bytes bytes)
    | none => .error .malformed
  else .error .malformed

/-- Whether a kind is one of scalars. -/
def Tag.isScalar : Tag → Bool
  | .null => true
  | .bool => true
  | .int => true
  | .float => true
  | .timestamp => true
  | .text => true
  | .binary => true
  | _ => false

/-- The value of a scalar of a kind. -/
def Tag.read (tag : Tag) (text : String) : Except Problem Value :=
  match tag with
  | .null => .ok .null
  | .bool => readBool text
  | .int => readInt text
  | .float => readFloat text
  | .timestamp => readTimestamp text
  | .text => .ok (.text text)
  | .binary => readBinary text
  | _ => .error .malformed

end TransferBucket.Yaml
