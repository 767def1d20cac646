import TransferBucket.Value
import TransferBucket.Number.Literal

/-!
# Reading JSON

The value of a JSON text. Beyond the standard, `NaN`, `Infinity` and `-Infinity` are numbers, and
a later value of a name replaces an earlier one. A text that is refused is refused at one place,
with one of the reasons below; a whole number with too many digits is not a matter of syntax and
is told apart.

A reader takes the characters left and gives a value with those still left. The place of an error
is kept as the number of characters left there.
-/

namespace TransferBucket.Json

/-- Why a text is no JSON. -/
inductive Problem where
  | value
  | name
  | colon
  | comma
  | extra
  | control
  | escape
  | unicodeEscape
  | unterminated
  | byteOrderMark
  deriving DecidableEq, Repr

/-- The wording of a reason. -/
def Problem.message : Problem → String
  | .value => "Expecting value"
  | .name => "Expecting property name enclosed in double quotes"
  | .colon => "Expecting ':' delimiter"
  | .comma => "Expecting ',' delimiter"
  | .extra => "Extra data"
  | .control => "Invalid control character at"
  | .escape => "Invalid \\escape"
  | .unicodeEscape => "Invalid \\uXXXX escape"
  | .unterminated => "Unterminated string starting at"
  | .byteOrderMark => "Unexpected UTF-8 BOM (decode using utf-8-sig)"

/-- Why reading stops: a reason with the number of characters left, or a number that is too
long. -/
inductive Stop where
  | syntaxError (problem : Problem) (left : Nat)
  | tooLong (digits : Nat)
  deriving DecidableEq, Repr

/-- An error of a whole text: a reason with its place, or a number that is too long. -/
inductive ReadError where
  | syntaxError (problem : Problem) (line column offset : Nat)
  | tooLong (digits : Nat)
  deriving DecidableEq, Repr

/-- The wording of an error. -/
def ReadError.message : ReadError → String
  | .syntaxError p line column offset =>
    s!"{p.message}: line {line} column {column} (char {offset})"
  | .tooLong digits => tooLongMessage digits

/-- The place `offset` of a text: its line, and its column in the line, both from 1. -/
def place (text : List Char) (offset : Nat) : Nat × Nat :=
  let before := text.take offset
  (before.count '\n' + 1, (before.reverse.takeWhile (· != '\n')).length + 1)

/-- Blanks between the parts of a text. -/
def isSpace (c : Char) : Bool := c == ' ' || c == '\t' || c == '\n' || c == '\r'

/-- The text without blanks at its start. -/
def skip (cs : List Char) : List Char := cs.dropWhile isSpace

/-- The text after a word, if it starts with the word. -/
def afterWord? (word cs : List Char) : Option (List Char) :=
  if word.isPrefixOf cs then some (cs.drop word.length) else none

/-! ## Strings -/

/-- The character that a short escape stands for. -/
def shortEscape? : Char → Option Char
  | '"' => some '"'
  | '\\' => some '\\'
  | '/' => some '/'
  | 'b' => some '\x08'
  | 'f' => some '\x0c'
  | 'n' => some '\n'
  | 'r' => some '\r'
  | 't' => some '\t'
  | _ => none

/-- The number of four digits to base sixteen. -/
def fourDigits? (a b c d : Char) : Option Nat :=
  match Literal.hexDigit? a, Literal.hexDigit? b, Literal.hexDigit? c, Literal.hexDigit? d with
  | some a, some b, some c, some d => some (((a * 16 + b) * 16 + c) * 16 + d)
  | _, _, _, _ => none

/-- Whether a code unit is the first half of a pair. -/
def isHighHalf (n : Nat) : Bool := 0xd800 ≤ n && n < 0xdc00

/-- Whether a code unit is the second half of a pair. -/
def isLowHalf (n : Nat) : Bool := 0xdc00 ≤ n && n < 0xe000

/-- The character of a code unit; a half without its other half is replaced. -/
def unitChar (n : Nat) : Char :=
  if isHighHalf n || isLowHalf n then '\ufffd' else Char.ofNat n

/-- The character of a pair of halves. -/
def pairChar (high low : Nat) : Char :=
  Char.ofNat (0x10000 + (high - 0xd800) * 0x400 + (low - 0xdc00))

/-- The characters of code units: halves next to each other make one character. -/
def joinHalves : List Nat → List Char
  | [] => []
  | [n] => [unitChar n]
  | high :: low :: rest =>
    if isHighHalf high && isLowHalf low then pairChar high low :: joinHalves rest
    else unitChar high :: joinHalves (low :: rest)

/-- The code units of a string after its opening quote, and the text after its closing quote.
`opening` is the number of characters left at the opening quote. An escape of four digits needs
a character after it. -/
def readUnits (opening : Nat) : List Char → Except Stop (List Nat × List Char)
  | [] => .error (.syntaxError .unterminated opening)
  | c :: rest =>
    if c = '"' then .ok ([], rest)
    else if c.toNat < 0x20 then .error (.syntaxError .control (rest.length + 1))
    else if c ≠ '\\' then (readUnits opening rest).map fun r => (c.toNat :: r.1, r.2)
    else match rest with
    | [] => .error (.syntaxError .unterminated opening)
    | e :: rest =>
      if e = 'u' then
        match rest with
        | u1 :: u2 :: u3 :: u4 :: after =>
          match fourDigits? u1 u2 u3 u4, after.isEmpty with
          | some n, false => (readUnits opening after).map fun r => (n :: r.1, r.2)
          | _, _ => .error (.syntaxError .unicodeEscape (rest.length + 1))
        | _ => .error (.syntaxError .unicodeEscape (rest.length + 1))
      else match shortEscape? e with
        | some c => (readUnits opening rest).map fun r => (c.toNat :: r.1, r.2)
        | none => .error (.syntaxError .escape (rest.length + 2))

/-- The characters of a string after its opening quote, and the text after its closing quote. -/
def readString (opening : Nat) (cs : List Char) : Except Stop (List Char × List Char) :=
  (readUnits opening cs).map fun r => (joinHalves r.1, r.2)

/-! ## Numbers -/

/-- A plain digit. -/
def isDigit (c : Char) : Bool := '0' ≤ c && c ≤ '9'

/-- The values of plain digits. -/
def digitValues (cs : List Char) : List Nat := cs.map fun c => c.toNat - '0'.toNat

/-- The exponent at the start of a text, if a whole one is there, and the text after it. -/
def readExponent (cs : List Char) : Option (Int × List Char) :=
  match cs with
  | [] => none
  | c :: rest =>
    if c = 'e' ∨ c = 'E' then
      let (negative, ds) := Literal.sign rest
      let digits := ds.takeWhile isDigit
      if digits.isEmpty then none
      else
        let n : Int := ofDigits 10 (digitValues digits)
        some (if negative then -n else n, ds.dropWhile isDigit)
    else none

/-- The digits after a point at the start of a text, if there are any, and the text after them. -/
def readFraction (cs : List Char) : Option (List Nat × List Char) :=
  match cs with
  | '.' :: rest =>
    let digits := rest.takeWhile isDigit
    if digits.isEmpty then none else some (digitValues digits, rest.dropWhile isDigit)
  | _ => none

/-- The digits of a whole part: a zero alone, or digits that do not start with zero. -/
def readWhole (cs : List Char) : Option (List Char × List Char) :=
  match cs with
  | [] => none
  | c :: rest =>
    if c = '0' then some ([c], rest)
    else if isDigit c then some (c :: rest.takeWhile isDigit, rest.dropWhile isDigit)
    else none

/-- A number at the start of a text, and the text after it. -/
def readNumber (cs : List Char) : Except Stop (Value × List Char) :=
  let negative := cs.head? = some '-'
  match readWhole (if negative then cs.drop 1 else cs) with
  | none => .error (.syntaxError .value cs.length)
  | some (whole, rest) =>
    let fraction? := readFraction rest
    let afterFraction := match fraction? with
      | some (_, r) => r
      | none => rest
    let exponent? := readExponent afterFraction
    let left := match exponent? with
      | some (_, r) => r
      | none => afterFraction
    if fraction?.isNone && exponent?.isNone then
      if digitLimit < whole.length then .error (.tooLong whole.length)
      else
        let n : Int := ofDigits 10 (digitValues whole)
        .ok (.int (if negative then -n else n), left)
    else
      let fraction := (fraction?.map (·.1)).getD []
      let exponent := (exponent?.map (·.1)).getD 0
      .ok (.float (.ofDecimal negative (digitValues whole) fraction exponent), left)

/-! ## Values -/

/-- The words that are values. -/
def words : List (List Char × Value) := [
  ("null".toList, .null),
  ("true".toList, .bool true),
  ("false".toList, .bool false),
  ("NaN".toList, .float .nan),
  ("Infinity".toList, .float (.infinite false)),
  ("-Infinity".toList, .float (.infinite true))]

/-- A value that has no parts: a word or a number. -/
def readPlain (cs : List Char) : Except Stop (Value × List Char) :=
  match words.findSome? fun w => (afterWord? w.1 cs).map fun rest => (w.2, rest) with
  | some r => .ok r
  | none => readNumber cs

mutual

/-- The value at the start of a text, and the text after it. `fuel` bounds the depth. -/
def readValue : Nat → List Char → Except Stop (Value × List Char)
  | 0, cs => .error (.syntaxError .value cs.length)
  | fuel + 1, cs =>
    match cs with
    | [] => .error (.syntaxError .value 0)
    | '"' :: rest =>
      (readString (rest.length + 1) rest).map fun r => (.text (String.ofList r.1), r.2)
    | '[' :: rest =>
      match skip rest with
      | ']' :: after => .ok (.list [], after)
      | inside => (readItems fuel inside).map fun r => (.list r.1, r.2)
    | '{' :: rest =>
      match skip rest with
      | '}' :: after => .ok (.mapping [], after)
      | inside => (readEntries fuel inside).map fun r => (.mapping (Value.ofEntries r.1), r.2)
    | _ => readPlain cs

/-- The items of a list from the first on, and the text after the closing bracket. -/
def readItems : Nat → List Char → Except Stop (List Value × List Char)
  | 0, cs => .error (.syntaxError .value cs.length)
  | fuel + 1, cs =>
    match readValue fuel cs with
    | .error e => .error e
    | .ok (v, rest) =>
      match skip rest with
      | ']' :: after => .ok ([v], after)
      | ',' :: after => (readItems fuel (skip after)).map fun r => (v :: r.1, r.2)
      | other => .error (.syntaxError .comma other.length)

/-- The entries of an object from the first on, and the text after the closing brace. -/
def readEntries : Nat → List Char → Except Stop (List (Value × Value) × List Char)
  | 0, cs => .error (.syntaxError .value cs.length)
  | fuel + 1, cs =>
    match cs with
    | '"' :: rest =>
      match readString (rest.length + 1) rest with
      | .error e => .error e
      | .ok (name, rest) =>
        match skip rest with
        | ':' :: after =>
          match readValue fuel (skip after) with
          | .error e => .error e
          | .ok (v, rest) =>
            let entry := (Value.text (String.ofList name), v)
            match skip rest with
            | '}' :: after => .ok ([entry], after)
            | ',' :: after => (readEntries fuel (skip after)).map fun r => (entry :: r.1, r.2)
            | other => .error (.syntaxError .comma other.length)
        | other => .error (.syntaxError .colon other.length)
    | other => .error (.syntaxError .name other.length)

end

/-- The value of a whole text, before the place of an error is worked out. Every step down takes
a character, so the length bounds the depth. -/
def readAll (cs : List Char) : Except Stop Value :=
  if cs.head? = some '\ufeff' then .error (.syntaxError .byteOrderMark cs.length)
  else
    let start := skip cs
    match readValue (2 * start.length + 2) start with
    | .error e => .error e
    | .ok (v, rest) =>
      match skip rest with
      | [] => .ok v
      | other => .error (.syntaxError .extra other.length)

/-- An error with its place in the text. -/
def Stop.inText (cs : List Char) : Stop → ReadError
  | .tooLong digits => .tooLong digits
  | .syntaxError p left =>
    let offset := cs.length - left
    let (line, column) := place cs offset
    .syntaxError p line column offset

/-- The value of a JSON text. -/
def decode (cs : List Char) : Except ReadError Value :=
  (readAll cs).mapError (Stop.inText cs)

end TransferBucket.Json
