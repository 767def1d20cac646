import TransferBucket.Value
import TransferBucket.Number.Shortest
import TransferBucket.Number.Literal

/-!
# Writing JSON

The JSON text of a value, on one line or with indented lines. All characters outside the plain
ASCII ones are written as escapes of four digits, those above the first 65536 as two. A pair is
written like a list of two. Dates, bytes and sets have no JSON text, nor has a value that stands
inside itself or a whole number with too many digits.
-/

namespace TransferBucket.Json

/-- Four digits to base sixteen. -/
def fourDigits (n : Nat) : List Char := padLeft 4 (Nat.toDigits 16 n)

/-- An escape of four digits. -/
def unitEscape (n : Nat) : List Char := '\\' :: 'u' :: fourDigits n

/-- The escape of a character. -/
def charEscape (c : Char) : List Char :=
  let n := c.toNat
  if n < 0x10000 then unitEscape n
  else
    unitEscape (0xd800 + (n - 0x10000) / 0x400) ++ unitEscape (0xdc00 + (n - 0x10000) % 0x400)

/-- One character of a string. -/
def writeChar (c : Char) : List Char :=
  match c with
  | '"' => ['\\', '"']
  | '\\' => ['\\', '\\']
  | '\n' => ['\\', 'n']
  | '\r' => ['\\', 'r']
  | '\t' => ['\\', 't']
  | '\x08' => ['\\', 'b']
  | '\x0c' => ['\\', 'f']
  | c => if 0x20 ≤ c.toNat ∧ c.toNat < 0x7f then [c] else charEscape c

/-- A string in quotes. -/
def writeString (s : List Char) : List Char := '"' :: (s.flatMap writeChar ++ ['"'])

/-- The decimal text of a whole number. -/
def writeInt (n : Int) : List Char :=
  if n < 0 then '-' :: natDigits n.natAbs else natDigits n.natAbs

/-- The text of a floating-point number; those that are no numbers have words. -/
def writeFloat : Binary64 → List Char
  | .nan => "NaN".toList
  | .infinite negative => if negative then "-Infinity".toList else "Infinity".toList
  | x => x.display.toList

/-- How values are laid out. -/
inductive Layout where
  /-- On one line, with a blank after commas and colons. -/
  | line
  /-- Every item on a line of its own, each level indented by so many blanks. -/
  | indented (step : Nat)
  deriving DecidableEq, Repr

/-- The break before the first and after the last item at a level. -/
def Layout.break (l : Layout) (level : Nat) : List Char :=
  match l with
  | .line => []
  | .indented step => '\n' :: List.replicate (step * level) ' '

/-- What stands between items at a level. -/
def Layout.separator (l : Layout) (level : Nat) : List Char :=
  match l with
  | .line => [',', ' ']
  | .indented _ => ',' :: l.break level

/-- The name of an entry: a text, or the text of another plain value. -/
def keyText : Value → List Char
  | .null => "null".toList
  | .bool b => if b then "true".toList else "false".toList
  | .int n => writeInt n
  | .float x => writeFloat x
  | .text s => s.toList
  | _ => []

mutual

/-- The text of a value at a level. -/
def render (l : Layout) (level : Nat) : Value → List Char
  | .null => "null".toList
  | .bool b => if b then "true".toList else "false".toList
  | .int n => writeInt n
  | .float x => writeFloat x
  | .text s => writeString s.toList
  | .list [] => ['[', ']']
  | .list (v :: vs) =>
    '[' :: (l.break (level + 1) ++ render l (level + 1) v ++ renderItems l (level + 1) vs ++
      l.break level ++ [']'])
  | .pair a b =>
    '[' :: (l.break (level + 1) ++ render l (level + 1) a ++ l.separator (level + 1) ++
      render l (level + 1) b ++ l.break level ++ [']'])
  | .mapping [] => ['{', '}']
  | .mapping ((k, v) :: es) =>
    '{' :: (l.break (level + 1) ++ writeString (keyText k) ++ [':', ' '] ++
      render l (level + 1) v ++ renderEntries l (level + 1) es ++ l.break level ++ ['}'])
  | _ => []

/-- Further items of a list. -/
def renderItems (l : Layout) (level : Nat) : List Value → List Char
  | [] => []
  | v :: vs => l.separator level ++ render l level v ++ renderItems l level vs

/-- Further entries of an object. -/
def renderEntries (l : Layout) (level : Nat) : List (Value × Value) → List Char
  | [] => []
  | (k, v) :: es =>
    l.separator level ++ writeString (keyText k) ++ [':', ' '] ++ render l level v ++
      renderEntries l level es

end

/-- What cannot be written. -/
inductive Obstacle where
  /-- A value of this kind. -/
  | value (kind : String)
  /-- A name of this kind. -/
  | key (kind : String)
  /-- A value that stands inside itself. -/
  | circular
  /-- A whole number with too many digits. -/
  | longNumber
  deriving DecidableEq, Repr

/-- The wording of an obstacle. -/
def Obstacle.message : Obstacle → String
  | .value kind => s!"Object of type {kind} is not JSON serializable"
  | .key kind => s!"keys must be str, int, float, bool or None, not {kind}"
  | .circular => "Circular reference detected"
  | .longNumber => unwritableMessage

/-- The obstacle that a whole number is, if it has too many digits. -/
def numberObstacle? (n : Int) : Option Obstacle := if isWritable n then none else some .longNumber

/-- Whether a value can be a name. -/
def keyObstacle? (k : Value) : Option Obstacle :=
  match k with
  | .int n => numberObstacle? n
  | .date _ | .timestamp _ | .bytes _ | .pair .. => some (.key k.kindName)
  | _ => none

mutual

/-- The first part of a value that cannot be written. -/
def obstacle? : Value → Option Obstacle
  | .int n => numberObstacle? n
  | .bytes _ => some (.value "bytes")
  | .date _ => some (.value "date")
  | .timestamp _ => some (.value "datetime")
  | .set _ => some (.value "set")
  | .list items => itemObstacle? items
  | .pair a b => (obstacle? a).or (obstacle? b)
  | .mapping entries => entryObstacle? entries
  | .again _ => some .circular
  | _ => none

/-- The first part of some items that cannot be written. -/
def itemObstacle? : List Value → Option Obstacle
  | [] => none
  | v :: vs => (obstacle? v).or (itemObstacle? vs)

/-- The first part of some entries that cannot be written. -/
def entryObstacle? : List (Value × Value) → Option Obstacle
  | [] => none
  | (k, v) :: es => ((keyObstacle? k).or (obstacle? v)).or (entryObstacle? es)

end

/-- The text of a value, if all its parts can be written. -/
def encode (l : Layout) (v : Value) : Except Obstacle (List Char) :=
  match obstacle? v with
  | some o => .error o
  | none => .ok (render l 0 v)

/-- The text of a value on one line. -/
def writeLine (v : Value) : String := String.ofList (render .line 0 v)

end TransferBucket.Json
