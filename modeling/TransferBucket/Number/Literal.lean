import TransferBucket.Number.Binary64
import TransferBucket.Text.Digit

/-!
# Numbers written as text

Whole numbers and decimal fractions as a text gives them: blanks around, a sign, digits of any
script with single underscores between them. A whole number has at most 4300 digits.
-/

namespace TransferBucket

/-- The most digits that a whole number may have in a text. -/
def digitLimit : Nat := 4300

/-- The number that digits stand for, in a base. -/
def ofDigits (base : Nat) (ds : List Nat) : Nat := ds.foldl (fun n d => n * base + d) 0

/-- Why a text is no whole number. -/
inductive LiteralProblem where
  /-- It is not written as one. -/
  | malformed
  /-- It has too many digits: so many. -/
  | tooLong (digits : Nat)
  deriving DecidableEq, Repr

/-- The wording of a number that is too long. -/
def tooLongMessage (digits : Nat) : String :=
  s!"Exceeds the limit ({digitLimit} digits) for integer string conversion: value has {digits} digits; use sys.set_int_max_str_digits() to increase the limit"

/-- Whether a whole number has so few digits that it is written. The first test spares the great
power: below eight to some power is below ten to it. -/
def isWritable (n : Int) : Bool :=
  decide (Nat.log2 n.natAbs < 3 * digitLimit) || decide (n.natAbs < Nat.pow 10 digitLimit)

/-- The wording where a number with too many digits would have to be written. -/
def unwritableMessage : String :=
  s!"Exceeds the limit ({digitLimit} digits) for integer string conversion; use sys.set_int_max_str_digits() to increase the limit"

namespace Literal

/-- Digits with single underscores between them; `digit` says what the digits are. Underscores at
the start, at the end or next to each other are refused. -/
def digitsBetween (digit : Char → Option Nat) : Bool → List Char → Option (List Nat)
  | afterDigit, [] => if afterDigit then some [] else none
  | afterDigit, c :: rest =>
    if c = '_' then
      if afterDigit then digitsBetween digit false rest else none
    else
      match digit c with
      | some d => (digitsBetween digit true rest).map (d :: ·)
      | none => none

/-- Take away blanks at both ends. -/
def trim (cs : List Char) : List Char :=
  ((cs.dropWhile isNumberBlank).reverse.dropWhile isNumberBlank).reverse

/-- A sign in front of a text, and the rest. -/
def sign : List Char → Bool × List Char
  | '-' :: rest => (true, rest)
  | '+' :: rest => (false, rest)
  | cs => (false, cs)

/-- The value of a digit to base sixteen. -/
def hexDigit? (c : Char) : Option Nat :=
  if '0' ≤ c ∧ c ≤ '9' then some (c.toNat - '0'.toNat)
  else if 'a' ≤ c ∧ c ≤ 'f' then some (c.toNat - 'a'.toNat + 10)
  else if 'A' ≤ c ∧ c ≤ 'F' then some (c.toNat - 'A'.toNat + 10)
  else none

/-- A digit below a base. -/
def digitBelow? (base : Nat) (c : Char) : Option Nat :=
  (hexDigit? c).bind fun d => if d < base then some d else none

end Literal

/-- The whole number, to base ten, that a text writes. -/
def wholeNumber (text : List Char) : Except LiteralProblem Int :=
  let (negative, cs) := Literal.sign (Literal.trim text)
  match Literal.digitsBetween decimalDigit? false cs with
  | none => .error .malformed
  | some ds =>
    if digitLimit < ds.length then .error (.tooLong ds.length)
    else .ok (if negative then -(ofDigits 10 ds : Int) else ofDigits 10 ds)

/-- The number with the given digits before and after the point, times a power of ten. Far beyond
the range of the format the power alone decides. -/
def Binary64.ofDecimal (negative : Bool) (whole fractional : List Nat) (exponent : Int) :
    Binary64 :=
  let digits := (whole ++ fractional).dropWhile (· == 0)
  let e := exponent - fractional.length
  let point := (digits.length : Int) + e
  if digits.isEmpty then .ofRatio negative 0 1
  else if 400 < point then .infinite negative
  else if point < -400 then .ofRatio negative 0 1
  else
    let n := ofDigits 10 digits
    if 0 ≤ e then .ofRatio negative (n * Nat.pow 10 e.toNat) 1
    else .ofRatio negative n (Nat.pow 10 (-e).toNat)

/-- Digits of a fraction or exponent: with single underscores between them, possibly none. -/
def Literal.digitsOrNone (cs : List Char) : Option (List Nat) :=
  if cs.isEmpty then some [] else Literal.digitsBetween decimalDigit? false cs

/-- The floating-point number that a text writes: a decimal with point and exponent, an infinity,
or what is not a number. -/
def floatNumber? (text : List Char) : Option Binary64 :=
  let (negative, cs) := Literal.sign (Literal.trim text)
  let lower := cs.map Char.toLower
  if lower = "inf".toList ∨ lower = "infinity".toList then some (.infinite negative)
  else if lower = "nan".toList then some .nan
  else
    let isMark (c : Char) : Bool := c == 'e' || c == 'E'
    let mantissa := cs.takeWhile (!isMark ·)
    let power := cs.dropWhile (!isMark ·)
    let exponent? : Option Int := match power with
      | [] => some 0
      | _ :: rest =>
        let (minus, ds) := Literal.sign rest
        (Literal.digitsBetween decimalDigit? false ds).map fun ds =>
          if minus then -(ofDigits 10 ds : Int) else ofDigits 10 ds
    let whole := mantissa.takeWhile (· != '.')
    let fractional := (mantissa.dropWhile (· != '.')).drop 1
    match exponent?, Literal.digitsOrNone whole, Literal.digitsOrNone fractional with
    | some e, some w, some f =>
      if w.isEmpty && f.isEmpty then none else some (.ofDecimal negative w f e)
    | _, _, _ => none

end TransferBucket
