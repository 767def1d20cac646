/-!
# Binary floating-point numbers

A 64-bit number as what it stands for: not a number, an infinity, or a sign with a whole
mantissa and a power of two. Every operation is the exact rational result rounded once to the
nearest number with 53 binary digits, a tie going to the even mantissa; so statements about the
operations are statements about natural numbers.
-/

namespace TransferBucket

/-- A 64-bit binary floating-point number. A finite number is `± mantissa · 2 ^ exponent` with
`mantissa < 2 ^ 53`, where the exponent is the least one, `-1074`, unless the mantissa has all
53 digits. -/
inductive Binary64 where
  | nan
  | infinite (negative : Bool)
  | finite (negative : Bool) (mantissa : Nat) (exponent : Int)
  deriving DecidableEq, Repr, Inhabited

/-- The whole number nearest to `num / den`; of two equally near ones the even one. -/
def roundHalfEven (num den : Nat) : Nat :=
  let q := num / den
  let r := num % den
  if 2 * r < den then q
  else if den < 2 * r then q + 1
  else if q % 2 = 0 then q else q + 1

/-- The greatest `k` with `2 ^ k ≤ num / den`, for positive `num` and `den`. -/
def ratioLog2 (num den : Nat) : Int :=
  let k : Int := (Nat.log2 num : Int) - (Nat.log2 den : Int)
  if 0 ≤ k then
    if num < den * Nat.pow 2 k.toNat then k - 1 else k
  else
    if num * Nat.pow 2 (-k).toNat < den then k - 1 else k

namespace Binary64

/-- The exponent of the last place of a number near `num / den`. -/
def lastPlace (num den : Nat) : Int :=
  max (ratioLog2 num den - 52) (-1074)

/-- `num / den` in units of `2 ^ e`, rounded to a whole number. -/
def scaled (num den : Nat) (e : Int) : Nat :=
  if 0 ≤ e then roundHalfEven num (den * Nat.pow 2 e.toNat)
  else roundHalfEven (num * Nat.pow 2 (-e).toNat) den

/-- The number nearest to `± num / den`. -/
def ofRatio (negative : Bool) (num den : Nat) : Binary64 :=
  if num = 0 then .finite negative 0 (-1074)
  else
    let e := lastPlace num den
    let m := scaled num den e
    let (m, e) := if m = Nat.pow 2 53 then (Nat.pow 2 52, e + 1) else (m, e)
    if 971 < e then .infinite negative else .finite negative m e

/-- The number nearest to the quotient of a whole number by a positive one. -/
def ofQuotient (num : Int) (den : Nat) : Binary64 :=
  ofRatio (decide (num < 0)) num.natAbs den

/-- The number nearest to a whole number. -/
def ofInt (n : Int) : Binary64 := ofQuotient n 1

/-- Numerator and denominator of the magnitude of a finite number. -/
def magnitude (mantissa : Nat) (exponent : Int) : Nat × Nat :=
  if 0 ≤ exponent then (mantissa * Nat.pow 2 exponent.toNat, 1)
  else (mantissa, Nat.pow 2 (-exponent).toNat)

/-- The exact value of a finite number as a quotient; `none` for the others. -/
def toRatio? : Binary64 → Option (Int × Nat)
  | .finite negative m e =>
    let (num, den) := magnitude m e
    some (if negative then -(num : Int) else num, den)
  | _ => none

/-- Whether the sign of a number is a minus. -/
def isNegative : Binary64 → Bool
  | .nan => false
  | .infinite negative => negative
  | .finite negative _ _ => negative

/-- Whether a number is a zero of either sign. -/
def isZero : Binary64 → Bool
  | .finite _ m _ => m == 0
  | _ => false

/-- The number with the other sign. -/
def neg : Binary64 → Binary64
  | .nan => .nan
  | .infinite negative => .infinite (!negative)
  | .finite negative m e => .finite (!negative) m e

/-- The product of two numbers, rounded once. An infinity times zero is no number. -/
def mul (x y : Binary64) : Binary64 :=
  let negative := x.isNegative != y.isNegative
  match x, y with
  | .nan, _ => .nan
  | _, .nan => .nan
  | .infinite _, y => if y.isZero then .nan else .infinite negative
  | x, .infinite _ => if x.isZero then .nan else .infinite negative
  | x, y =>
    match x.toRatio?, y.toRatio? with
    | some (a, b), some (c, d) => ofRatio negative (a * c).natAbs (b * d)
    | _, _ => .nan

/-- The sum of two numbers, rounded once. Infinities of both signs make no number; a sum of zero is
negative only if both numbers are. -/
def add (x y : Binary64) : Binary64 :=
  match x, y with
  | .nan, _ => .nan
  | _, .nan => .nan
  | .infinite a, .infinite b => if a = b then .infinite a else .nan
  | .infinite a, _ => .infinite a
  | _, .infinite b => .infinite b
  | x, y =>
    match x.toRatio?, y.toRatio? with
    | some (a, b), some (c, d) =>
      let sum := a * d + c * b
      if sum = 0 then ofRatio (x.isNegative && y.isNegative) 0 1 else ofQuotient sum (b * d)
    | _, _ => .nan

/-- The part of a finite number left of the point: the next whole number toward zero. -/
def truncate? (x : Binary64) : Option Int :=
  x.toRatio?.map fun (num, den) => num.tdiv den

/-- The signed part of a finite number right of the point. It needs no rounding. -/
def fraction (x : Binary64) : Binary64 :=
  match x.toRatio? with
  | some (num, den) => ofRatio x.isNegative (num.natAbs % den) den
  | none => .nan

/-- The whole number nearest to a finite number, a tie going to the even one. -/
def round? (x : Binary64) : Option Int :=
  x.toRatio?.map fun (num, den) =>
    let n : Int := roundHalfEven num.natAbs den
    if num < 0 then -n else n

/-- Equality of the numbers meant: the zeros are equal, and nothing equals what is not a
number. -/
def equals (x y : Binary64) : Bool :=
  match x, y with
  | .infinite a, .infinite b => a == b
  | .finite .., .finite .. =>
    match x.toRatio?, y.toRatio? with
    | some (a, b), some (c, d) => a * d == c * b
    | _, _ => false
  | _, _ => false

/-- Whether a number is exactly the given whole number. -/
def equalsInt (x : Binary64) (n : Int) : Bool :=
  match x.toRatio? with
  | some (num, den) => num == n * den
  | none => false

end Binary64

end TransferBucket
