import TransferBucket.Number.Binary64

/-!
# The fewest digits that read back

The decimal text of a floating-point number: of all decimals that round to the number, one with
the fewest digits, and of those the nearest. Digits are searched on the decimal grids of one,
two, up to seventeen digits; if a grid has a point in the interval of reals that round to the
number, one of the number's two neighbours on that grid is such a point.
-/

namespace TransferBucket

/-- Digits `d₁d₂…dₙ` with the decimal point after the first `point` of them:
`0.d₁d₂…dₙ · 10 ^ point`. -/
structure DecimalDigits where
  digits : List Char
  point : Int
  deriving Repr, DecidableEq

namespace Shortest

/-- The least `p` with `num / den < 10 ^ p`, from the guess that the binary length gives. The
guess is never too high, and a few steps too low at most. -/
def decimalPoint (num den : Nat) : Int :=
  let guess : Int := (ratioLog2 num den * 30103).fdiv 100000
  let above (p : Int) : Bool :=
    if 0 ≤ p then num < den * Nat.pow 10 p.toNat else num * Nat.pow 10 (-p).toNat < den
  if above guess then guess else if above (guess + 1) then guess + 1 else guess + 2

/-- The interval of reals that round to `m · 2 ^ e`, as numerators over `4 · den` where the
number is `num / den`: the half gaps below and above. Below a power of two the gap is half as
wide. -/
def halfGaps (m : Nat) (e : Int) : Nat × Nat :=
  if m = Nat.pow 2 52 ∧ -1074 < e then (1, 2) else (2, 2)

/-- Whether the decimal `n · 10 ^ k` rounds to the number `m · 2 ^ e`. -/
def roundsTo (m : Nat) (e : Int) (n : Nat) (k : Int) : Bool :=
  let (low, high) := halfGaps m e
  -- the interval is [4m - low, 4m + high] · 2 ^ (e - 2)
  let two := e - 2
  let (dn, dd) := if 0 ≤ k then (n * Nat.pow 10 k.toNat, 1) else (n, Nat.pow 10 (-k).toNat)
  let (bn, bd) := if 0 ≤ two then (Nat.pow 2 two.toNat, 1) else (1, Nat.pow 2 (-two).toNat)
  let value := dn * bd
  let bottom := (4 * m - low) * bn * dd
  let top := (4 * m + high) * bn * dd
  if m % 2 = 0 then bottom ≤ value && value ≤ top else bottom < value && value < top

/-- The better of the two neighbours of `num / den` on the grid of multiples of `10 ^ k`, among
those that round to the number. -/
def onGrid? (m : Nat) (e : Int) (num den : Nat) (k : Int) : Option Nat :=
  let (gn, gd) :=
    if 0 ≤ k then (num, den * Nat.pow 10 k.toNat) else (num * Nat.pow 10 (-k).toNat, den)
  let below := gn / gd
  let above := below + 1
  let rest := gn % gd
  let lowFits := roundsTo m e below k
  let highFits := roundsTo m e above k
  if lowFits && highFits then
    some (if 2 * rest < gd then below else if gd < 2 * rest then above
      else if below % 2 = 0 then below else above)
  else if lowFits then some below
  else if highFits then some above
  else none

/-- The first grid with a point that rounds to the number, from `n` digits on. -/
def search (m : Nat) (e : Int) (num den : Nat) (point : Int) : Nat → Nat → Nat × Int
  | 0, n => (num / den, point - n)
  | fuel + 1, n =>
    match onGrid? m e num den (point - n) with
    | some d => (d, point - n)
    | none => search m e num den point fuel (n + 1)

end Shortest

/-- The decimal digits of a natural number. -/
def natDigits (n : Nat) : List Char := (Nat.repr n).toList

/-- Remove zeros at the end. -/
def dropTrailingZeros (ds : List Char) : List Char :=
  (ds.reverse.dropWhile (· == '0')).reverse

/-- The fewest digits that read back as `m · 2 ^ e`. -/
def shortestDigits (m : Nat) (e : Int) : DecimalDigits :=
  if m = 0 then ⟨['0'], 1⟩
  else
    let (num, den) := Binary64.magnitude m e
    let point := Shortest.decimalPoint num den
    let (d, k) := Shortest.search m e num den point 17 1
    let ds := natDigits d
    ⟨dropTrailingZeros ds, (ds.length : Int) + k⟩

/-- How numbers are laid out: which decimal points are written positionally. -/
structure DecimalLayout where
  /-- Positional notation is used while the point is above this … -/
  above : Int
  /-- … and at most this. -/
  upTo : Int
  /-- The least number of digits of an exponent. -/
  exponentWidth : Nat

/-- Numbers from a ten-thousandth up to below ten to the sixteenth are positional; a whole number
keeps `.0`; exponents have a sign and at least two digits. -/
def DecimalLayout.standard : DecimalLayout := ⟨-4, 16, 2⟩

/-- The digits of an exponent, filled up with zeros. -/
def padLeft (width : Nat) (ds : List Char) : List Char :=
  List.replicate (width - ds.length) '0' ++ ds

/-- Lay out digits by a layout. -/
def DecimalLayout.write (l : DecimalLayout) (d : DecimalDigits) : List Char :=
  if l.above < d.point ∧ d.point ≤ l.upTo then
    if d.point ≤ 0 then
      '0' :: '.' :: (List.replicate (-d.point).toNat '0' ++ d.digits)
    else if (d.digits.length : Int) ≤ d.point then
      d.digits ++ List.replicate (d.point.toNat - d.digits.length) '0' ++ ['.', '0']
    else
      d.digits.take d.point.toNat ++ '.' :: d.digits.drop d.point.toNat
  else
    let e := d.point - 1
    let mantissa := match d.digits with
      | [] => ['0']
      | [c] => [c]
      | c :: r => c :: '.' :: r
    mantissa ++ 'e' :: (if e < 0 then '-' else '+') :: padLeft l.exponentWidth (natDigits e.natAbs)

/-- The text of a floating-point number: the fewest digits that read back. -/
def Binary64.display : Binary64 → String
  | .nan => "nan"
  | .infinite negative => if negative then "-inf" else "inf"
  | .finite negative m e =>
    let ds := DecimalLayout.standard.write (shortestDigits m e)
    String.ofList (if negative then '-' :: ds else ds)

end TransferBucket
