import StaticSite.Text.Basic

/-! Binary floating-point numbers of 64 bits, as exact dyadic values: rounding to nearest with
ties to even, sums and products, and the shortest decimal that reads back. -/

namespace StaticSite.Number

/-- The nearest natural number to `num / den`; a half goes to the even neighbour. -/
def roundHalfEven (num den : Nat) : Nat :=
  let q := num / den
  let twice := 2 * (num % den)
  if twice < den then q
  else if den < twice then q + 1
  else if q % 2 = 0 then q else q + 1

/-- The number `mantissa * 2 ^ exponent` with a sign. Rounded values have less than `2 ^ 53` as
mantissa and at least `2 ^ 52`, unless the exponent is the least one. -/
structure Binary64 where
  negative : Bool
  mantissa : Nat
  exponent : Int
  deriving DecidableEq, Repr

namespace Binary64

def minExponent : Int := -1074

def maxExponent : Int := 971

/-- The least mantissa of a rounded number, `2 ^ 52`, but for the least exponent. -/
def leastMantissa : Nat := 0x10000000000000

/-- `num / den * 2 ^ shift` as a ratio of natural numbers. -/
def shiftRatio (num den : Nat) (shift : Int) : Nat × Nat :=
  if 0 ≤ shift then (num <<< shift.toNat, den) else (num, den <<< (-shift).toNat)

/-- The number nearest to `num / den`, where `den` is positive. -/
def ofRatio (negative : Bool) (num den : Nat) : Binary64 :=
  if num = 0 then ⟨negative, 0, minExponent⟩
  else
    let guess : Int := (num.log2 : Int) - den.log2 - 52
    let (n, d) := shiftRatio num den (-guess)
    let exponent := max minExponent (if n / d < leastMantissa then guess - 1 else guess)
    let (n, d) := shiftRatio num den (-exponent)
    let mantissa := roundHalfEven n d
    if mantissa = 2 * leastMantissa then ⟨negative, leastMantissa, exponent + 1⟩
    else ⟨negative, mantissa, exponent⟩

/-- The number nearest to an integer. -/
def ofInt (n : Int) : Binary64 :=
  ofRatio (n < 0) n.natAbs 1

/-- Whether the number lies in the range of the format. -/
def isFinite (x : Binary64) : Bool :=
  x.exponent ≤ maxExponent

/-- Whether the number is at least zero and at most a natural number. -/
def isUpTo (x : Binary64) (bound : Nat) : Bool :=
  let (num, den) := shiftRatio x.mantissa 1 x.exponent
  (!x.negative || num = 0) && num ≤ bound * den

def signedMantissa (x : Binary64) : Int :=
  if x.negative then -(x.mantissa : Int) else x.mantissa

/-- The number nearest to `n * 2 ^ exponent`. -/
def ofScaled (n : Int) (exponent : Int) : Binary64 :=
  let (num, den) := shiftRatio n.natAbs 1 exponent
  ofRatio (n < 0) num den

def add (x y : Binary64) : Binary64 :=
  let exponent := min x.exponent y.exponent
  ofScaled (x.signedMantissa <<< (x.exponent - exponent).toNat +
    y.signedMantissa <<< (y.exponent - exponent).toNat) exponent

def mul (x y : Binary64) : Binary64 :=
  let (num, den) := shiftRatio (x.mantissa * y.mantissa) 1 (x.exponent + y.exponent)
  ofRatio (x.negative != y.negative) num den

/-- The absolute value as a ratio. -/
def ratio (x : Binary64) : Nat × Nat :=
  shiftRatio x.mantissa 1 x.exponent

/-- The integer part, toward zero. -/
def truncate (x : Binary64) : Int :=
  let (num, den) := x.ratio
  if x.negative then -((num / den : Nat) : Int) else (num / den : Nat)

/-- What the integer part leaves; it is exact and has the sign of the number. -/
def fraction (x : Binary64) : Binary64 :=
  let (num, den) := x.ratio
  ofRatio x.negative (num % den) den

/-- The nearest integer; a half goes to the even neighbour. -/
def nearestInt (x : Binary64) : Int :=
  let (num, den) := x.ratio
  let n := roundHalfEven num den
  if x.negative then -(n : Int) else n

/-- The integer that the number is, if it is one. -/
def toInt? (x : Binary64) : Option Int :=
  let (num, den) := x.ratio
  if num % den = 0 then some x.truncate else none

/-! ### The shortest decimal -/

/-- A decimal number `digits * 10 ^ exponent`. -/
structure Decimal where
  digits : Nat
  exponent : Int
  deriving DecidableEq, Repr

/-- The number of decimal digits before the point of a positive ratio; negative where zeros follow
the point. -/
def magnitude (num den : Nat) : Int :=
  if den ≤ num then ((Text.ofNat (num / den)).length : Int)
  else 1 - ((Text.ofNat (den / num)).length : Int)

/-- Of the two points around a positive number on the grid of `n` significant digits, the one that
reads back as the number, the nearer if both do. -/
def onGrid? (x : Binary64) (n : Nat) : Option Decimal :=
  let four := 4 * x.mantissa
  let low := if x.mantissa = leastMantissa ∧ minExponent < x.exponent then four - 1 else four - 2
  let high := four + 2
  let (p, q) := shiftRatio 1 1 (x.exponent - 2)
  let place : Int := magnitude (four * p) q - n
  let (p, q) := if 0 ≤ place then (p, q * Nat.pow 10 place.toNat) else (p * Nat.pow 10 (-place).toNat, q)
  let within (c : Nat) : Bool :=
    if x.mantissa % 2 = 0 then low * p ≤ c * q && c * q ≤ high * p
    else low * p < c * q && c * q < high * p
  let floor := four * p / q
  let nearest := roundHalfEven (four * p) q
  let other := if nearest = floor then floor + 1 else floor
  if within nearest then some ⟨nearest, place⟩
  else if within other then some ⟨other, place⟩
  else none

/-- The decimal with the fewest digits that reads back as a positive number, and of those the
nearest to it. Seventeen digits always suffice. -/
def shortest (x : Binary64) : Decimal :=
  if x.mantissa = 0 then ⟨0, 0⟩
  else ((List.range 17).findSome? fun n => x.onGrid? (n + 1)).getD ⟨0, 0⟩

/-- The least and the first too great power of ten of the leading digit for which a number is
written without an exponent. -/
def positionalRange : Int × Int := (-4, 16)

/-- The text of a number: the shortest decimal, positional while its leading digit has a place
from `10 ^ -4` to `10 ^ 15`, with one digit at least on each side of the point; else one digit
before the point and an exponent of two digits at least with its sign. A number beyond the range
is infinite. -/
def text (x : Binary64) : Text :=
  let d := x.shortest
  let written := Text.ofNat d.digits
  let zeros := (written.reverse.takeWhile (· = '0')).length
  let digits := if d.digits = 0 then written else written.take (written.length - zeros)
  let leading : Int := d.exponent + written.length - 1
  let body :=
    if !x.isFinite then "inf".toList
    else if positionalRange.1 ≤ leading ∧ leading < positionalRange.2 then
      if 0 ≤ leading then
        let whole := leading.toNat + 1
        let padded := digits ++ List.replicate (whole - digits.length) '0'
        let rest := padded.drop whole
        padded.take whole ++ ['.'] ++ (if rest.isEmpty then ['0'] else rest)
      else "0.".toList ++ List.replicate (-leading - 1).toNat '0' ++ digits
    else
      digits.take 1 ++ (if digits.length = 1 then [] else '.' :: digits.drop 1) ++ ['e'] ++
        (if leading < 0 then ['-'] else ['+']) ++ Text.digitsIn 10 2 leading.natAbs
  if x.negative then '-' :: body else body

end Binary64
end StaticSite.Number
