import BulkJobs.Text.Ascii

/-!
# Floating-point numbers of 64 bits

A finite number is a sign and a magnitude `significand * 2 ^ exponent`, exactly. Every operation
computes the exact result as a ratio of natural numbers and rounds it once, to the nearest number
and to the even significand in a tie; a result past the largest number is `none`.
-/

set_option autoImplicit false
set_option relaxedAutoImplicit false

namespace BulkJobs

/-- A finite floating-point number. The significand is below `2 ^ 53` and the exponent is at least
`-1074`; a significand below `2 ^ 52` comes only with the least exponent. -/
structure Binary64 where
  negative : Bool
  significand : Nat
  exponent : Int
deriving DecidableEq, Repr

namespace Binary64

def minExponent : Int := -1074

def maxExponent : Int := 971

def zero : Binary64 := ⟨false, 0, minExponent⟩

/-- The number with the sign given instead of its own. -/
def withSign (negative : Bool) (x : Binary64) : Binary64 :=
  { x with negative }

/-- Whether the number is zero, of either sign. -/
def isZero (x : Binary64) : Bool :=
  x.significand == 0

/-- The quotient of two natural numbers rounded to the nearest one, to the even one in a tie. -/
def divRound (num den : Nat) : Nat :=
  let q := num / den
  let r := num % den
  if 2 * r > den || (2 * r == den && q % 2 == 1) then q + 1 else q

/-- The numerator and denominator of `num / den / 2 ^ e`. -/
def scaleDown (num den : Nat) (e : Int) : Nat × Nat :=
  if 0 ≤ e then (num, den * Nat.pow 2 e.toNat) else (num * Nat.pow 2 (-e).toNat, den)

/-- The exponent at which the quotient has its significand between `2 ^ 52` and `2 ^ 53`, or the
least exponent if that is greater. -/
def fittingExponent (num den : Nat) : Int :=
  let guess : Int := (Nat.log2 num : Int) - (Nat.log2 den : Int) - 53
  let scaled := scaleDown num den guess
  max minExponent (if scaled.1 / scaled.2 < Nat.pow 2 53 then guess else guess + 1)

/-- The positive number nearest to a ratio, unless it is past the largest number. -/
def ofRatio? (num den : Nat) : Option Binary64 :=
  if num == 0 then some zero
  else
    let e := fittingExponent num den
    let scaled := scaleDown num den e
    let m := divRound scaled.1 scaled.2
    let rounded : Binary64 :=
      if m == Nat.pow 2 53 then ⟨false, Nat.pow 2 52, e + 1⟩ else ⟨false, m, e⟩
    if rounded.exponent > maxExponent then none else some rounded

/-- The number nearest to a natural number, unless it is past the largest number. -/
def ofNat? (n : Nat) : Option Binary64 :=
  ofRatio? n 1

/-- The magnitude as a ratio of natural numbers. -/
def ratio (x : Binary64) : Nat × Nat :=
  if 0 ≤ x.exponent then (x.significand * Nat.pow 2 x.exponent.toNat, 1)
  else (x.significand, Nat.pow 2 (-x.exponent).toNat)

/-- The product of two magnitudes, rounded, unless it is past the largest number. -/
def mul? (x y : Binary64) : Option Binary64 :=
  ofRatio? (x.ratio.1 * y.ratio.1) (x.ratio.2 * y.ratio.2)

/-- The quotient of two magnitudes, for a divisor that is not zero. -/
def div? (x y : Binary64) : Option Binary64 :=
  ofRatio? (x.ratio.1 * y.ratio.2) (x.ratio.2 * y.ratio.1)

/-- The number nearest to a power of ten with an exponent up to 308. -/
def powerOfTen? (e : Nat) : Option Binary64 :=
  ofNat? (Nat.pow 10 e)

/-- `x` divided by a power of ten. Beyond `10 ^ 308` the division goes in several steps, each of
which rounds; three of them leave nothing of any number. -/
def divPowerOfTen? (x : Binary64) (e : Nat) : Option Binary64 :=
  if e ≤ 308 then (powerOfTen? e).bind x.div?
  else do
    let y ← x.div? (← powerOfTen? 308)
    if e ≤ 616 then (powerOfTen? (e - 308)).bind y.div?
    else return zero

/-- `x` multiplied by a power of ten, unless the product is past the largest number. -/
def mulPowerOfTen? (x : Binary64) (e : Nat) : Option Binary64 :=
  if x.isZero then some zero
  else if e ≤ 308 then (powerOfTen? e).bind x.mul?
  else none

/-- The positive number written `digits * 10 ^ exponent`: the digits are rounded to a number first,
and the result is rounded again after scaling. `none` stands for a number out of range. -/
def ofDecimal? (digits : Nat) (exponent : Int) : Option Binary64 := do
  let x ← ofNat? digits
  if 0 ≤ exponent then x.mulPowerOfTen? exponent.toNat else x.divPowerOfTen? (-exponent).toNat

/-! ## Decimal text -/

def sign (x : Binary64) : List Char :=
  if x.negative then ['-'] else []

/-- The number with one digit after the decimal point, rounded from its exact value. -/
def oneDecimal (x : Binary64) : String :=
  let tenths := divRound (x.ratio.1 * 10) x.ratio.2
  .ofList (x.sign ++ Nat.toDigits 10 (tenths / 10) ++ '.' :: Nat.toDigits 10 (tenths % 10))

/-- The decimal exponent of the leading digit of a number that is not zero. -/
def leadingExponent (x : Binary64) : Int :=
  let scaled := x.ratio.1 * Nat.pow 10 340 / x.ratio.2
  (Nat.toDigits 10 scaled).length - 341

/-- The two neighbours of a number among the decimals of the given number of significant digits, the
nearer one first, and the even one in a tie. Each is given as digits and an exponent. -/
def neighbours (x : Binary64) (count : Nat) : List (Nat × Int) :=
  let unit : Int := x.leadingExponent + 1 - count
  let scaled :=
    if 0 ≤ unit then (x.ratio.1, x.ratio.2 * Nat.pow 10 unit.toNat)
    else (x.ratio.1 * Nat.pow 10 (-unit).toNat, x.ratio.2)
  let below := scaled.1 / scaled.2
  let nearer := divRound scaled.1 scaled.2
  [(nearer, unit), (if nearer == below then below + 1 else below, unit)]

/-- The number nearest to `digits * 10 ^ exponent`, rounded once. -/
def nearestTo? (decimal : Nat × Int) : Option Binary64 :=
  if 0 ≤ decimal.2 then ofRatio? (decimal.1 * Nat.pow 10 decimal.2.toNat) 1
  else ofRatio? decimal.1 (Nat.pow 10 (-decimal.2).toNat)

/-- Whether a decimal reads back as the magnitude of the number. -/
def readsBack (x : Binary64) (decimal : Nat × Int) : Bool :=
  nearestTo? decimal == some (x.withSign false)

/-- The first neighbour that reads back, with `count` significant digits or up to `more` further
ones. -/
def shortestFrom (x : Binary64) : Nat → Nat → Nat × Int
  | 0, count => ((x.neighbours count).head?).getD (0, 0)
  | more + 1, count =>
    ((x.neighbours count).find? x.readsBack).getD (x.shortestFrom more (count + 1))

/-- The decimal with the fewest digits that reads back as the magnitude of a number that is not
zero, and the nearest one of those. Seventeen digits always read back. -/
def shortest (x : Binary64) : Nat × Int :=
  x.shortestFrom 16 1

end Binary64

end BulkJobs
