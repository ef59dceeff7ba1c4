/-!
# Binary floating point numbers

A number of the IEEE double format is kept as what it means: a sign and a whole number of units of a
power of two.  The units are as small as the format allows, so that every number has one form only:
either the significand has its full fifty-three bits, or the exponent is the least one.

A decimal number is turned into the nearest such number by exact arithmetic; of two equally near
ones the even significand is taken.

Rounding is done once, on a fraction of natural numbers, so no step of it can go wrong by being
inexact itself.  The exponent is guessed from the lengths of the numerator and the denominator in
bits, which is right or one too small.

## Main definitions

* `Binary`: the numbers of the format.
* `Binary.ofRatio`: the nearest number to a fraction.
* `Binary.ofDecimal`: the nearest number to a decimal.

## Design notes

The sign is kept apart from the magnitude, so there are two zeros, and the functions that make
numbers are about magnitudes only.

A decimal may have an exponent of any size, and multiplying such a power out would take as long as
the number is.  So decimals whose first digit is beyond the four hundredth place are settled before;
the greatest number of the format has three hundred and nine digits, and half of the least one
begins at the three hundred and twenty-fourth place behind the point.
-/

namespace OpenResponse

/-- The numbers of the format, with its infinities and its one undefined value. -/
inductive Binary
  /-- The significand times two to the power of the exponent. -/
  | finite (negative : Bool) (significand : Nat) (exponent : Int)
  | infinite (negative : Bool)
  | undefined
deriving DecidableEq, Repr, Inhabited

namespace Binary

/-- The least exponent of the format. -/
def leastExponent : Int := -1074

/-- The greatest exponent of the format. -/
def greatestExponent : Int := 971

/-- The bits of a full significand. -/
def precision : Nat := 53

/-- The zero of the format. -/
def zero : Binary := finite false 0 leastExponent

/-- The number with its sign turned. -/
def negate : Binary → Binary
  | finite negative significand exponent => finite (!negative) significand exponent
  | infinite negative => infinite (!negative)
  | undefined => undefined

/-- A fraction scaled down by a power of two, which may be negative. -/
def scaled (numerator denominator : Nat) (exponent : Int) : Nat × Nat :=
  (numerator * Nat.pow 2 (-exponent).toNat, denominator * Nat.pow 2 exponent.toNat)

/-- The whole number nearest to a fraction; of two equally near ones the even one. -/
def roundHalfEven (numerator denominator : Nat) : Nat :=
  let whole := numerator / denominator
  let twice := 2 * (numerator % denominator)
  if twice < denominator then whole
  else if twice > denominator then whole + 1
  else if whole % 2 = 0 then whole else whole + 1

/-- The exponent at which a fraction fills the significand, or the least exponent of the format. -/
def fittingExponent (numerator denominator : Nat) : Int :=
  let guess : Int := (numerator.log2 : Int) - denominator.log2 - precision
  let (n, d) := scaled numerator denominator guess
  let exponent := if n / d < Nat.pow 2 precision then guess else guess + 1
  max exponent leastExponent

/-- The nearest number to a fraction that is not negative. -/
def ofRatio (numerator denominator : Nat) : Binary :=
  if numerator = 0 then zero
  else
    let exponent := fittingExponent numerator denominator
    let (n, d) := scaled numerator denominator exponent
    let significand := roundHalfEven n d
    let (significand, exponent) :=
      if significand = Nat.pow 2 precision then (Nat.pow 2 (precision - 1), exponent + 1)
      else (significand, exponent)
    if exponent > greatestExponent then infinite false
    else finite false significand exponent

/--
The nearest number to a decimal that is not negative: digits and the power of ten that they are
multiplied by.  Decimals far beyond the range of the format are not multiplied out.
-/
def ofDecimal (digits : Nat) (power : Int) : Binary :=
  let magnitude : Int := (Nat.toDigits 10 digits).length + power
  if digits = 0 then zero
  else if magnitude > 400 then infinite false
  else if magnitude < -400 then zero
  else ofRatio (digits * Nat.pow 10 power.toNat) (Nat.pow 10 (-power).toNat)

end Binary

end OpenResponse
