import OpenResponse.Number.Binary
import OpenResponse.Text.Digit

/-!
# Decimal text of floating point numbers

Reading a decimal with an optional fraction and exponent, and writing a number with the fewest
digits that read back as the same number.  Among the shortest digits those nearest to the number are
written.

The shortest digits are searched for, beginning with one digit and going on to more, and the first
multiple of a power of ten that lies among the numbers that read back is taken.  That there are only
two candidates for each power, the ones around the number, makes the search short; that seventeen
digits suffice makes it end.

## Main definitions

* `readDecimal?`: the number that a decimal text means.
* `shortestDigits`: the fewest digits that read back, and the power of ten of the first of them.
* `DecimalLayout`, `documentLayout`: when a point is written, and when an exponent.
* `Binary.text`: the text of a number in a layout.

## Design notes

The interval of what reads back is half the way to the next number on either side.  Its ends belong
to it if the significand is even, because rounding goes there.  Everything is scaled to whole
numbers over one denominator, so the comparisons are exact.

How digits are laid out is data.  The layout of documents is the only one that is used here.
-/

namespace OpenResponse

/-! ### Reading

A decimal is cut into its parts from the left.  What is left over at the end makes it no decimal. -/

/-- The digits that a text begins with, and the text behind them. -/
def takeDigits : List Char → List Nat × List Char
  | [] => ([], [])
  | c :: rest =>
    match decimalDigit? c with
    | some digit =>
      let (digits, behind) := takeDigits rest
      (digit :: digits, behind)
    | none => ([], c :: rest)

/-- The value of decimal digits, the most significant one first. -/
def decimalValue (digits : List Nat) : Nat := digits.foldl (fun n digit => n * 10 + digit) 0

/-- The exponent that a text consists of, which may be missing altogether. -/
def readExponent? : List Char → Option Int
  | [] => some 0
  | letter :: rest =>
    if letter = 'e' ∨ letter = 'E' then
      let (negative, text) := match rest with
        | '-' :: text => (true, text)
        | '+' :: text => (false, text)
        | text => (false, text)
      match takeDigits text with
      | ([], _) => none
      | (digits, []) =>
        some (if negative then -(decimalValue digits : Int) else decimalValue digits)
      | _ => none
    else none

/-- The number that a text of digits, an optional fraction and an optional exponent means. -/
def readDecimal? (text : List Char) : Option Binary :=
  let (whole, behind) := takeDigits text
  let (fraction, behind) := match behind with
    | '.' :: rest => takeDigits rest
    | rest => ([], rest)
  if whole.isEmpty && fraction.isEmpty then none
  else (readExponent? behind).map fun exponent =>
    Binary.ofDecimal (decimalValue (whole ++ fraction)) (exponent - fraction.length)

/-! ### Writing

The digits are found first, as a list without zeros at its end and the power of ten of its first
one, and then laid out. -/

/-- The power of ten of the first digit of a fraction that is not zero. -/
def leadingPower (numerator denominator : Nat) : Int :=
  if denominator ≤ numerator then
    ((Nat.toDigits 10 (numerator / denominator)).length : Int) - 1
  else
    -((Nat.toDigits 10 ((denominator + numerator - 1) / numerator - 1)).length : Int)

/--
The numbers that read back as a given one lie between two bounds, which are given as fractions over
the denominator of the number itself.
-/
structure ReadingInterval where
  /-- The numerator of the number. -/
  value : Nat
  /-- The numerator of the lower bound. -/
  lower : Nat
  /-- The numerator of the upper bound. -/
  upper : Nat
  /-- The common denominator. -/
  denominator : Nat
  /-- Whether the bounds themselves read back. -/
  closed : Bool

namespace ReadingInterval

/-- The interval of a finite number.  Below a power of two the next number is half as far away as
above it. -/
def ofFinite (significand : Nat) (exponent : Int) : ReadingInterval :=
  let below := if significand = Nat.pow 2 (Binary.precision - 1) ∧ exponent > Binary.leastExponent
    then 1 else 2
  let scale := Nat.pow 2 (exponent - 2).toNat
  { value := 4 * significand * scale
    lower := (4 * significand - below) * scale
    upper := (4 * significand + 2) * scale
    denominator := Nat.pow 2 (2 - exponent).toNat
    closed := significand % 2 == 0 }

/-- Whether a fraction reads back. -/
def contains (interval : ReadingInterval) (numerator denominator : Nat) : Bool :=
  let point := numerator * interval.denominator
  let low := interval.lower * denominator
  let high := interval.upper * denominator
  if interval.closed then low ≤ point && point ≤ high else low < point && point < high

/--
The multiple of a power of ten that reads back, if there is one: of the two multiples around the
number the nearer one, or the even one when both are equally near.
-/
def multiple? (interval : ReadingInterval) (power : Int) : Option Nat :=
  let up := Nat.pow 10 power.toNat
  let down := Nat.pow 10 (-power).toNat
  let numerator := interval.value * down
  let denominator := interval.denominator * up
  let floor := numerator / denominator
  let rest := numerator % denominator
  let lowFits := interval.contains (floor * up) down
  let highFits := interval.contains ((floor + 1) * up) down
  if lowFits && highFits then
    if 2 * rest < denominator then some floor
    else if 2 * rest > denominator then some (floor + 1)
    else if floor % 2 = 0 then some floor else some (floor + 1)
  else if lowFits then some floor
  else if highFits then some (floor + 1)
  else none

/-- The first multiple that reads back as the powers of ten get smaller, with its power. -/
def search (interval : ReadingInterval) : Nat → Int → Nat × Int
  | 0, power => ((interval.multiple? power).getD 0, power)
  | fuel + 1, power =>
    match interval.multiple? power with
    | some digits => (digits, power)
    | none => search interval fuel (power - 1)

end ReadingInterval

/-- Digits without the zeros at their end. -/
def dropTrailingZeros (digits : List Char) : List Char :=
  (digits.reverse.dropWhile (· == '0')).reverse

/--
The fewest digits that read back as a finite number other than zero, and the power of ten of the
first of them.  Seventeen digits always suffice.
-/
def shortestDigits (significand : Nat) (exponent : Int) : List Char × Int :=
  let interval := ReadingInterval.ofFinite significand exponent
  let leading := leadingPower interval.value interval.denominator
  let (number, power) := interval.search 17 leading
  let digits := Nat.toDigits 10 number
  (dropTrailingZeros digits, power + digits.length - 1)

/-- When a number is written with a point and when with an exponent. -/
structure DecimalLayout where
  /-- The least power of ten of a first digit that is written with a point. -/
  leastPoint : Int
  /-- The least power of ten of a first digit that is written with an exponent again. -/
  leastExponent : Int
  /-- The least number of digits of an exponent. -/
  exponentDigits : Nat
  /-- The text of the infinite number. -/
  infinity : String
  /-- The text of the undefined value. -/
  undefined : String

/-- The layout of documents: a point from a ten-thousandth up to sixteen digits, two digits in an
exponent at least, and a word for what is no number. -/
def documentLayout : DecimalLayout := ⟨-4, 16, 2, "Infinity", "NaN"⟩

namespace DecimalLayout

/-- The text of digits with a point.  A whole number keeps a zero behind its point. -/
def withPoint (digits : List Char) (power : Int) : List Char :=
  if power < 0 then
    '0' :: '.' :: (List.replicate (-power - 1).toNat '0' ++ digits)
  else
    let whole := power.toNat + 1
    let padded := digits ++ List.replicate (whole - digits.length) '0'
    let fraction := padded.drop whole
    padded.take whole ++ '.' :: (if fraction.isEmpty then ['0'] else fraction)

/-- The text of digits with an exponent.  A single digit has no point behind it. -/
def withExponent (layout : DecimalLayout) (digits : List Char) (power : Int) : List Char :=
  let mantissa := match digits with
    | first :: second :: rest => first :: '.' :: second :: rest
    | few => few
  let exponent := Nat.toDigits 10 power.natAbs
  mantissa ++ 'e' :: (if power < 0 then '-' else '+') ::
    (List.replicate (layout.exponentDigits - exponent.length) '0' ++ exponent)

end DecimalLayout

namespace Binary

/-- The text of a number in a layout. -/
def text (layout : DecimalLayout) : Binary → List Char
  | finite negative significand exponent =>
    let magnitude :=
      if significand = 0 then ['0', '.', '0']
      else
        let (digits, power) := shortestDigits significand exponent
        if layout.leastPoint ≤ power ∧ power < layout.leastExponent then
          DecimalLayout.withPoint digits power
        else layout.withExponent digits power
    if negative then '-' :: magnitude else magnitude
  | infinite negative => if negative then '-' :: layout.infinity.toList else layout.infinity.toList
  | undefined => layout.undefined.toList

end Binary

end OpenResponse
