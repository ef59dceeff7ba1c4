import OpenResponse.Number.Numeral

/-!
# Integer literals

An integer literal may be written in base two, eight, ten or sixteen, may hold underscores anywhere
and may end in the name of an integer type.  Neither underscores nor suffix change its value.

What is left when underscores and suffix are gone is read as a numeral.  The base is taken from the
first two characters of that, and only there, so that the letters of a hexadecimal literal are never
taken for a prefix.

## Main definitions

* `integerSuffixes`: the names of the integer types.
* `readInteger?`: the value of a literal.
* `decimalLimit`: the greatest number of digits that a decimal numeral may have.

## Design notes

Suffixes are tried in the order of the list and only the first one that fits is taken away.  No
suffix is the end of another one, so the order does not matter for the value.

Since underscores go first, they may stand where no literal has them, in front of the digits or
inside of a suffix.

The limit on digits is one of the decimal base.  The other bases have none, and a value that is read
in one of them may have more decimal digits than can be written.
-/

namespace OpenResponse

/-- The names of the integer types. -/
def integerSuffixes : List String :=
  ["u8", "u16", "u32", "u64", "u128", "usize", "i8", "i16", "i32", "i64", "i128", "isize"]

/-- The greatest number of digits that a decimal numeral may have, read or written. -/
def decimalLimit : Nat := 4300

/-- The text without the suffix, if it ends in it. -/
def withoutSuffix? (text : List Char) (suffix : String) : Option (List Char) :=
  if suffix.toList.isSuffixOf text then some (text.take (text.length - suffix.length)) else none

/-- A literal without its underscores and without the name of its type. -/
def literalDigits (text : List Char) : List Char :=
  let digits := text.filter (· != '_')
  (integerSuffixes.findSome? (withoutSuffix? digits)).getD digits

/-- The base that the first two characters of a literal give. -/
def literalBase : List Char → Nat
  | '0' :: letter :: _ =>
    if letter = 'x' ∨ letter = 'X' then 16
    else if letter = 'o' ∨ letter = 'O' then 8
    else if letter = 'b' ∨ letter = 'B' then 2
    else 10
  | _ => 10

/-- The value of an integer literal, if it has one. -/
def readInteger? (text : String) : Option Nat :=
  let digits := literalDigits text.toList
  let base := literalBase digits
  if base = 10 ∧ digits.length > decimalLimit then none else readMagnitude? base digits

end OpenResponse
