import OpenResponse.Text.Blank
import OpenResponse.Text.Digit

/-!
# Numerals

The text of an integer in a base: blanks at either end, an optional sign, for the bases two, eight
and sixteen an optional letter prefix, and digits that single underscores may separate.

The grammar is that of numerals as they are converted from texts, which is wider than that of
literals: blanks around the numeral, signs, and digits of any script are allowed.  Literals pass
through it without their suffix.

## Main definitions

* `separatedDigits?`: digits with underscores between them.
* `readNumeral?`: the value of a numeral in a base.
* `digitsValue`: the value of a list of digits.

## Design notes

The digits are read first and valued afterwards.  So that a text is a numeral is a matter of its
characters, and its value is a fold over digits about which nothing has to be known but that each is
below the base.

An underscore stands between two digits or behind a prefix, and never twice.
-/

namespace OpenResponse

/-- The value of digits in a base, the most significant digit first. -/
def digitsValue (base : Nat) (digits : List Nat) : Nat :=
  digits.foldl (fun value digit => value * base + digit) 0

/-- One digit or more, with at most one underscore between two of them. -/
def separatedDigits? (base : Nat) : List Char → Option (List Nat)
  | [] => none
  | [c] => (baseDigit? base c).map ([·])
  | c :: '_' :: rest => do
    let digit ← baseDigit? base c
    let digits ← separatedDigits? base rest
    return digit :: digits
  | c :: rest => do
    let digit ← baseDigit? base c
    let digits ← separatedDigits? base rest
    return digit :: digits

/-- The letter that follows the leading zero of a numeral with a prefix. -/
def prefixLetter? (base : Nat) : Option Char :=
  if base = 16 then some 'x' else if base = 8 then some 'o' else if base = 2 then some 'b' else none

/-- A numeral without its prefix, if it has the one of its base.  One underscore may follow the
prefix. -/
def withoutPrefix (base : Nat) (text : List Char) : List Char :=
  match text with
  | first :: letter :: rest =>
    if decimalDigit? first = some 0 ∧ some letter.toLower = prefixLetter? base then
      match rest with
      | '_' :: digits => digits
      | digits => digits
    else text
  | _ => text

/-- Whether a character may stand in front of or behind a numeral.  The information separators are
blank, but not here. -/
def isNumeralBlank (c : Char) : Bool := isBlank c && !(28 ≤ c.toNat && c.toNat ≤ 31)

/-- A text without the blanks that may surround a numeral. -/
def trimNumeral (text : List Char) : List Char :=
  ((text.dropWhile isNumeralBlank).reverse.dropWhile isNumeralBlank).reverse

/-- The value of a numeral without a sign. -/
def readMagnitude? (base : Nat) (text : List Char) : Option Nat :=
  (separatedDigits? base (withoutPrefix base text)).map (digitsValue base)

/-- The value of a numeral in a base, if the text is one. -/
def readNumeral? (base : Nat) (text : List Char) : Option Int :=
  match trimNumeral text with
  | '-' :: rest => (readMagnitude? base rest).map (fun n => -(n : Int))
  | '+' :: rest => (readMagnitude? base rest).map (fun n => (n : Int))
  | rest => (readMagnitude? base rest).map (fun n => (n : Int))

/-- Every digit of a numeral is below its base. -/
theorem lt_of_mem_separatedDigits? {base : Nat} {text : List Char} {digits : List Nat}
    (h : separatedDigits? base text = some digits) : ∀ digit ∈ digits, digit < base := by
  fun_induction separatedDigits? base text generalizing digits with
  | case1 => simp at h
  | case2 c =>
    obtain ⟨d, hd, rfl⟩ := Option.map_eq_some_iff.1 h
    simpa using lt_of_baseDigit? hd
  | case3 c rest ih =>
    simp only [bind, Option.bind_eq_some_iff] at h
    obtain ⟨d, hd, ds, hds, he⟩ := h
    cases he
    simpa using ⟨lt_of_baseDigit? hd, ih hds⟩
  | case4 c rest _ _ ih =>
    simp only [bind, Option.bind_eq_some_iff] at h
    obtain ⟨d, hd, ds, hds, he⟩ := h
    cases he
    simpa using ⟨lt_of_baseDigit? hd, ih hds⟩

end OpenResponse
