import OpenResponse.Document
import OpenResponse.Number.Decimal

/-!
# Reading the text of a document

The reader takes a document off the front of a text.  Readers of nested documents recurse on a
budget of characters: each recursive call comes after a character has been read.

The reader is the inverse of the writer, and laws about the two are what it is used for: a compact
text is read back as the document that it was written for.  It accepts more than is written, for
blanks may stand between any two parts and characters may be escaped that need not be.

## Main definitions

* `Document.read?`: the document that a text is.

## Design notes

The budget is twice the number of characters and one more.  Reading an item takes a step for the
item and a step for the list, and at least one character is read for both, so the budget is never
what ends the reading of a text.

Strings are read with a budget of their own length, so that the reader of strings is structurally
recursive as well.

## Limits

A string is a list of characters, and a single unit of a surrogate pair is none.  Where such a unit
is written without its other half the character zero is read in its place.  No text of a document
has one, since characters beyond the first plane are written as pairs.
-/

namespace OpenResponse

namespace Document

/-- The text behind the blanks of the document format. -/
def skipBlanks (text : List Char) : List Char :=
  text.dropWhile fun c => c == ' ' || c == '\n' || c == '\r' || c == '\t'

/-- The value of four hexadecimal digits, and the text behind them. -/
def readUnit? : List Char → Option (Nat × List Char)
  | a :: b :: c :: d :: rest => do
    let a ← baseDigit? 16 a
    let b ← baseDigit? 16 b
    let c ← baseDigit? 16 c
    let d ← baseDigit? 16 d
    return (((a * 16 + b) * 16 + c) * 16 + d, rest)
  | _ => none

/-- The character of a unit, or of a surrogate pair, and the text behind it. -/
def readNumbered? (text : List Char) : Option (Char × List Char) := do
  let (unit, rest) ← readUnit? text
  match rest with
  | '\\' :: 'u' :: more =>
    match readUnit? more with
    | some (low, behind) =>
      if 0xd800 ≤ unit ∧ unit < 0xdc00 ∧ 0xdc00 ≤ low ∧ low < 0xe000 then
        return (Char.ofNat (0x10000 + (unit - 0xd800) * 0x400 + (low - 0xdc00)), behind)
      else return (Char.ofNat unit, rest)
    | none => return (Char.ofNat unit, rest)
  | _ => return (Char.ofNat unit, rest)

/-- The character that a letter stands for behind a backslash. -/
def readLetter? : Char → Option Char
  | '"' => some '"'
  | '\\' => some '\\'
  | '/' => some '/'
  | 'b' => some (Char.ofNat 8)
  | 'f' => some (Char.ofNat 12)
  | 'n' => some '\n'
  | 'r' => some '\r'
  | 't' => some '\t'
  | _ => none

/-- The rest of a string of which `before`, last character first, is read. -/
def readText? : Nat → List Char → List Char → Option (String × List Char)
  | 0, _, _ => none
  | budget + 1, before, text =>
    match text with
    | [] => none
    | '"' :: rest => some (String.ofList before.reverse, rest)
    | '\\' :: 'u' :: rest =>
      match readNumbered? rest with
      | some (c, rest) => readText? budget (c :: before) rest
      | none => none
    | '\\' :: letter :: rest =>
      match readLetter? letter with
      | some c => readText? budget (c :: before) rest
      | none => none
    | c :: rest => readText? budget (c :: before) rest

/-- Whether a character may stand in a number. -/
def inNumber (c : Char) : Bool :=
  ('0' ≤ c && c ≤ '9') || c == '-' || c == '+' || c == '.' || c == 'e' || c == 'E'

/-- The number that a text is: an integer, unless a point or an exponent makes it a floating point
number. -/
def readNumber? (text : List Char) : Option Document :=
  let (negative, magnitude) := match text with
    | '-' :: rest => (true, rest)
    | rest => (false, rest)
  match takeDigits magnitude with
  | ([], _) => none
  | (digits, []) =>
    let value : Int := decimalValue digits
    some (.integer (if negative then -value else value))
  | _ =>
    (readDecimal? magnitude).map fun value => .float (if negative then value.negate else value)

/-- The words of the format and what they mean. -/
def words : List (List Char × Document) :=
  [("null".toList, .null), ("true".toList, .bool true), ("false".toList, .bool false),
    ("NaN".toList, .float .undefined), ("Infinity".toList, .float (.infinite false)),
    ("-Infinity".toList, .float (.infinite true))]

mutual

/-- The document that a text begins with, and the text behind it. -/
def readValue? : Nat → List Char → Option (Document × List Char)
  | 0, _ => none
  | budget + 1, text =>
    match skipBlanks text with
    | [] => none
    | '"' :: rest =>
      (readText? (rest.length + 1) [] rest).map fun (value, rest) => (.string value, rest)
    | '[' :: rest =>
      match skipBlanks rest with
      | ']' :: rest => some (.array [], rest)
      | rest => readItems? budget [] rest
    | '{' :: rest =>
      match skipBlanks rest with
      | '}' :: rest => some (.object [], rest)
      | rest => readMembers? budget [] rest
    | text =>
      match words.find? (fun word => word.1.isPrefixOf text) with
      | some (word, value) => some (value, text.drop word.length)
      | none => (readNumber? (text.takeWhile inNumber)).map (·, text.dropWhile inNumber)

/-- The items of an array of which `before`, last item first, is read. -/
def readItems? : Nat → List Document → List Char → Option (Document × List Char)
  | 0, _, _ => none
  | budget + 1, before, text =>
    match readValue? budget text with
    | none => none
    | some (item, rest) =>
      match skipBlanks rest with
      | ',' :: rest => readItems? budget (item :: before) rest
      | ']' :: rest => some (.array (item :: before).reverse, rest)
      | _ => none

/-- The members of an object of which `before`, last member first, is read. -/
def readMembers? : Nat → List (String × Document) → List Char → Option (Document × List Char)
  | 0, _, _ => none
  | budget + 1, before, text =>
    match skipBlanks text with
    | '"' :: rest =>
      match readText? (rest.length + 1) [] rest with
      | none => none
      | some (name, rest) =>
        match skipBlanks rest with
        | ':' :: rest =>
          match readValue? budget rest with
          | none => none
          | some (value, rest) =>
            match skipBlanks rest with
            | ',' :: rest => readMembers? budget ((name, value) :: before) rest
            | '}' :: rest => some (.ofMembers ((name, value) :: before).reverse, rest)
            | _ => none
        | _ => none
    | _ => none

end

/-- The document that a text is, if it is one. -/
def read? (text : String) : Option Document :=
  let chars := text.toList
  match readValue? (2 * chars.length + 1) chars with
  | some (document, rest) => if (skipBlanks rest).isEmpty then some document else none
  | none => none

end Document

end OpenResponse
