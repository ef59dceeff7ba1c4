import OpenResponse.Document
import OpenResponse.Number.Decimal
import OpenResponse.Text.Printable

/-!
# The text of a document

A document has two texts.  The compact one stands on one line and holds ASCII characters only, so
that it can be put into program text; the laid out one gives every item and member a line of its own
and shows characters as they are.

The two texts differ in more than their lines.  A character beyond ASCII is an escape in the compact
one and itself in the other, so the compact text can be embedded wherever ASCII can.  Both write an
empty array or object without anything between its brackets.

## Main definitions

* `quotedText`: a string between double quotes.
* `Document.chars`, `Document.text`: the compact text.
* `Document.laidOut`: the laid out text.

## Design notes

The recursion follows the document, with separate functions for the items of an array and the
members of an object, so that an item has no separator and a list of items has one between any two.

Characters beyond the first plane are written as the two units of a surrogate pair, as documents are
escaped in units of sixteen bits.
-/

namespace OpenResponse

/-- The four hexadecimal digits of a sixteen bit unit. -/
def unitEscape (unit : Nat) : List Char := '\\' :: 'u' :: (hexadecimal 4 unit).toList

/-- A character as one escape, or as the two escapes of a surrogate pair. -/
def numberedEscape (c : Char) : List Char :=
  let n := c.toNat
  if n < 0x10000 then unitEscape n
  else unitEscape (0xd800 + (n - 0x10000) / 0x400) ++ unitEscape (0xdc00 + (n - 0x10000) % 0x400)

/-- A character between double quotes.  With `ascii`, only the printable ASCII characters stand as
they are. -/
def quotedTextChar (ascii : Bool) (c : Char) : List Char :=
  if c = '"' then ['\\', '"']
  else if c = '\\' then ['\\', '\\']
  else if c = '\n' then ['\\', 'n']
  else if c = '\r' then ['\\', 'r']
  else if c = '\t' then ['\\', 't']
  else if c.toNat = 8 then ['\\', 'b']
  else if c.toNat = 12 then ['\\', 'f']
  else if c.toNat < 32 ∨ (ascii ∧ 126 < c.toNat) then numberedEscape c
  else [c]

/-- A string between double quotes. -/
def quotedText (ascii : Bool) (text : String) : List Char :=
  '"' :: (text.toList.flatMap (quotedTextChar ascii) ++ ['"'])

namespace Document

/-! ### On one line

Outside of strings, a space stands behind every separator and nowhere else. -/

mutual

/-- The characters of the compact text of a document. -/
def chars : Document → List Char
  | null => "null".toList
  | bool value => if value then "true".toList else "false".toList
  | integer value => (Int.repr value).toList
  | float value => value.text documentLayout
  | string value => quotedText true value
  | array items => '[' :: (itemChars items ++ [']'])
  | object members => '{' :: (memberChars members ++ ['}'])

/-- The items of an array with their separators. -/
def itemChars : List Document → List Char
  | [] => []
  | [item] => chars item
  | item :: rest => chars item ++ ',' :: ' ' :: itemChars rest

/-- The members of an object with their separators. -/
def memberChars : List (String × Document) → List Char
  | [] => []
  | [(name, value)] => quotedText true name ++ ':' :: ' ' :: chars value
  | (name, value) :: rest =>
    quotedText true name ++ ':' :: ' ' :: (chars value ++ ',' :: ' ' :: memberChars rest)

end

/-- The compact text of a document. -/
def text (document : Document) : String := String.ofList document.chars

/-! ### On lines of its own

The depth is that of the line that a document begins on.  What has no parts is written as in the
compact text, strings apart. -/

/-- A new line at a depth of nesting, two spaces for each level. -/
def lineBreak (depth : Nat) : List Char := '\n' :: List.replicate (2 * depth) ' '

mutual

/-- The characters of the laid out text of a document at a depth of nesting. -/
def laidOutChars (depth : Nat) : Document → List Char
  | string value => quotedText false value
  | array [] => ['[', ']']
  | array items => '[' :: (laidOutItems (depth + 1) items ++ lineBreak depth ++ [']'])
  | object [] => ['{', '}']
  | object members => '{' :: (laidOutMembers (depth + 1) members ++ lineBreak depth ++ ['}'])
  | plain => chars plain

/-- The items of an array, each on its line. -/
def laidOutItems (depth : Nat) : List Document → List Char
  | [] => []
  | [item] => lineBreak depth ++ laidOutChars depth item
  | item :: rest => lineBreak depth ++ laidOutChars depth item ++ ',' :: laidOutItems depth rest

/-- The members of an object, each on its line. -/
def laidOutMembers (depth : Nat) : List (String × Document) → List Char
  | [] => []
  | [(name, value)] =>
    lineBreak depth ++ quotedText false name ++ ':' :: ' ' :: laidOutChars depth value
  | (name, value) :: rest =>
    lineBreak depth ++ quotedText false name ++ ':' :: ' ' ::
      (laidOutChars depth value ++ ',' :: laidOutMembers depth rest)

end

/-- The laid out text of a document. -/
def laidOut (document : Document) : String := String.ofList (document.laidOutChars 0)

end Document

end OpenResponse
