import OpenResponse.Text.CodeRange

/-!
# Blank characters

The characters that separate without meaning anything, and the two cuts that depend on them:
trimming a text, and splitting it into lines.  Lines end at more characters than the line feed:
form feeds, the information separators, the next-line control and the two Unicode separators end
one as well, and a carriage return followed by a line feed ends a single line.

The classes of blanks, of characters that end a line, and of blanks around a numeral are all
different, and each is used where texts are taken apart in its way.

## Main definitions

* `isBlank`: the white space of the Unicode standard together with the information separators.
* `trim`: a text without its leading and trailing blanks.
* `splitLines`: the lines of a text, without what ends them.
* `unifyLineBreaks`: a text whose lines all end in a line feed.

## Design notes

Splitting into lines keeps empty lines in the middle of a text and at its beginning, but not one
behind the last line break.  A carriage return in front of a line feed belongs to it, so the two end
one line.
-/

namespace OpenResponse

/-- The code points of the blank characters. -/
def blankRanges : CodeRanges := [
  (0x9, 0xd), (0x1c, 0x20), (0x85, 0x85), (0xa0, 0xa0), (0x1680, 0x1680),
  (0x2000, 0x200a), (0x2028, 0x2029), (0x202f, 0x202f), (0x205f, 0x205f), (0x3000, 0x3000)]

/-- Whether a character is blank. -/
def isBlank (c : Char) : Bool := blankRanges.contains c.toNat

/-- The text that begins at the first character that is not blank. -/
def trimLeft (text : List Char) : List Char := text.dropWhile isBlank

/-- The text without the blanks at either end. -/
def trim (text : List Char) : List Char :=
  (trimLeft (trimLeft text).reverse).reverse

/-- Whether a character ends a line. -/
def endsLine (c : Char) : Bool :=
  let n := c.toNat
  (10 ≤ n && n ≤ 13) || (28 ≤ n && n ≤ 30) || n == 0x85 || n == 0x2028 || n == 0x2029

/--
The lines of a text.  `current` holds the characters of the line being read, last first; a text
that ends right after a line break has no further empty line.
-/
def splitLinesFrom (current : List Char) : List Char → List (List Char)
  | [] => if current.isEmpty then [] else [current.reverse]
  | '\r' :: '\n' :: rest => current.reverse :: splitLinesFrom [] rest
  | c :: rest =>
    if endsLine c then current.reverse :: splitLinesFrom [] rest
    else splitLinesFrom (c :: current) rest

/-- The lines of a text, without the characters that end them. -/
def splitLines (text : List Char) : List (List Char) := splitLinesFrom [] text

/-- The text with every carriage return, and every carriage return with its line feed, made one line
feed. -/
def unifyLineBreaks : List Char → List Char
  | [] => []
  | '\r' :: '\n' :: rest => '\n' :: unifyLineBreaks rest
  | '\r' :: rest => '\n' :: unifyLineBreaks rest
  | c :: rest => c :: unifyLineBreaks rest

/-- Blanks in front of a text do not change what trimming leaves. -/
theorem trimLeft_of_isBlank {c : Char} (text : List Char) (h : isBlank c = true) :
    trimLeft (c :: text) = trimLeft text := by
  simp [trimLeft, h]

end OpenResponse
