import OpenResponse.Text.Blank
import OpenResponse.Text.Separated
import OpenResponse.Text.Width

/-!
# Lines on a terminal

A terminal shows lines of cells.  Controls that would move the cursor are left out, tabs go on to
the next of the tab stops, which stand eight cells apart, and blanks that hang over the right edge
are cut.

A text that is printed passes through these functions once.  What they take away cannot be seen
anyway: controls that move the cursor, and blanks behind the edge.  Nothing else is cut, so that a
long line stays one line, unless it stands in a column.

## Main definitions

* `terminalWidth`: the cells of a line.
* `visibleLines`: the lines that a text takes.
* `wrapped`: the lines that a text takes in fewer cells, broken between words.

## Design notes

Words keep the blanks behind them, and breaking a line does not change its characters.  That is what
makes the laws here equations: filling lines and putting them together again gives the text.  Blanks
at an edge are trimmed afterwards.

A word that is wider than a column stands on a line of its own, and is cut there with a mark at the
cut.
-/

namespace OpenResponse

/-- The cells of a line. -/
def terminalWidth : Nat := 80

/-- The distance of the tab stops. -/
def tabStops : Nat := 8

/-- Bell, backspace, vertical tab, form feed and carriage return move the cursor or make a noise. -/
def isCursorControl (c : Char) : Bool :=
  let n := c.toNat
  n == 7 || n == 8 || n == 11 || n == 12 || n == 13

/-- The characters of a text that are sent to the terminal. -/
def visible (text : List Char) : List Char := text.filter (!isCursorControl ·)

/-- A text with spaces up to the next tab stop for every tab; `column` cells stand before it. -/
def expandTabsFrom (column : Nat) : List Char → List Char
  | [] => []
  | c :: rest =>
    if c = '\t' then
      let width := tabStops - column % tabStops
      List.replicate width ' ' ++ expandTabsFrom (column + width) rest
    else c :: expandTabsFrom (column + charCells c) rest

/-- A text with its tabs expanded. -/
def expandTabs (text : List Char) : List Char := expandTabsFrom 0 text

/-- A line without the blanks at its end, as far as they are beyond the width. -/
def trimBeyond (width : Nat) (line : List Char) : List Char :=
  let blanks := (line.reverse.takeWhile isBlank).length
  line.take (line.length - min blanks (line.length - width))

/-- The lines that a text takes, however long they are. -/
def visibleLines (text : List Char) : List (List Char) :=
  (cutAt '\n' (visible text)).map fun line => trimBeyond terminalWidth (expandTabs line)

/-- What showing a text sends to the terminal. -/
def sentText (text : String) : String :=
  String.ofList (joinWith '\n' (visibleLines text.toList) ++ ['\n'])

/-! ### Breaking lines

A line is cut into words, the words are put on lines, and each line is fitted to the width. -/

/--
The words of a line, each with the blanks behind it; blanks at the beginning belong to the first
word.  `current` is the word being read, last character first, `begun` says whether it holds more
than blanks, and `ended` whether a blank stands behind these.
-/
def wordsFrom (begun ended : Bool) (current : List Char) : List Char → List (List Char)
  | [] => if current.isEmpty then [] else [current.reverse]
  | c :: rest =>
    if isBlank c then wordsFrom begun begun (c :: current) rest
    else if ended then current.reverse :: wordsFrom true false [c] rest
    else wordsFrom true false (c :: current) rest

/-- The words of a line, each with the blanks behind it. -/
def words (line : List Char) : List (List Char) := wordsFrom false false [] line

/-- A text without the blanks at its end. -/
def trimRight (text : List Char) : List Char := (trimLeft text.reverse).reverse

/--
Put words on lines of a width.  A word that does not fit on what is left of a line begins a new one,
also if it is wider than a line.  `line` is the line being filled and `column` counts its cells.
-/
def fillLines (width : Nat) (line : List Char) (column : Nat) : List (List Char) → List (List Char)
  | [] => [line]
  | word :: rest =>
    if column + cellCount (trimRight word) ≤ width then
      fillLines width (line ++ word) (column + cellCount word) rest
    else if line.isEmpty then fillLines width word (cellCount word) rest
    else line :: fillLines width word (cellCount word) rest

/-- The characters at the beginning of a text that take a number of cells; a blank stands for the
first half of a wide character that is cut in two. -/
def takeCells : Nat → List Char → List Char
  | _, [] => []
  | count, c :: rest =>
    if count = 0 then []
    else if charCells c ≤ count then c :: takeCells (count - charCells c) rest
    else [' ']

/-- A line of exactly a width: filled up with blanks, or cut with a mark at the cut. -/
def fitted (width : Nat) (line : List Char) : List Char :=
  let count := cellCount line
  if count ≤ width then line ++ List.replicate (width - count) ' '
  else
    let kept := takeCells (width - 1) line
    kept ++ List.replicate (width - 1 - cellCount kept) ' ' ++ ['…']

/-- The lines that a text takes in a column of a width, each filled up to the width. -/
def wrapped (width : Nat) (text : List Char) : List (List Char) :=
  (cutAt '\n' (visible text)).flatMap fun line =>
    (fillLines width [] 0 (words (expandTabs line))).map fun part =>
      fitted width (trimBeyond width part)

/-! ### Laws

Up to the point where lines are fitted no character is lost. -/

/-- No character is lost between the words. -/
theorem flatten_wordsFrom (begun ended : Bool) (current line : List Char) :
    (wordsFrom begun ended current line).flatten = current.reverse ++ line := by
  induction line generalizing begun ended current with
  | nil =>
    unfold wordsFrom
    split <;> simp_all
  | cons c rest ih =>
    unfold wordsFrom
    split
    · simp [ih]
    · split <;> simp [ih]

/-- Filling lines keeps the words in their order. -/
theorem flatten_fillLines (width : Nat) (line : List Char) (column : Nat)
    (parts : List (List Char)) :
    (fillLines width line column parts).flatten = line ++ parts.flatten := by
  induction parts generalizing line column with
  | nil => simp [fillLines]
  | cons word rest ih =>
    unfold fillLines
    split
    · simp [ih]
    · split
      · rename_i empty
        simp [ih, List.isEmpty_iff.mp empty]
      · simp [ih]

/-- A line that is broken between its words loses no character. -/
theorem flatten_fillLines_words (width : Nat) (line : List Char) :
    (fillLines width [] 0 (words line)).flatten = line := by
  simp [flatten_fillLines, words, flatten_wordsFrom]

end OpenResponse
