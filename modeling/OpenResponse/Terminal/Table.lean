import OpenResponse.Terminal.Line

/-!
# Tables

A table is drawn with a heavy box around its header and a light one around its rows.  Every cell has
a blank on either side.  Columns are as wide as their widest cell; where the table would be wider
than the terminal, the widest columns give way first.

The widths are computed before anything is drawn, from the widest lines of the cells.  A table that
is too wide gives up what it has too much in the widest columns first, round by round, until they
are as narrow as the next ones.

## Main definitions

* `Table`: a header and rows.
* `Table.widths`: the widths of the columns.
* `Table.text`: the table as it is drawn.

## Design notes

In a round the columns of the greatest width share the excess as evenly as whole cells allow, with
the rounding of halves to the even number, and no column gets narrower than the second greatest
width.  The number of rounds is a bound for the recursion, and is large enough because each round
takes a cell away.

Cells are wrapped in their column, and a row is as high as its highest cell.
-/

namespace OpenResponse

/-- A header and rows with as many cells. -/
structure Table where
  /-- The header. -/
  header : List String
  /-- The rows. -/
  rows : List (List String)
deriving Repr

namespace Table

/-- The cells between the text of a cell and its borders, on both sides together. -/
def padding : Nat := 2

/-- The cells that the longest line of a text takes. -/
def textWidth (text : List Char) : Nat := ((splitLines text).map cellCount).foldl max 0

/-- The cells that a list of columns has room for, less the borders. -/
def room (columns : Nat) : Nat := terminalWidth - (columns + 1)

/-- The width that a cell asks for. -/
def askedWidth (available : Nat) (cell : String) : Nat :=
  min (textWidth (visible cell.toList) + padding) available

/-- The larger of two numbers at each place; a missing number is no number. -/
def maxEach : List Nat → List Nat → List Nat
  | [], others => others
  | widths, [] => widths
  | width :: widths, other :: others => max width other :: maxEach widths others

/-- A quotient rounded to the nearest number, halves to the even one. -/
def roundedQuotient (n d : Nat) : Nat :=
  let quotient := n / d
  let rest := n % d
  if 2 * rest < d || (2 * rest == d && quotient % 2 == 0) then quotient else quotient + 1

/-- Take an excess off the columns of the greatest width, at most `most` off each; `sharers` of them
are left to share it.  What one of them takes is rounded, and the others share what is then left. -/
def takeOff (greatest most : Nat) (excess sharers : Nat) : List Nat → List Nat
  | [] => []
  | width :: rest =>
    if width = greatest ∧ sharers ≠ 0 then
      let share := min most (roundedQuotient excess sharers)
      (width - share) :: takeOff greatest most (excess - share) (sharers - 1) rest
    else width :: takeOff greatest most excess sharers rest

/-- Narrow the widest columns until the columns fit.  Every round makes the columns narrower, so
that `rounds` need not be more than all of their cells. -/
def narrowed (available : Nat) (rounds : Nat) (widths : List Nat) : List Nat :=
  match rounds with
  | 0 => widths
  | rounds + 1 =>
    let excess := widths.foldl (· + ·) 0 - available
    if excess = 0 then widths
    else
      let greatest := widths.foldl max 0
      let second := (widths.filter (· != greatest)).foldl max 0
      let sharers := (widths.filter (· == greatest)).length
      let most := min excess (greatest - second)
      if most = 0 then widths
      else narrowed available rounds (takeOff greatest most excess sharers widths)

/-- The widths of the columns with their padding. -/
def widths (table : Table) : List Nat :=
  let available := room table.header.length
  let asked := ((table.header :: table.rows).map fun row =>
    row.map (askedWidth available)).foldl maxEach []
  narrowed available (asked.foldl (· + ·) 0) asked

/-- A line between rows: its left end, what stands between columns, and its right end. -/
def rule (left line middle right : Char) (widths : List Nat) : List Char :=
  left :: (joinWith middle (widths.map (List.replicate · line)) ++ [right])

/-- The line at a place in every cell, blank where a cell has fewer lines, between borders. -/
def rowLine (border : Char) (place : Nat) (cells : List (Nat × List (List Char))) : List Char :=
  border :: (joinWith border (cells.map fun (width, lines) =>
    match lines[place]? with
    | some line => ' ' :: (line ++ [' '])
    | none => List.replicate width ' ') ++ [border])

/-- A row, in as many lines as its highest cell needs. -/
def rowLines (border : Char) (widths : List Nat) (row : List String) : List (List Char) :=
  let cells := (widths.zip row).map fun (width, cell) =>
    (width, wrapped (width - padding) cell.toList)
  let height := (cells.map (·.2.length)).foldl max 1
  (List.range height).map (rowLine border · cells)

/-- The lines of a table. -/
def lines (table : Table) : List (List Char) :=
  let widths := table.widths
  rule '┏' '━' '┳' '┓' widths :: (rowLines '┃' widths table.header ++
    rule '┡' '━' '╇' '┩' widths :: (table.rows.flatMap (rowLines '│' widths) ++
      [rule '└' '─' '┴' '┘' widths]))

/-- A table as it is drawn. -/
def text (table : Table) : String :=
  String.ofList (table.lines.flatMap (· ++ ['\n']))

end Table

end OpenResponse
