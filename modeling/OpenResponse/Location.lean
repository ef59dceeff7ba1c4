/-!
# Source locations

A location is a line and a column.  Reading a character moves it: a line feed begins the next line
at its first column, and any other character moves one column on.  Texts that are measured in bytes
move the column by the length of the character's encoding instead.

A location is moved and never computed from a text as a whole, so the location of a token in a text
that is part of another is the location of the part, moved.  The two ways to move differ in
characters beyond ASCII only.

## Main definitions

* `Location`: a line and a column.
* `Location.behind`: the location behind a text, counted in characters.
* `Location.behindBytes`: the location behind a text, counted in bytes.

## Design notes

Only the line feed begins a line.  A carriage return is a character like any other, and is counted
in the column.

Lines and columns are natural numbers without a bound from below, since the location that a text
begins at is given by the caller.
-/

namespace OpenResponse

/-- A place in a text: a line and a column, both counted from one in a text of its own. -/
structure Location where
  /-- The line. -/
  line : Nat
  /-- The column in that line. -/
  column : Nat
deriving DecidableEq, Repr, Inhabited

namespace Location

/-- The location of the first character of a text of its own. -/
def start : Location := ⟨1, 1⟩

/-- The location behind one character. -/
def next (here : Location) (c : Char) : Location :=
  if c = '\n' then ⟨here.line + 1, 1⟩ else ⟨here.line, here.column + 1⟩

/-- The location behind a text.  It is the place where the text behind it begins. -/
def behind (here : Location) (text : List Char) : Location := text.foldl next here

/-- The location behind one character in a text whose columns count bytes. -/
def nextByte (here : Location) (c : Char) : Location :=
  if c = '\n' then ⟨here.line + 1, 1⟩ else ⟨here.line, here.column + c.utf8Size⟩

/-- The location behind a text whose columns count bytes.  It is used for places in whole files,
while the places in an attribute are counted in characters. -/
def behindBytes (here : Location) (text : List Char) : Location := text.foldl nextByte here

/-- A location as it is written: line, colon, column. -/
def text (here : Location) : String := Nat.repr here.line ++ ":" ++ Nat.repr here.column

@[simp]
theorem behind_nil (here : Location) : here.behind [] = here := rfl

@[simp]
theorem behind_cons (here : Location) (c : Char) (text : List Char) :
    here.behind (c :: text) = (here.next c).behind text := rfl

/-- A text may be read in two parts. -/
theorem behind_append (here : Location) (first second : List Char) :
    here.behind (first ++ second) = (here.behind first).behind second :=
  List.foldl_append ..

/-- A text whose columns count bytes may be read in two parts. -/
theorem behindBytes_append (here : Location) (first second : List Char) :
    here.behindBytes (first ++ second) = (here.behindBytes first).behindBytes second :=
  List.foldl_append ..

end Location

end OpenResponse
