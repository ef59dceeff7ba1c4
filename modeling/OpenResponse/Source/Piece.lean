import OpenResponse.Location
import OpenResponse.Text.Blank

/-!
# Pieces of a source

A Rust source is cut into pieces without losing a character: blanks, comments, words, literals,
brackets and single marks.  Only as much of the language is looked at as is needed to tell where
strings and comments end, so that brackets and commas in them are not taken for others.

Cutting needs no grammar.  What a character begins depends on it and on the few characters behind
it: two slashes begin a comment, a quote a literal, a letter a word, unless the word is one of the
marks of a raw literal and a quote or a hash mark follows.  Whatever is none of these is a mark of
its own, so that every text can be cut, be it a program or not.

## Main definitions

* `PieceKind`, `Piece`: a piece with its text and its place.
* `pieceExtent`: the kind and the length of the piece that a text begins with.
* `pieces`: the pieces of a text.

## Design notes

Columns count bytes here, while tokens of attributes count characters: an attribute is located by
the source that it stands in, and its arguments are read as a text of their own.

A byte order mark counts as a gap.  Numbers are cut like words, so a point between digits is a mark
between two words; nothing that is read of a source depends on it.
-/

namespace OpenResponse

namespace Source

/-- The kinds of pieces. -/
inductive PieceKind
  | blank
  | lineComment
  | blockComment
  /-- A name, a keyword, a lifetime or a number. -/
  | word
  /-- A string or character literal. -/
  | literal
  | opening
  | closing
  | mark
deriving DecidableEq, Repr, Inhabited

/-- A piece of a source.  Its column counts bytes. -/
structure Piece where
  /-- What the piece is. -/
  kind : PieceKind
  /-- Its text. -/
  text : List Char
  /-- Where it begins. -/
  location : Location
deriving DecidableEq, Repr, Inhabited

namespace Piece

/-- Whether a piece is a given word. -/
def isWord (piece : Piece) (word : String) : Bool :=
  piece.kind == .word && piece.text == word.toList

/-- Whether a piece is a given mark. -/
def isMark (piece : Piece) (mark : Char) : Bool := piece.kind == .mark && piece.text == [mark]

/-- Whether a piece is a comment. -/
def isComment (piece : Piece) : Bool := piece.kind == .lineComment || piece.kind == .blockComment

/-- Whether a piece only stands between others. -/
def isTrivia (piece : Piece) : Bool := piece.kind == .blank || piece.isComment

end Piece

/-- Whether a character only stands between words: a blank, or the byte order mark that a source may
begin with. -/
def isGap (c : Char) : Bool := isBlank c || c.toNat == 0xfeff

/-- Whether a character may stand in a word.  Outside strings and comments every character beyond
ASCII that is no gap belongs to a word. -/
def inWord (c : Char) : Bool := c.isAlphanum || c == '_' || (128 ≤ c.toNat && !isGap c)

/-- The length of the word that a text begins with. -/
def wordRun (text : List Char) : Nat := (text.takeWhile inWord).length

/-- The length of the rest of a block comment.  `depth` comments are open inside the outermost
one. -/
def blockRest : Nat → List Char → Nat
  | depth, '/' :: '*' :: rest => 2 + blockRest (depth + 1) rest
  | 0, '*' :: '/' :: _ => 2
  | depth + 1, '*' :: '/' :: rest => 2 + blockRest depth rest
  | depth, _ :: rest => 1 + blockRest depth rest
  | _, [] => 0

/-- The length of the rest of a literal with escapes, its closing quote included. -/
def quotedRest (quote : Char) : List Char → Nat
  | [] => 0
  | [_] => 1
  | '\\' :: _ :: rest => 2 + quotedRest quote rest
  | c :: rest => if c = quote then 1 else 1 + quotedRest quote rest

/-- The length of the rest of a raw string behind its opening quote, its closing quote and hash
marks included. -/
def rawRest (hashes : Nat) : List Char → Nat
  | [] => 0
  | c :: rest =>
    if c = '"' ∧ (List.replicate hashes '#').isPrefixOf rest then 1 + hashes
    else 1 + rawRest hashes rest

/-- The length of a raw string behind its letters, if one follows. -/
def rawString? (text : List Char) : Option Nat :=
  let hashes := (text.takeWhile (· == '#')).length
  match text.drop hashes with
  | '"' :: rest => some (hashes + 1 + rawRest hashes rest)
  | _ => none

/-- The kind and the length of what an apostrophe begins: a character literal or a lifetime. -/
def apostropheRest (rest : List Char) : PieceKind × Nat :=
  match rest with
  | '\\' :: _ :: more => (.literal, 2 + quotedRest '\'' more)
  | _ :: '\'' :: _ => (.literal, 2)
  | _ => (.word, wordRun rest)

/-- The kind and the length of what follows a word that may begin a literal, a raw name, or
neither. -/
def afterWord (word rest : List Char) : PieceKind × Nat :=
  let isRaw := word == ['r'] || word == ['b', 'r'] || word == ['c', 'r']
  match (if isRaw then rawString? rest else none), rest with
  | some length, _ => (.literal, length)
  | none, '"' :: more =>
    if word == ['b'] || word == ['c'] then (.literal, 1 + quotedRest '"' more) else (.word, 0)
  | none, '\'' :: more =>
    if word == ['b'] then
      let (kind, length) := apostropheRest more
      (kind, 1 + length)
    else (.word, 0)
  | none, '#' :: more => if word == ['r'] then (.word, 1 + wordRun more) else (.word, 0)
  | none, _ => (.word, 0)

/-- The kind of the piece that a text begins with, and the number of characters that it takes behind
the first one. -/
def pieceExtent (c : Char) (rest : List Char) : PieceKind × Nat :=
  if isGap c then (.blank, (rest.takeWhile isGap).length)
  else if c = '/' ∧ rest.head? = some '/' then
    (.lineComment, (rest.takeWhile (· != '\n')).length)
  else if c = '/' ∧ rest.head? = some '*' then (.blockComment, 1 + blockRest 0 (rest.drop 1))
  else if c = '"' then (.literal, quotedRest '"' rest)
  else if c = '\'' then apostropheRest rest
  else if inWord c then
    let word := rest.takeWhile inWord
    let (kind, length) := afterWord (c :: word) (rest.drop word.length)
    (kind, word.length + length)
  else if c = '(' ∨ c = '[' ∨ c = '{' then (.opening, 0)
  else if c = ')' ∨ c = ']' ∨ c = '}' then (.closing, 0)
  else (.mark, 0)

/-- The pieces of a text that begins at `here`. -/
def pieces (here : Location) (text : List Char) : List Piece :=
  match text with
  | [] => []
  | c :: rest =>
    let (kind, more) := pieceExtent c rest
    let taken := c :: rest.take more
    ⟨kind, taken, here⟩ :: pieces (here.behindBytes taken) (rest.drop more)
termination_by text.length
decreasing_by
  simp only [List.length_cons, List.length_drop]
  omega

/-- No character of a source is lost. -/
theorem flatMap_text_pieces (here : Location) (text : List Char) :
    (pieces here text).flatMap Piece.text = text := by
  fun_induction pieces here text with
  | case1 => rfl
  | case2 here c rest kind more h taken ih =>
    simp [ih, taken, List.take_append_drop]

end Source

end OpenResponse
