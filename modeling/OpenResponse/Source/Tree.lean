import OpenResponse.Source.Piece

/-!
# Bracketed pieces

Brackets group the pieces between them.  A source is a list of trees: single pieces, and groups with
their opening and closing pieces.

Grouping is done once for the whole source, with a stack, so that the readers of items need not look
for the end of anything.  It cannot fail: brackets are not matched with each other but only counted,
as a source that is compiled has matching ones.

## Main definitions

* `Tree`: a piece or a group.
* `trees`: the trees of a list of pieces.
* `Tree.depth`: how deeply groups are nested.
* `core`: a list of trees without the blanks and comments at its ends.

## Design notes

A group ends at any closing bracket, whatever bracket it began with.  A group that does not end is
taken apart again, and its trees stand where the group would have.

Blanks and comments are trees like others.  They matter where attributes wait for a declaration and
for the text of types and arguments, which is kept as it is written.
-/

namespace OpenResponse

namespace Source

/-- A piece, or the trees between two brackets. -/
inductive Tree
  | single (piece : Piece)
  | group (opening : Piece) (inner : List Tree) (closing : Piece)
deriving Repr, Inhabited

/-- The trees at the end of a source.  A group that is still open is none: its opening piece and the
trees behind it stand among the trees before it. -/
def openPieces : List (Piece × List Tree) → List Tree → List Tree
  | [], done => done.reverse
  | (opening, before) :: outer, done => openPieces outer (done ++ .single opening :: before)

/-- Group pieces.  `done` holds the trees of the innermost open group, last first, and `outer` the
open groups around it: their opening pieces and the trees before them. -/
def groupPieces : List (Piece × List Tree) → List Tree → List Piece → List Tree
  | outer, done, [] => openPieces outer done
  | outer, done, piece :: rest =>
    match piece.kind, outer with
    | .opening, _ => groupPieces ((piece, done) :: outer) [] rest
    | .closing, (opening, before) :: outer =>
      groupPieces outer (.group opening done.reverse piece :: before) rest
    | _, _ => groupPieces outer (.single piece :: done) rest

/-- The trees of a list of pieces. -/
def trees (pieces : List Piece) : List Tree := groupPieces [] [] pieces

namespace Tree

mutual

/-- How deeply the groups of a tree are nested. -/
def depth : Tree → Nat
  | .single _ => 0
  | .group _ inner _ => 1 + depths inner

/-- How deeply the groups of some trees are nested. -/
def depths : List Tree → Nat
  | [] => 0
  | tree :: rest => max (depth tree) (depths rest)

end

mutual

/-- The text of a tree. -/
def text : Tree → List Char
  | .single piece => piece.text
  | .group opening inner closing => opening.text ++ (texts inner ++ closing.text)

/-- The text of some trees. -/
def texts : List Tree → List Char
  | [] => []
  | tree :: rest => text tree ++ texts rest

end

/-- Where a tree begins. -/
def location : Tree → Location
  | .single piece => piece.location
  | .group opening _ _ => opening.location

/-- The piece that a tree is, if it is no group. -/
def piece? : Tree → Option Piece
  | .single piece => some piece
  | .group .. => none

/-- Whether a tree only stands between others. -/
def isTrivia : Tree → Bool
  | .single piece => piece.isTrivia
  | .group .. => false

/-- Whether a tree is a given word. -/
def isWord (word : String) : Tree → Bool
  | .single piece => piece.isWord word
  | .group .. => false

/-- Whether a tree is any word. -/
def isAnyWord : Tree → Bool
  | .single piece => piece.kind == .word
  | .group .. => false

/-- Whether a tree is a given mark. -/
def isMark (mark : Char) : Tree → Bool
  | .single piece => piece.isMark mark
  | .group .. => false

/-- Whether a tree is a group that opens with a given bracket. -/
def isGroup (bracket : Char) : Tree → Bool
  | .single _ => false
  | .group opening _ _ => opening.text == [bracket]

/-- The trees between the brackets of a group. -/
def inner : Tree → List Tree
  | .single _ => []
  | .group _ inner _ => inner

end Tree

/-- Trees without the blanks and comments in front of them. -/
def dropTrivia (trees : List Tree) : List Tree := trees.dropWhile Tree.isTrivia

/-- Trees without the blanks and comments at their end. -/
def dropTrailingTrivia (trees : List Tree) : List Tree :=
  (dropTrivia trees.reverse).reverse

/-- Trees without the blanks and comments at either end. -/
def core (trees : List Tree) : List Tree := dropTrailingTrivia (dropTrivia trees)

/-- Trees without any blanks and comments. -/
def solid (trees : List Tree) : List Tree := trees.filter (!·.isTrivia)

end Source

end OpenResponse
