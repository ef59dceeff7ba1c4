import OpenResponse.Proofs.Source.Grouping

/-!
# Comments in front of a text

A comment is a single piece, and so is a run of blanks.  In front of a text they open no group and
begin no item: whatever stands behind them, a comment is a sibling of its own, blanks are none, and
the rest is read as if it began where it stands.  So texts of comments can be put together, and the
documentation in them is known from their parts.

The reader groups pieces with a stack and looks for siblings in the trees that come out, so what
stands in front has to be carried through both.  A single piece at the front is the last element of
the stack of finished trees, where grouping never looks, and a comment is a sibling by itself, with
nothing behind it that could change that.

## Main definitions

* `Documents` — a text of comments, with the documentation in it

## Main statements

* `itemsFrom_append_of_isGap`, `itemsFrom_comment` — blanks and a comment in front of a text
* `Documents.append`, `Documents.line`, `Documents.block` — texts of comments

## Design notes

`Documents` quantifies over what stands behind the text.  A line comment is ended by the line break
that is part of the text, and a block comment by its mark, so that nothing behind can become a part
of either; this is what allows texts to be put together without looking at them again.

A comment is located where it begins, but its documentation does not depend on that.  Hence the
location is only bound inside of the definition, and the documentation is the same for all.
-/

namespace OpenResponse

namespace Source

/-! ### Comments in front of a text

The lemmas go inside out: a tree in front of others while groups are open, a piece in front of
others, and a run of characters that is cut as one piece. -/

private theorem itemsFrom_nil (here : Location) : itemsFrom here [] = [] := by
  rw [itemsFrom, pieces]
  rfl

private theorem openPieces_concat (outer : List (Piece × List Tree)) (opening : Piece)
    (before done : List Tree) (first : Tree) :
    openPieces (outer ++ [(opening, before ++ [first])]) done =
      first :: openPieces (outer ++ [(opening, before)]) done := by
  induction outer generalizing done with
  | nil => simp [openPieces]
  | cons group outer ih => exact ih _

/-- A tree in front of all others stays there, whichever groups are open. -/
theorem groupPieces_concat (first : Tree) (rest : List Piece) :
    (∀ done, groupPieces [] (done ++ [first]) rest = first :: groupPieces [] done rest) ∧
      ∀ outer opening before done,
        groupPieces (outer ++ [(opening, before ++ [first])]) done rest =
          first :: groupPieces (outer ++ [(opening, before)]) done rest := by
  induction rest with
  | nil =>
    refine ⟨fun done => by simp [groupPieces, openPieces], fun outer opening before done => ?_⟩
    simp only [groupPieces]
    exact openPieces_concat outer opening before done first
  | cons piece rest ih =>
    obtain ⟨flat, nested⟩ := ih
    constructor
    · intro done
      cases kind : piece.kind with
      | opening => simpa [groupPieces, kind] using nested [] piece done []
      | _ => simpa [groupPieces, kind] using flat (.single piece :: done)
    · intro outer opening before done
      cases kind : piece.kind with
      | opening => simpa [groupPieces, kind] using nested ((piece, done) :: outer) opening before []
      | closing =>
        cases outer with
        | nil => simpa [groupPieces, kind] using flat (.group opening done.reverse piece :: before)
        | cons group outer =>
          simpa [groupPieces, kind] using
            nested outer opening before (.group group.1 done.reverse piece :: group.2)
      | _ => simpa [groupPieces, kind] using nested outer opening before (.single piece :: done)

private theorem trees_cons_of_isTrivia {piece : Piece} (isTrivia : piece.isTrivia = true)
    (rest : List Piece) : trees (piece :: rest) = .single piece :: trees rest := by
  have pushed : trees (piece :: rest) = groupPieces [] ([] ++ [.single piece]) rest := by
    cases kind : piece.kind <;>
      simp_all [Piece.isTrivia, Piece.isComment, trees, groupPieces]
  rw [pushed, (groupPieces_concat _ rest).1, trees]

/-- A comment in front is a sibling, and blanks in front are none. -/
theorem itemsFrom_of_pieces {here there : Location} {text rest : List Char} {piece : Piece}
    (cut : pieces here text = piece :: pieces there rest) (isTrivia : piece.isTrivia = true) :
    itemsFrom here text =
      (if piece.isComment then [.comment piece] else []) ++ itemsFrom there rest := by
  have deep (trees : List Tree) : Tree.depths (.single piece :: trees) = Tree.depths trees := by
    rw [Tree.depths, Tree.depth, Nat.zero_max]
  rw [itemsFrom, cut, trees_cons_of_isTrivia isTrivia, deep, itemsFrom]
  obtain ⟨read, reads⟩ := exists_readInner (Tree.depths (trees (pieces there rest)))
  rw [reads, reads, siblings, readSibling, Tree.piece?]
  cases isComment : piece.isComment <;> simp [isComment, isTrivia, readInner]

private theorem pieces_of_pieceExtent {c : Char} {taken rest : List Char} {kind : PieceKind}
    (extent : pieceExtent c (taken ++ rest) = (kind, taken.length)) (here : Location) :
    pieces here (c :: (taken ++ rest)) =
      ⟨kind, c :: taken, here⟩ :: pieces (here.behindBytes (c :: taken)) rest := by
  rw [pieces, extent]
  simp only [List.take_left, List.drop_left]

/-- Blanks in front of a text only move it. -/
theorem itemsFrom_blanks (here : Location) (text : List Char) :
    itemsFrom here text =
      itemsFrom (here.behindBytes (text.takeWhile isGap)) (text.dropWhile isGap) := by
  cases text with
  | nil => rfl
  | cons c rest =>
    cases gap : isGap c with
    | false =>
      rw [List.takeWhile_cons_of_neg (by simp [gap]), List.dropWhile_cons_of_neg (by simp [gap])]
      rfl
    | true =>
      have extent : pieceExtent c (rest.takeWhile isGap ++ rest.dropWhile isGap) =
          (.blank, (rest.takeWhile isGap).length) := by
        rw [List.takeWhile_append_dropWhile, pieceExtent, if_pos gap]
      have cut := pieces_of_pieceExtent extent here
      rw [List.takeWhile_append_dropWhile] at cut
      rw [itemsFrom_of_pieces cut rfl, List.takeWhile_cons_of_pos gap,
        List.dropWhile_cons_of_pos gap]
      rfl

private theorem itemsFrom_gap
    (here : Location) {c : Char} (gap : isGap c = true) (rest : List Char) :
    itemsFrom here (c :: rest) = itemsFrom (here.nextByte c) rest := by
  rw [itemsFrom_blanks, itemsFrom_blanks (here.nextByte c), List.takeWhile_cons_of_pos gap,
    List.dropWhile_cons_of_pos gap]
  rfl

/-- Blanks in front of any text only move it.  No hypothesis is needed on `rest`: a gap ends at the
first character that is none. -/
theorem itemsFrom_append_of_isGap {gaps : List Char} (blank : ∀ c ∈ gaps, isGap c = true)
    (here : Location) (rest : List Char) :
    itemsFrom here (gaps ++ rest) = itemsFrom (here.behindBytes gaps) rest := by
  induction gaps generalizing here with
  | nil => rfl
  | cons c gaps ih =>
    obtain ⟨first, others⟩ := List.forall_mem_cons.mp blank
    rw [List.cons_append, itemsFrom_gap here first, ih others]
    rfl

/-- A comment in front of a text is its first sibling.  Only how far the piece extends is asked for,
so it serves for both sorts of comments. -/
theorem itemsFrom_comment {c : Char} {taken rest : List Char} {kind : PieceKind}
    (extent : pieceExtent c (taken ++ rest) = (kind, taken.length))
    (isComment : kind = .lineComment ∨ kind = .blockComment) (here : Location) :
    itemsFrom here (c :: (taken ++ rest)) =
      .comment ⟨kind, c :: taken, here⟩ :: itemsFrom (here.behindBytes (c :: taken)) rest := by
  have cut := pieces_of_pieceExtent extent here
  rcases isComment with rfl | rfl <;> exact itemsFrom_of_pieces cut rfl

/-- A block comment without slashes in it goes on to where it is closed. -/
theorem blockRest_append {body : List Char} (noSlash : '/' ∉ body) (rest : List Char) :
    blockRest 0 (body ++ '*' :: '/' :: rest) = body.length + 2 := by
  induction body with
  | nil => rfl
  | cons c body ih =>
    obtain ⟨notSlash, noSlash⟩ := List.ne_and_not_mem_of_not_mem_cons noSlash
    have closesLater : ∀ tail, body ++ '*' :: '/' :: rest ≠ '/' :: tail := by
      intro tail same
      cases body with
      | nil => cases same
      | cons d body => exact noSlash (by rw [(List.cons.inj same).1]; exact List.mem_cons_self)
    have step : blockRest 0 (c :: (body ++ '*' :: '/' :: rest)) =
        1 + blockRest 0 (body ++ '*' :: '/' :: rest) :=
      blockRest.eq_4 0 c _ (fun _ isSlash _ => notSlash isSlash.symm)
        (fun tail _ _ same => closesLater tail same) (fun _ _ isZero _ _ => nomatch isZero)
    rw [List.cons_append, step, ih noSlash, List.length_cons]
    omega

/-! ### Texts of comments

A constructor for each form, and laws for putting texts one behind the other.  The proofs of the
forms only have to say how long a piece is. -/

/-- A text of comments and blanks, and the documentation in it.  Whatever stands behind the text,
the comments are siblings in front of what is read there, and their documentation does not depend on
where the text begins. -/
def Documents (text : List Char) (docs : List String) : Prop :=
  ∀ here, ∃ comments : List Piece, comments.filterMap docLine? = docs ∧
    ∀ rest, itemsFrom here (text ++ rest) =
      comments.map .comment ++ itemsFrom (here.behindBytes text) rest

namespace Documents

variable {text other body : List Char} {docs more : List String}

/-- The empty text has no documentation. -/
theorem nil : Documents [] [] := fun _ => ⟨[], rfl, fun _ => rfl⟩

/-- A text of comments holds nothing else. -/
theorem exists_comments (documents : Documents text docs) (here : Location) :
    ∃ comments : List Piece, comments.filterMap docLine? = docs ∧
      itemsFrom here text = comments.map .comment ∧
      ∀ rest, itemsFrom here (text ++ rest) =
        comments.map .comment ++ itemsFrom (here.behindBytes text) rest := by
  obtain ⟨comments, read, reads⟩ := documents here
  have whole := reads []
  rw [List.append_nil, itemsFrom_nil, List.append_nil] at whole
  exact ⟨comments, read, whole, reads⟩

/-- Of two texts the documentation is that of the first and then that of the second. -/
theorem append (documents : Documents text docs) (also : Documents other more) :
    Documents (text ++ other) (docs ++ more) := by
  intro here
  obtain ⟨first, docs, reads⟩ := documents here
  obtain ⟨second, more, alsoReads⟩ := also (here.behindBytes text)
  refine ⟨first ++ second, by rw [List.filterMap_append, docs, more], fun rest => ?_⟩
  rw [List.append_assoc, reads, alsoReads, List.map_append, List.append_assoc,
    Location.behindBytes_append]

/-- So it is of many texts. -/
theorem flatMap {α : Type} {texts : α → List Char} {docs : α → List String} {parts : List α}
    (each : ∀ part ∈ parts, Documents (texts part) (docs part)) :
    Documents (parts.flatMap texts) (parts.flatMap docs) := by
  induction parts with
  | nil => exact nil
  | cons part parts ih =>
    obtain ⟨first, later⟩ := List.forall_mem_cons.mp each
    exact first.append (ih later)

/-- Blanks document nothing. -/
theorem blanks (blank : ∀ c ∈ text, isGap c = true) : Documents text [] :=
  fun here => ⟨[], rfl, itemsFrom_append_of_isGap blank here⟩

/-- A comment, with blanks behind it by which it may be ended. -/
theorem comment {c : Char} {taken closing : List Char} {kind : PieceKind}
    (isComment : kind = .lineComment ∨ kind = .blockComment)
    (extent : ∀ rest, pieceExtent c (taken ++ (closing ++ rest)) = (kind, taken.length))
    (blank : ∀ c ∈ closing, isGap c = true) :
    Documents (c :: (taken ++ closing)) (docLine? ⟨kind, c :: taken, .start⟩).toList := by
  intro here
  refine ⟨[⟨kind, c :: taken, here⟩], ?_, fun rest => ?_⟩
  · -- where a comment stands does not matter
    have moved : docLine? ⟨kind, c :: taken, here⟩ = docLine? ⟨kind, c :: taken, .start⟩ := rfl
    rw [List.filterMap_cons, List.filterMap_nil, moved]
    cases docLine? ⟨kind, c :: taken, .start⟩ <;> rfl
  · have behind : here.behindBytes (c :: (taken ++ closing)) =
        (here.behindBytes (c :: taken)).behindBytes closing :=
      here.behindBytes_append (c :: taken) closing
    rw [List.cons_append, List.append_assoc, itemsFrom_comment (extent rest) isComment,
      itemsFrom_append_of_isGap blank, behind]
    rfl

/-- A line comment, with the line break behind it.  It documents something exactly if it has one of
the marks for that, which `lineDoc?` looks for. -/
theorem line (unbroken : '\n' ∉ body) :
    Documents ('/' :: '/' :: (body ++ ['\n'])) (lineDoc? ('/' :: '/' :: body)).toList := by
  have inLine : ∀ c ∈ '/' :: body, (c != '\n') = true := by
    rw [List.forall_mem_cons]
    exact ⟨rfl, fun c listed => bne_iff_ne.mpr fun isBreak => unbroken (isBreak ▸ listed)⟩
  have extent (rest : List Char) : pieceExtent '/' (('/' :: body) ++ (['\n'] ++ rest)) =
      (.lineComment, ('/' :: body).length) := by
    rw [pieceExtent, if_neg (by decide), if_pos ⟨rfl, rfl⟩, List.takeWhile_append_of_pos inLine,
      List.singleton_append, List.takeWhile_cons_of_neg (by decide), List.append_nil]
  exact comment (.inl rfl) extent (List.forall_mem_singleton.mpr (by decide))

/-- A block comment.  Without a slash inside it can neither end early nor hold another comment. -/
theorem block (noSlash : '/' ∉ body) :
    Documents ('/' :: '*' :: (body ++ ['*', '/']))
      (blockDoc? ('/' :: '*' :: (body ++ ['*', '/']))).toList := by
  have extent (rest : List Char) : pieceExtent '/' (('*' :: (body ++ ['*', '/'])) ++ ([] ++ rest)) =
      (.blockComment, ('*' :: (body ++ ['*', '/'])).length) := by
    rw [pieceExtent, if_neg (by decide), if_neg (by simp), if_pos ⟨rfl, rfl⟩]
    have closed := blockRest_append noSlash rest
    simp [closed, Nat.add_comm]
  have whole := comment (.inr rfl) extent (List.forall_mem_nil _)
  rwa [List.append_nil] at whole

end Documents

end Source

end OpenResponse
