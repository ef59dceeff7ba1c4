import OpenResponse.Proofs.Source.Places
import OpenResponse.Proofs.Source.Readers

/-!
# Grouped pieces

Brackets group the pieces of a source, but no piece is lost, added or moved.  So a declaration, at
whatever depth of modules it stands, is read from pieces of the source; what is known of every piece
is known of what is declared.

In particular the name of a declaration is a word of the source.  Words are cut at the characters
that separate types in a text, which is why no name reads like a type with arguments.

The brackets need not match.  A bracket that closes nothing stays a piece, and a group that is never
closed is no group but the pieces it would have had, so the law holds of every text and not only of
texts that are well formed.

## Main definitions

* `Tree.yield`, `Tree.yields` — the pieces of trees
* `IsWordText` — texts that a word can have

## Main statements

* `yields_trees` — grouping keeps the pieces
* `DeclaredAt.readAmong` — every declaration is read from pieces of the source
* `exists_read_of_mem` — so is every declaration that is extracted
* `isWordText_name` — the name of a declaration is a word

## Design notes

`yield` undoes grouping.  The invariant of grouping is an equation between all the pieces there are:
those of the groups that are open, those of the trees that are done, and those still to come.  Each
step moves one piece from the last to one of the others, and at the end nothing is open and nothing
is to come.

Modules are read with a budget that bounds their depth.  The depth of the trees is enough of it; the
laws hold for every budget, so this need not be known here.  `exists_readInner` states the two cases
of the budget as one, with the reader of the modules inside as a parameter.
-/

namespace OpenResponse

namespace Source

/-! ### Pieces of trees

The pieces of a tree are listed in the order of the text, brackets included.  What is a part of
trees has some of their pieces. -/

namespace Tree

mutual

/-- The pieces of a tree, from left to right.  A group yields its delimiters too, so nothing of the
text is lost in trees. -/
def yield : Tree → List Piece
  | .single piece => [piece]
  | .group opening inner closing => opening :: (yields inner ++ [closing])

/-- The pieces of some trees, from left to right.  It is a function of its own because trees are
nested in lists. -/
def yields : List Tree → List Piece
  | [] => []
  | tree :: rest => yield tree ++ yields rest

end

/-- The pieces of trees are listed one tree after the other. -/
theorem yields_append (first second : List Tree) :
    yields (first ++ second) = yields first ++ yields second := by
  induction first with
  | nil => rfl
  | cons tree first ih => rw [List.cons_append, yields, ih, yields, List.append_assoc]

private theorem yields_concat (trees : List Tree) (tree : Tree) :
    yields (trees ++ [tree]) = yields trees ++ yield tree := by
  rw [yields_append, yields, yields, List.append_nil]

/-- Fewer trees have fewer pieces. -/
theorem yields_subset_of_suffix {part trees : List Tree} (suffix : part <:+ trees) :
    yields part ⊆ yields trees := by
  obtain ⟨front, rfl⟩ := suffix
  rw [yields_append]
  exact List.subset_append_right _ _

/-- The pieces between the brackets of a group are pieces of the group. -/
theorem yields_inner_subset (tree : Tree) : yields tree.inner ⊆ yield tree := by
  cases tree with
  | single piece => exact List.nil_subset _
  | group opening inner closing =>
    exact fun piece listed => List.mem_cons_of_mem _ (List.mem_append_left _ listed)

private theorem yield_subset_yields {tree : Tree} {trees : List Tree} (listed : tree ∈ trees) :
    yield tree ⊆ yields trees := by
  obtain ⟨before, after, rfl⟩ := List.append_of_mem listed
  rw [yields_append, yields]
  exact fun piece inside => List.mem_append_right _ (List.mem_append_left _ inside)

end Tree

open Source.Tree (yield yields)

/-! ### Grouping

The stack of groups has the innermost one at its head.  With each group it keeps the trees in front
of its bracket, in reverse, as they were pushed. -/

/-- The pieces that are read while groups are open: those before each group, and its bracket. -/
def openYields : List (Piece × List Tree) → List Piece
  | [] => []
  | (opening, before) :: outer => openYields outer ++ (yields before.reverse ++ [opening])

private theorem yields_openPieces (outer : List (Piece × List Tree)) (done : List Tree) :
    yields (openPieces outer done) = openYields outer ++ yields done.reverse := by
  fun_induction openPieces outer done with
  | case1 => rfl
  | case2 opening before outer done ih =>
    rw [ih, openYields, List.reverse_append, List.reverse_cons, Tree.yields_append,
      Tree.yields_concat, yield]
    simp only [List.append_assoc]

/-- What is open, what is done and what is to come are all the pieces, at every step. -/
theorem yields_groupPieces (outer : List (Piece × List Tree)) (done : List Tree)
    (pieces : List Piece) :
    yields (groupPieces outer done pieces) =
      openYields outer ++ (yields done.reverse ++ pieces) := by
  fun_induction groupPieces outer done pieces with
  | case1 outer done => rw [yields_openPieces, List.append_nil]
  | case2 outer done piece rest _ ih =>
    rw [ih, openYields, List.reverse_nil, yields]
    simp only [List.append_assoc, List.nil_append, List.singleton_append]
  | case3 done piece rest opening before outer _ ih =>
    rw [ih, openYields, List.reverse_cons, Tree.yields_concat, yield]
    simp only [List.append_assoc, List.cons_append, List.nil_append]
  | case4 outer done piece rest _ _ ih =>
    rw [ih, List.reverse_cons, Tree.yields_concat, yield]
    simp only [List.append_assoc, List.singleton_append]

/-- Grouping keeps the pieces, all of them and in their order, whether the brackets match or not. -/
theorem yields_trees (pieces : List Piece) : yields (trees pieces) = pieces := by
  rw [trees, yields_groupPieces]
  rfl

/-! ### Modules

A declaration is read where it stands from a part of the trees there.  By induction on the budget,
that part consists of pieces of the source. -/

/-- The pieces of a module are among those it is read from. -/
theorem yields_subset_of_readModule? {trees inner : List Tree} {taken : Nat}
    (found : readModule? trees = some (inner, taken)) : yields inner ⊆ yields trees := by
  obtain ⟨group, listed, rfl⟩ := exists_group_of_readModule? found
  exact List.Subset.trans (Tree.yields_inner_subset group) (Tree.yield_subset_yields listed)

/-- Whatever the budget, only the way in which the modules among siblings are read depends on it. -/
theorem exists_readInner (budget : Nat) :
    ∃ read, ∀ trees, itemsWithin budget trees = (siblings 0 trees).map (readInner read) := by
  cases budget with
  | zero => exact ⟨_, fun _ => rfl⟩
  | succ budget => exact ⟨_, fun _ => rfl⟩

/-- A declaration is read from some of the pieces of trees. -/
def ReadAmong (trees : List Tree) (source : SourceDeclaration) : Prop :=
  ∃ part taken, yields part ⊆ yields trees ∧ readDeclaration? part = some (source, taken)

/-- What is read among some trees is read among all that have their pieces. -/
theorem ReadAmong.mono {part trees : List Tree} {source : SourceDeclaration}
    (read : ReadAmong part source) (fewer : yields part ⊆ yields trees) :
    ReadAmong trees source := by
  obtain ⟨among, taken, inPart, read⟩ := read
  exact ⟨among, taken, List.Subset.trans inPart fewer, read⟩

/-- What is declared among siblings is read from their trees, if this holds in every module. -/
theorem DeclaredAt.readAmong_map {read : List Tree → List (Sibling Item)}
    (inner : ∀ trees place, DeclaredAt (read trees) place → ReadAmong trees place.source)
    {trees : List Tree} {place : Place}
    (declared : DeclaredAt ((siblings 0 trees).map (readInner read)) place) :
    ReadAmong trees place.source := by
  have entry {item : Item} (listed : .entry item ∈ (siblings 0 trees).map (readInner read)) :
      (∃ source, item = .declaration source ∧ ReadAmong trees source) ∨
        ∃ part, item = .module (read part) ∧ yields part ⊆ yields trees := by
    obtain ⟨sibling, isSibling, same⟩ := List.mem_map.mp listed
    obtain ⟨tree, rest, suffix, begins⟩ := exists_siblingAt isSibling
    have fewer := Tree.yields_subset_of_suffix suffix
    cases begins with
    | declaration isRead =>
      cases same
      exact .inl ⟨_, rfl, tree :: rest, _, fewer, isRead⟩
    | module isRead =>
      cases same
      exact .inr ⟨_, rfl, List.Subset.trans (yields_subset_of_readModule? isRead) fewer⟩
    | comment | attr | other => cases same
  -- the siblings have to be a variable for the cases, and only `entry` is needed of them
  generalize (siblings 0 trees).map (readInner read) = items at declared entry
  cases declared with
  | here before source after =>
    rcases entry (List.mem_append_right _ List.mem_cons_self) with ⟨_, ⟨⟩, isRead⟩ | ⟨_, ⟨⟩, _⟩
    exact isRead
  | inside before after declared =>
    rcases entry (List.mem_append_right _ List.mem_cons_self) with ⟨_, ⟨⟩, _⟩ | ⟨part, same, fewer⟩
    cases same
    exact (inner part _ declared).mono fewer

/-- Every declaration is read from pieces of the source, whatever modules it stands in. -/
theorem DeclaredAt.readAmong {budget : Nat} {trees : List Tree} {place : Place}
    (declared : DeclaredAt (itemsWithin budget trees) place) : ReadAmong trees place.source := by
  induction budget generalizing trees place with
  | zero =>
    rw [itemsWithin] at declared
    refine declared.readAmong_map fun _ place nothing => ?_
    exact absurd (mem_placesFrom.mpr nothing) (List.not_mem_nil (a := place))
  | succ budget ih =>
    rw [itemsWithin] at declared
    exact declared.readAmong_map fun _ _ => ih

/-- The pieces of a source behind the line of its interpreter. -/
def sourcePieces (text : String) : List Piece :=
  let line := interpreterLine text.toList
  pieces (Location.start.behindBytes line) (text.toList.drop line.length)

/-- A declaration that is extracted is one that is read from pieces of the source, with what is
attached to it. -/
theorem exists_read_of_mem {text : String} {declarations : List Declaration}
    (extracted : extractDeclarations text = .ok declarations) {declaration : Declaration}
    (listed : declaration ∈ declarations) :
    ∃ source waiting part taken, declaration = source.attached waiting ∧
      readDeclaration? part = some (source, taken) ∧ yields part ⊆ sourcePieces text := by
  obtain ⟨-, rfl⟩ := (collect_eq_ok [] _ _).mp extracted
  obtain ⟨place, isPlace, rfl⟩ := List.mem_map.mp listed
  obtain ⟨part, taken, fewer, read⟩ := (mem_placesFrom.mp isPlace).readAmong
  rw [yields_trees] at fewer
  exact ⟨place.source, _, part, taken, rfl, read, fewer⟩

/-! ### Names of declarations

A name is one tree, and that tree is a single piece of the kind of words.  So it is enough to look
at how pieces are cut. -/

/-- A text that a word can have: a name or a number, perhaps a raw name or a lifetime. -/
def IsWordText (text : List Char) : Prop := ∀ c ∈ text, inWord c = true ∨ c = '#' ∨ c = '\''

namespace IsWordText

/-- The empty text is a text of words. -/
theorem nil : IsWordText [] := nofun

/-- A character of a word in front. -/
theorem cons {c : Char} {text : List Char} (first : inWord c = true ∨ c = '#' ∨ c = '\'')
    (isWord : IsWordText text) : IsWordText (c :: text) := List.forall_mem_cons.mpr ⟨first, isWord⟩

/-- Two texts of words. -/
theorem append {first second : List Char} (isWord : IsWordText first)
    (alsoIsWord : IsWordText second) : IsWordText (first ++ second) :=
  List.forall_mem_append.mpr ⟨isWord, alsoIsWord⟩

private theorem takeWhile (text : List Char) : IsWordText (text.takeWhile inWord) :=
  fun _ listed => .inl (List.mem_takeWhile_imp listed)

private theorem take_wordRun (text : List Char) : IsWordText (text.take (wordRun text)) := by
  rw [wordRun, ← List.prefix_iff_eq_take.mp (List.takeWhile_prefix inWord)]
  exact takeWhile text

/-- A lifetime is a word. -/
theorem take_apostropheRest {rest : List Char} {more : Nat}
    (found : apostropheRest rest = (.word, more)) : IsWordText (rest.take more) := by
  unfold apostropheRest at found
  split at found
  · cases found
  · cases found
  · cases found
    exact take_wordRun rest

/-- What a word takes behind its letters belongs to a word. -/
theorem take_afterWord {word rest : List Char} {more : Nat}
    (found : afterWord word rest = (.word, more)) : IsWordText (rest.take more) := by
  unfold afterWord at found
  dsimp only at found
  split at found
  next => cases found
  next =>
    split at found
    · cases found
    · cases found
      exact nil
  next =>
    split at found
    next behind _ _ =>
      -- an apostrophe behind a word: what it takes belongs to the word if it is a lifetime
      cases lifetime : apostropheRest behind with
      | mk kind length =>
        rw [lifetime] at found
        cases found
        rw [Nat.add_comm, List.take_succ_cons]
        exact cons (.inr (.inr rfl)) (take_apostropheRest lifetime)
    next =>
      cases found
      exact nil
  next behind _ =>
    split at found
    next =>
      cases found
      rw [Nat.add_comm, List.take_succ_cons]
      exact cons (.inr (.inl rfl)) (take_wordRun behind)
    next =>
      cases found
      exact nil
  next =>
    cases found
    exact nil

private theorem of_pieceExtent {c : Char} {rest : List Char} {more : Nat}
    (found : pieceExtent c rest = (.word, more)) : IsWordText (c :: rest.take more) := by
  unfold pieceExtent at found
  split at found
  · cases found
  · split at found
    · cases found
    · split at found
      · cases found
      · split at found
        · cases found
        · split at found
          next isQuote => exact cons (.inr (.inr isQuote)) (take_apostropheRest found)
          next =>
            split at found
            next isLetter =>
              dsimp only at found
              cases behind : afterWord (c :: rest.takeWhile inWord)
                (rest.drop (rest.takeWhile inWord).length) with
              | mk kind length =>
                rw [behind] at found
                cases found
                rw [List.take_add, ← List.prefix_iff_eq_take.mp (List.takeWhile_prefix inWord)]
                exact cons (.inl isLetter) (append (takeWhile rest) (take_afterWord behind))
            next =>
              split at found
              · cases found
              · split at found <;> cases found

end IsWordText

private theorem isWordText_of_mem_pieces {here : Location} {text : List Char} {piece : Piece}
    (listed : piece ∈ pieces here text) (isWord : piece.kind = .word) :
    IsWordText piece.text := by
  fun_induction pieces here text with
  | case1 => cases listed
  | case2 here c rest kind more extent taken ih =>
    rcases List.mem_cons.mp listed with rfl | later
    · cases isWord
      exact .of_pieceExtent extent
    · exact ih later

/-- No piece is empty. -/
theorem ne_nil_of_mem_pieces {here : Location} {text : List Char} {piece : Piece}
    (listed : piece ∈ pieces here text) : piece.text ≠ [] := by
  fun_induction pieces here text with
  | case1 => cases listed
  | case2 here c rest kind more extent taken ih =>
    rcases List.mem_cons.mp listed with rfl | later
    · exact List.cons_ne_nil _ _
    · exact ih later

/-- The name of a declaration is a word among the pieces that it is read from. -/
theorem name_of_readDeclaration? {trees : List Tree} {source : SourceDeclaration} {taken : Nat}
    (found : readDeclaration? trees = some (source, taken)) :
    ∃ piece ∈ yields trees, piece.kind = .word ∧ source.name = String.ofList piece.text := by
  obtain ⟨-, -, name, -, -, inTrees, isName, -, rfl⟩ := exists_of_readDeclaration? found
  cases name with
  | group => cases isName
  | single piece =>
    refine ⟨piece, Tree.yield_subset_yields inTrees (List.mem_singleton_self piece), ?_, ?_⟩
    · exact eq_of_beq isName
    · simp [textOf, Tree.texts, Tree.text]

section Names

variable {text : String} {declarations : List Declaration} {declaration : Declaration}
  (extracted : extractDeclarations text = .ok declarations) (listed : declaration ∈ declarations)

include extracted listed

/-- The name of a declaration is a word of its source. -/
theorem exists_piece_name : ∃ piece ∈ sourcePieces text, piece.kind = .word ∧
    declaration.name = String.ofList piece.text := by
  obtain ⟨source, waiting, part, taken, rfl, read, among⟩ := exists_read_of_mem extracted listed
  obtain ⟨piece, isPiece, isWord, named⟩ := name_of_readDeclaration? read
  exact ⟨piece, among isPiece, isWord, named⟩

/-- The name of a declaration is a word.  Nothing else is taken for a name, so there are texts, such
as those of types with arguments, that no declaration has for its name. -/
theorem isWordText_name : IsWordText declaration.name.toList := by
  obtain ⟨piece, isPiece, isWord, named⟩ := exists_piece_name extracted listed
  rw [named, String.toList_ofList]
  exact isWordText_of_mem_pieces isPiece isWord

/-- The name of a declaration is not empty, because no piece is. -/
theorem name_ne_empty : declaration.name ≠ "" := by
  obtain ⟨piece, isPiece, -, named⟩ := exists_piece_name extracted listed
  rw [named]
  exact fun empty => ne_nil_of_mem_pieces isPiece (String.ofList_eq_empty_iff.mp empty)

end Names

end Source

end OpenResponse
