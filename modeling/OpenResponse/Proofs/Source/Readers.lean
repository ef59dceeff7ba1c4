import Mathlib.Data.List.Infix
import OpenResponse.Source.Item

/-!
# What items are read from

The readers of items look for a few trees and pass on what is between them.  For each of them it is
said here, once, which trees it has found when it has read something.

Each law is an inversion: from the fact that a reader has given something to what it has looked at.
The readers have many ways to give nothing, which no later proof has to see.

## Main definitions

* `SiblingAt` — the siblings that begin at a tree

## Main statements

* `keyword?_eq_some`, `exists_of_readDeclaration?` — declarations
* `exists_group_of_readModule?` — modules
* `exists_siblingAt` — every sibling begins at one of the trees

## Design notes

The laws say as little about the trees as is used: that a group is among them, not where it stands,
since the readers that come next do not look at places.  What is said about the result is exact,
because names, locations and attributes are all read off it.

`SiblingAt` is the inversion of the reader of siblings, one constructor for each kind.  The modules
on names, nesting and fields are inductions on what is read; each of them is a case split on this
relation, and none unfolds a reader.
-/

namespace OpenResponse

namespace Source

/-! ### Attributes

Behind a hash mark there may be an exclamation mark, for an attribute of what it stands in.  Such an
attribute is passed over. -/

/-- What a hash mark begins is an attribute between the brackets of a group, or belongs to what it
stands in. -/
theorem eq_of_afterHash? {α : Type} {trees : List Tree} {sibling : Sibling α} {taken : Nat}
    (found : afterHash? trees = some (some sibling, taken)) :
    sibling = .other ∨ ∃ group ∈ trees, ∃ attr, readAttribute? group.inner = some attr ∧
      sibling = .attr attr := by
  unfold afterHash? at found
  dsimp only at found
  split at found
  next first behind isBehind =>
    split at found
    next =>
      simp only [Option.some.injEq, Prod.mk.injEq, Option.map_eq_some_iff] at found
      obtain ⟨⟨attr, read, rfl⟩, -⟩ := found
      exact .inr ⟨first, List.mem_of_mem_drop (isBehind ▸ List.mem_cons_self), attr, read, rfl⟩
    next =>
      split at found
      next =>
        split at found
        next =>
          split at found
          next =>
            cases found
            exact .inl rfl
          next => cases found
        next => cases found
      next => cases found
  next => cases found

/-! ### Declarations

The keyword decides what becomes of the body.  A body is looked for behind the name, past the
parameters of the type and its bounds. -/

/-- A declaration is a struct with the fields of a group, an enum with the variants in a group, or
a union. -/
theorem keyword?_eq_some {word : Tree} {make : Option Tree → SourceBody}
    (found : keyword? word = some make) :
    (make = fun body => .struct ((body.map readFields).getD .none)) ∨
      (make = fun body => .enum ((body.map fun group =>
        (splitCommas false group.inner).flatMap variantOf).getD [])) ∨
      make = fun _ => .union := by
  unfold keyword? at found
  split at found
  next =>
    cases found
    exact .inl rfl
  next =>
    split at found
    next =>
      cases found
      exact .inr (.inl rfl)
    next =>
      split at found
      next =>
        cases found
        exact .inr (.inr rfl)
      next => cases found

/-- The body of a declaration is a group behind its name. -/
theorem mem_of_findBody {depth : Nat} {before : Char} {inWhere : Bool} {trees : List Tree}
    {group : Tree} (found : (findBody depth before inWhere trees).2 = some group) :
    group ∈ trees := by
  fun_induction findBody depth before inWhere trees with
  | case1 => cases found
  | case2 => cases found
  | case3 =>
    cases found
    exact List.mem_cons_self
  | case4 depth before inWhere tree rest mark _ _ closes next count body read ih =>
    rw [read] at ih
    exact List.mem_cons_of_mem tree (ih found)

/-- A declaration is read from its keyword, its name and its body. -/
theorem exists_of_readDeclaration? {trees : List Tree} {source : SourceDeclaration} {taken : Nat}
    (found : readDeclaration? trees = some (source, taken)) :
    ∃ word make name body, keyword? word = some make ∧ name ∈ trees ∧ name.isAnyWord = true ∧
      (∀ group ∈ body, group ∈ trees) ∧
      source = ⟨textOf [name], name.location, make body⟩ := by
  unfold readDeclaration? at found
  dsimp only at found
  split at found
  next word rest isRest =>
    have inTrees {tree : Tree} (inRest : tree ∈ rest) : tree ∈ trees :=
      List.mem_of_mem_drop (isRest ▸ List.mem_cons_of_mem word inRest)
    cases isKeyword : keyword? word with
    | none =>
      rw [isKeyword] at found
      cases found
    | some make =>
      rw [isKeyword] at found
      dsimp only at found
      split at found
      next name behind isBehind =>
        split at found
        next isName =>
          cases found
          refine ⟨word, make, name, _, isKeyword, ?_, (Bool.and_eq_true_iff.mp isName).1, ?_, rfl⟩
          · exact inTrees (List.mem_of_mem_drop (isBehind ▸ List.mem_cons_self))
          · intro group isBody
            have inBehind : group ∈ behind := mem_of_findBody isBody
            exact inTrees (List.mem_of_mem_drop (isBehind ▸ List.mem_cons_of_mem name inBehind))
        next => cases found
      next => cases found
  next => cases found

/-! ### Modules

A module is a word, a name and a group.  One without a group is in another file and is not looked
at. -/

/-- The trees of a module are those between the brackets of a group. -/
theorem exists_group_of_readModule? {trees inner : List Tree} {taken : Nat}
    (found : readModule? trees = some (inner, taken)) : ∃ group ∈ trees, inner = group.inner := by
  unfold readModule? at found
  dsimp only at found
  split at found
  next word rest =>
    split at found
    next =>
      split at found
      next name behind isBehind =>
        split at found
        next group later isLater =>
          split at found
          next =>
            cases found
            have inBehind : group ∈ behind :=
              List.mem_of_mem_drop (isLater ▸ List.mem_cons_self)
            have inRest : group ∈ rest :=
              List.mem_of_mem_drop (isBehind ▸ List.mem_cons_of_mem name inBehind)
            exact ⟨group, List.mem_cons_of_mem word inRest, rfl⟩
          next => cases found
        next => cases found
      next => cases found
    next => cases found
  next => cases found

/-! ### Siblings

Whatever sibling is listed, it was found at a tree with some others behind it, and those are the end
of the trees. -/

/-- A sibling that begins at a tree with others behind it. -/
inductive SiblingAt (tree : Tree) (rest : List Tree) : Sibling Entry → Prop
  | comment {piece : Piece} (isTree : tree = .single piece) (isComment : piece.isComment = true) :
      SiblingAt tree rest (.comment piece)
  | attr {group : Tree} {attr : SourceAttribute} (listed : group ∈ rest)
      (read : readAttribute? group.inner = some attr) : SiblingAt tree rest (.attr attr)
  | declaration {source : SourceDeclaration} {taken : Nat}
      (read : readDeclaration? (tree :: rest) = some (source, taken)) :
      SiblingAt tree rest (.entry (.declaration source))
  | module {inner : List Tree} {taken : Nat}
      (read : readModule? (tree :: rest) = some (inner, taken)) :
      SiblingAt tree rest (.entry (.module inner))
  | other : SiblingAt tree rest .other

private theorem siblingAt_of_readSibling {tree : Tree} {rest : List Tree} {sibling : Sibling Entry}
    {more : Nat} (found : readSibling tree rest = (some sibling, more)) :
    SiblingAt tree rest sibling := by
  -- the cases are those of the reader, in its order: a comment, a hash mark, a declaration, a
  -- module
  unfold readSibling at found
  cases tree with
  | group =>
    cases found
    exact .other
  | single piece =>
    dsimp only [Tree.piece?] at found
    split at found
    next isComment =>
      cases found
      exact .comment rfl isComment
    next =>
      split at found
      next => cases found
      next =>
        split at found
        next =>
          cases hash : afterHash? (α := Entry) rest with
          | none =>
            rw [hash] at found
            cases found
            exact .other
          | some outcome =>
            rw [hash, Option.getD_some] at found
            rw [found] at hash
            obtain rfl | ⟨group, listed, attr, read, rfl⟩ := eq_of_afterHash? hash
            · exact .other
            · exact .attr listed read
        next =>
          split at found
          next source taken read =>
            cases found
            exact .declaration read
          next inner taken _ read =>
            cases found
            exact .module read
          next =>
            cases found
            exact .other

/-- Every sibling begins at one of the trees.  It is what membership in a list of siblings is taken
apart with: the tree says which reader made it, and `rest` what that reader saw. -/
theorem exists_siblingAt {skip : Nat} {trees : List Tree} {sibling : Sibling Entry}
    (listed : sibling ∈ siblings skip trees) :
    ∃ tree rest, tree :: rest <:+ trees ∧ SiblingAt tree rest sibling := by
  fun_induction siblings skip trees with
  | case1 => cases listed
  | case2 skip first rest ih =>
    obtain ⟨tree, behind, suffix, begins⟩ := ih listed
    exact ⟨tree, behind, suffix.trans (List.suffix_cons _ _), begins⟩
  | case3 first rest sibling more read ih =>
    rcases List.mem_append.mp listed with isFirst | later
    · rw [Option.mem_toList] at isFirst
      cases isFirst
      exact ⟨first, rest, List.suffix_rfl, siblingAt_of_readSibling read⟩
    · obtain ⟨tree, behind, suffix, begins⟩ := ih later
      exact ⟨tree, behind, suffix.trans (List.suffix_cons _ _), begins⟩

end Source

end OpenResponse
