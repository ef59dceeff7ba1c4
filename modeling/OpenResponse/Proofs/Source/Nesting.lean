import OpenResponse.Proofs.Source.Grouping

/-!
# Attributes and their brackets

An attribute stands between brackets, and so do its arguments.  The readers of items, fields and
variants pass trees on from one to the next, drop some and split others at commas; but whatever
they do, an attribute is always read from the inside of one group, whose pieces follow one another
in the source.

## Main definitions

* `Tree.Within` — trees at any depth of others
* `SourceAttribute.WrittenIn` — attributes that are written at any depth of trees

## Main statements

* `Tree.Within.yield_infix` — the pieces of a tree at any depth follow one another
* `exists_group_of_arguments` — arguments are the inside of a group of their own
* `writtenIn_of_mem_items` — every attribute that is looked at is written in its source

## Design notes

`Tree.Within` is used in place of a path of positions, because the readers do not keep positions:
they take the inside of a group, drop blanks, split at commas.  All of these only ever give some of
the trees that they were given, and for the relation that is monotonicity.  So each reader has a
lemma of the same form, that what it passes on is among what it got, and an attribute is carried
outwards one reader at a time.

The readers for entries, fields and variants share the trees that they walk over with the reader of
attributes, and `Sibling.written` tells for each of them which attributes are inside of its entries.
-/

namespace OpenResponse

namespace Source

open Source.Tree (yield yields)

/-! ### Trees at any depth

The relation is closed under more trees and under going into a group.  Its use is the last law here:
wherever a tree stands, its pieces follow one another in the text. -/

/-- A tree is one of some trees, or stands between the brackets of one, at any depth. -/
inductive Tree.Within (tree : Tree) : List Tree → Prop
  | here {trees : List Tree} (listed : tree ∈ trees) : Within tree trees
  | inside {opening closing : Piece} {inner trees : List Tree}
      (group : .group opening inner closing ∈ trees) (within : Within tree inner) :
      Within tree trees

mutual

/-- The text of a tree is that of its pieces. -/
theorem Tree.flatMap_text_yield : ∀ tree : Tree, (yield tree).flatMap Piece.text = tree.text
  | .single piece => by rw [yield, Tree.text, List.flatMap_singleton]
  | .group opening inner closing => by
    rw [yield, Tree.text, List.flatMap_cons, List.flatMap_append, List.flatMap_singleton,
      Tree.flatMap_text_yields inner]

/-- The text of some trees is that of their pieces. -/
theorem Tree.flatMap_text_yields :
    ∀ trees : List Tree, (yields trees).flatMap Piece.text = Tree.texts trees
  | [] => rfl
  | tree :: rest => by
    rw [yields, Tree.texts, List.flatMap_append, Tree.flatMap_text_yield tree,
      Tree.flatMap_text_yields rest]

end

namespace Tree.Within

variable {tree group : Tree} {trees others : List Tree}

/-- A tree among some trees is among all that include them. -/
theorem mono (within : Within tree trees) (fewer : trees ⊆ others) : Within tree others := by
  cases within with
  | here listed => exact .here (fewer listed)
  | inside group within => exact .inside (fewer group) within

/-- What stands between the brackets of a tree stands among the trees that it is one of. -/
theorem ofInner (within : Within tree group.inner) (listed : group ∈ trees) :
    Within tree trees := by
  cases group with
  | single piece => cases within <;> rename_i listed <;> cases listed
  | group opening inner closing => exact .inside listed within

/-- Depths add up. -/
theorem trans (within : Within tree group.inner) (outer : Within group trees) :
    Within tree trees := by
  induction outer with
  | here listed => exact within.ofInner listed
  | inside listed _ ih => exact .inside listed ih

/-- The pieces of a tree follow one another, however deep the tree stands. -/
theorem yield_infix (within : Within tree trees) : yield tree <:+: yields trees := by
  have ofMem {tree : Tree} {trees : List Tree} (listed : tree ∈ trees) :
      yield tree <:+: yields trees := by
    obtain ⟨before, after, rfl⟩ := List.append_of_mem listed
    rw [yields_append, yields, ← List.append_assoc]
    exact List.infix_append _ _ _
  induction within with
  | here listed => exact ofMem listed
  | @inside opening closing inner trees group within ih =>
    have between : yields inner <:+: yield (.group opening inner closing) :=
      List.infix_append [opening] (yields inner) [closing]
    exact ih.trans (between.trans (ofMem group))

end Tree.Within

/-! ### Attributes

An attribute is read from the inside of a group that stands behind a hash mark.  Its arguments are a
group within that one. -/

/-- An attribute is written at some depth of trees: it is read from the inside of a group. -/
def SourceAttribute.WrittenIn (attr : SourceAttribute) (trees : List Tree) : Prop :=
  ∃ group, Tree.Within group trees ∧ readAttribute? group.inner = some attr

private theorem SourceAttribute.WrittenIn.of_mem {attr : SourceAttribute} {trees : List Tree}
    {group : Tree} (listed : group ∈ trees) (read : readAttribute? group.inner = some attr) :
    attr.WrittenIn trees :=
  ⟨group, .here listed, read⟩

/-- An attribute in some trees is in all that include them. -/
theorem SourceAttribute.WrittenIn.mono {attr : SourceAttribute} {trees others : List Tree}
    (written : attr.WrittenIn trees) (fewer : trees ⊆ others) : attr.WrittenIn others := by
  obtain ⟨group, within, read⟩ := written
  exact ⟨group, within.mono fewer, read⟩

private theorem SourceAttribute.WrittenIn.ofInner {attr : SourceAttribute} {group : Tree}
    {trees : List Tree} (written : attr.WrittenIn group.inner) (listed : group ∈ trees) :
    attr.WrittenIn trees := by
  obtain ⟨inner, within, read⟩ := written
  exact ⟨inner, within.ofInner listed, read⟩

private theorem dropTrivia_suffix (trees : List Tree) : dropTrivia trees <:+ trees :=
  List.dropWhile_suffix _

private theorem prefix_dropTrailingTrivia (trees : List Tree) :
    dropTrailingTrivia trees <+: trees := by
  rw [dropTrailingTrivia, ← List.reverse_suffix, List.reverse_reverse]
  exact dropTrivia_suffix _

private theorem core_subset (trees : List Tree) : core trees ⊆ trees :=
  fun _ listed => (dropTrivia_suffix trees).subset ((prefix_dropTrailingTrivia _).subset listed)

/-- The arguments of an attribute are the inside of a group, and begin behind its bracket.  So their
text and their place are told from the group, without looking at the attribute again. -/
theorem exists_group_of_arguments {inner : List Tree} {name text : String} {location : Location}
    (read : readAttribute? inner = some ⟨name, .arguments text, location⟩) :
    ∃ opening arguments closing, .group opening arguments closing ∈ inner ∧
      text = textOf arguments ∧ location = opening.location.behindBytes opening.text := by
  unfold readAttribute? at read
  dsimp only at read
  split at read
  next => cases read
  next opening arguments closing behind isBehind _ =>
    cases read
    refine ⟨opening, arguments, closing, ?_, rfl, rfl⟩
    exact core_subset inner ((List.dropWhile_suffix _).subset (isBehind ▸ List.mem_cons_self))
  next =>
    split at read <;> cases read
  next => cases read

section Siblings

variable {α : Type} {inner : α → List SourceAttribute}

private theorem writtenIn_of_afterHash? {trees : List Tree} {sibling : Sibling α} {taken : Nat}
    (found : afterHash? trees = some (some sibling, taken)) :
    ∀ attr ∈ sibling.written inner, attr.WrittenIn trees := by
  obtain rfl | ⟨group, listed, attr, read, rfl⟩ := eq_of_afterHash? found
  · nofun
  · exact List.forall_mem_singleton.mpr (.of_mem listed read)

/-- The attributes that trees begin with. -/
theorem writtenIn_leading (skip : Nat) (trees : List Tree) :
    ∀ attr ∈ (leading skip trees).1.flatMap (Sibling.written inner), attr.WrittenIn trees := by
  fun_induction leading (α := α) skip trees with
  | case1 => nofun
  | case2 skip tree rest ih =>
    exact fun attr listed => (ih attr listed).mono (List.subset_cons_self tree rest)
  | case3 tree rest isHash first more found siblings behind read ih =>
    rw [read] at ih
    rw [List.flatMap_append, List.forall_mem_append]
    refine ⟨fun attr listed => ?_, fun attr listed =>
      (ih attr listed).mono (List.subset_cons_self tree rest)⟩
    obtain ⟨sibling, isFirst, inSibling⟩ := List.mem_flatMap.mp listed
    rw [Option.mem_toList] at isFirst
    cases isFirst
    exact (writtenIn_of_afterHash? found attr inSibling).mono (List.subset_cons_self tree rest)
  | case4 => nofun
  | case5 tree rest notHash piece isPiece isComment siblings behind read ih =>
    rw [read] at ih
    exact fun attr listed => (ih attr listed).mono (List.subset_cons_self tree rest)
  | case6 tree rest _ _ _ _ _ ih =>
    exact fun attr listed => (ih attr listed).mono (List.subset_cons_self tree rest)
  | case7 => nofun
  | case8 => nofun

/-- What is left behind attributes and comments is the end of the trees. -/
theorem leading_suffix (skip : Nat) (trees : List Tree) :
    (leading (α := α) skip trees).2 <:+ trees := by
  fun_induction leading (α := α) skip trees with
  | case1 => exact List.suffix_rfl
  | case2 skip tree rest ih => exact ih.trans (List.suffix_cons tree rest)
  | case3 tree rest isHash first more found siblings behind read ih =>
    rw [read] at ih
    exact ih.trans (List.suffix_cons tree rest)
  | case4 => exact List.suffix_rfl
  | case5 tree rest notHash piece isPiece isComment siblings behind read ih =>
    rw [read] at ih
    exact ih.trans (List.suffix_cons tree rest)
  | case6 tree rest _ _ _ _ _ ih => exact ih.trans (List.suffix_cons tree rest)
  | case7 => exact List.suffix_rfl
  | case8 => exact List.suffix_rfl

/-- Only comments stand at the end of trees. -/
theorem written_trailing (trees : List Tree) :
    (trailing trees).flatMap (Sibling.written inner) = [] := by
  refine List.flatMap_eq_nil_iff.mpr fun sibling listed => ?_
  obtain ⟨tree, -, comment⟩ := List.mem_filterMap.mp listed
  obtain ⟨piece, -, rfl⟩ := Option.map_eq_some_iff.mp comment
  rfl

end Siblings

/-! ### Fields and variants

Elements are what stands between commas.  Every element is a part of the trees that were split, and
its attributes are among its first trees. -/

section Elements

variable {α : Type} {inner : α → List SourceAttribute}

private theorem subset_of_mem_splitCommasFrom {inTypes : Bool} {depth : Nat} {front : Front}
    {current trees element : List Tree}
    (listed : element ∈ splitCommasFrom inTypes depth front current trees) :
    element ⊆ current ++ trees := by
  fun_induction splitCommasFrom inTypes depth front current trees with
  | case1 depth front current =>
    rw [List.mem_singleton.mp listed, List.append_nil]
    exact fun tree => List.mem_reverse.mp
  | case2 depth front current tree rest mark isComma ih =>
    rcases List.mem_cons.mp listed with rfl | later
    · exact fun tree inside => List.mem_append_left _ (List.mem_reverse.mp inside)
    · exact fun tree inside => List.mem_append_right _ (List.mem_cons_of_mem _ (ih later inside))
  | case3 =>
    rename_i ih
    intro inside isInside
    have among := ih listed isInside
    rwa [List.cons_append, ← List.perm_middle.mem_iff] at among

/-- The attributes of elements between commas. -/
theorem writtenIn_splitCommas {read : List Tree → List (Sibling α)}
    (each : ∀ element, ∀ attr ∈ (read element).flatMap (Sibling.written inner),
      attr.WrittenIn element) (inTypes : Bool) (trees : List Tree) :
    ∀ attr ∈ ((splitCommas inTypes trees).flatMap read).flatMap (Sibling.written inner),
      attr.WrittenIn trees := by
  intro attr listed
  rw [List.flatMap_assoc] at listed
  obtain ⟨element, isElement, listed⟩ := List.mem_flatMap.mp listed
  exact (each element attr listed).mono (subset_of_mem_splitCommasFrom isElement)

end Elements

private theorem writtenIn_namedField (element : List Tree) :
    ∀ attr ∈ (namedField element).flatMap (Sibling.written fun _ => []),
      attr.WrittenIn element := by
  have first := @writtenIn_leading SourceField (fun _ => []) 0 element
  unfold namedField
  dsimp only
  split
  next =>
    rw [List.flatMap_append, List.flatMap_cons, written_trailing]
    simpa only [Sibling.written, List.append_nil] using first
  next =>
    rw [List.flatMap_append, written_trailing, List.append_nil]
    exact first

private theorem writtenIn_tupleField (element : List Tree) :
    ∀ attr ∈ (tupleField element).flatMap (Sibling.written fun _ => []),
      attr.WrittenIn element := by
  have first := @writtenIn_leading SourceField (fun _ => []) 0 element
  have rest := (leading_suffix (α := SourceField) 0 element).subset
  unfold tupleField
  dsimp only
  generalize (leading (α := SourceField) 0 element).2 = behind at rest ⊢
  -- attributes may stand behind the visibility as well
  have second : ∀ attr ∈ (leading 0 (behind.drop (visibilityRun behind))).1.flatMap
      (Sibling.written fun _ : SourceField => []), attr.WrittenIn element :=
    fun attr listed => (writtenIn_leading 0 _ attr listed).mono
      (List.Subset.trans (List.drop_subset _ _) rest)
  split
  next =>
    rw [List.flatMap_append, List.forall_mem_append]
    exact ⟨first, second⟩
  next =>
    rw [List.flatMap_append, List.flatMap_append, List.flatMap_cons, written_trailing,
      Sibling.written, List.append_nil, List.append_nil, List.forall_mem_append]
    exact ⟨first, second⟩

/-- The attributes among the fields between the brackets of a group. -/
theorem writtenIn_readFields (group : Tree) :
    ∀ attr ∈ (readFields group).attributes, attr.WrittenIn group.inner := by
  unfold readFields
  split
  next => exact writtenIn_splitCommas writtenIn_tupleField true group.inner
  next =>
    split
    next => exact writtenIn_splitCommas writtenIn_namedField true group.inner
    next => nofun

private theorem writtenIn_variantOf (element : List Tree) :
    ∀ attr ∈ (variantOf element).flatMap (Sibling.written fun variant => variant.fields.attributes),
      attr.WrittenIn element := by
  have first :=
    @writtenIn_leading SourceVariant (fun variant => variant.fields.attributes) 0 element
  have rest := (leading_suffix (α := SourceVariant) 0 element).subset
  unfold variantOf
  dsimp only
  generalize (leading (α := SourceVariant) 0 element).2 = behind at rest ⊢
  split
  next name next more isSolid =>
    have listed : next ∈ element := by
      have inSolid : next ∈ solid (behind.drop (visibilityRun behind)) :=
        isSolid ▸ List.mem_cons_of_mem name List.mem_cons_self
      exact rest (List.drop_subset _ _ (List.mem_of_mem_filter inSolid))
    rw [List.flatMap_append, List.flatMap_cons, written_trailing, List.append_nil,
      List.forall_mem_append]
    exact ⟨first, fun attr inFields => (writtenIn_readFields next attr inFields).ofInner listed⟩
  next =>
    rw [List.flatMap_append, List.flatMap_cons, written_trailing, List.append_nil,
      List.forall_mem_append]
    exact ⟨first, nofun⟩
  next => exact first

/-! ### Declarations

A declaration looks at attributes in the group that is its body, and nowhere else. -/

/-- The attributes in what a declaration declares are written in its body. -/
theorem writtenIn_keyword? {word : Tree} {make : Option Tree → SourceBody}
    (found : keyword? word = some make) (body : Option Tree) :
    ∀ attr ∈ (make body).attributes, ∃ group ∈ body, attr.WrittenIn group.inner := by
  obtain rfl | rfl | rfl := keyword?_eq_some found
  · cases body with
    | none => nofun
    | some group =>
      intro attr listed
      rw [SourceBody.attributes, List.mem_append] at listed
      exact ⟨group, rfl, writtenIn_readFields group attr (listed.resolve_right List.not_mem_nil)⟩
  · cases body with
    | none => nofun
    | some group =>
      exact fun attr listed =>
        ⟨group, rfl, writtenIn_splitCommas writtenIn_variantOf false group.inner attr listed⟩
  · nofun

private theorem writtenIn_readDeclaration?
    {trees : List Tree} {source : SourceDeclaration} {taken : Nat}
    (found : readDeclaration? trees = some (source, taken)) :
    ∀ attr ∈ source.body.attributes, attr.WrittenIn trees := by
  obtain ⟨word, make, name, body, isKeyword, -, -, inTrees, rfl⟩ :=
    exists_of_readDeclaration? found
  intro attr listed
  obtain ⟨group, isBody, written⟩ := writtenIn_keyword? isKeyword body attr listed
  exact written.ofInner (inTrees group isBody)

/-! ### Items

The induction is on the depth of modules.  A module passes on the inside of a group, with a smaller
budget. -/

private theorem mem_attributesAmong {siblings : List (Sibling Item)} {attr : SourceAttribute} :
    attr ∈ attributesAmong siblings ↔ ∃ sibling ∈ siblings, attr ∈ attributesOf sibling := by
  induction siblings with
  | nil => simp [attributesAmong]
  | cons sibling siblings ih => simp [attributesAmong, ih]

/-- The attributes of a sibling are written where it begins, if this holds in every module. -/
theorem SiblingAt.writtenIn {read : List Tree → List (Sibling Item)}
    (inModule : ∀ trees, ∀ attr ∈ attributesAmong (read trees), attr.WrittenIn trees)
    {tree : Tree} {rest : List Tree} {sibling : Sibling Entry}
    (begins : SiblingAt tree rest sibling) :
    ∀ attr ∈ attributesOf (readInner read sibling), attr.WrittenIn (tree :: rest) := by
  cases begins with
  | comment | other => simp [readInner, attributesOf]
  | attr listed isRead =>
    exact List.forall_mem_singleton.mpr (.of_mem (List.mem_cons_of_mem tree listed) isRead)
  | declaration isRead =>
    rw [readInner, attributesOf, attributesIn]
    exact writtenIn_readDeclaration? isRead
  | module isRead =>
    obtain ⟨group, listed, rfl⟩ := exists_group_of_readModule? isRead
    rw [readInner, attributesOf, attributesIn]
    exact fun attr inside => (inModule group.inner attr inside).ofInner listed

/-- The attributes of siblings are written among their trees, if this holds in every module. -/
theorem writtenIn_map_readInner {read : List Tree → List (Sibling Item)}
    (inModule : ∀ trees, ∀ attr ∈ attributesAmong (read trees), attr.WrittenIn trees)
    (trees : List Tree) :
    ∀ attr ∈ attributesAmong ((siblings 0 trees).map (readInner read)), attr.WrittenIn trees := by
  intro attr listed
  obtain ⟨_, isSibling, inSibling⟩ := mem_attributesAmong.mp listed
  obtain ⟨sibling, isFirst, rfl⟩ := List.mem_map.mp isSibling
  obtain ⟨tree, rest, suffix, begins⟩ := exists_siblingAt isFirst
  exact (begins.writtenIn inModule attr inSibling).mono suffix.subset

/-- Every attribute that is looked at is written at some depth of the trees. -/
theorem writtenIn_of_mem_itemsWithin (budget : Nat) (trees : List Tree) :
    ∀ attr ∈ attributesAmong (itemsWithin budget trees), attr.WrittenIn trees := by
  induction budget generalizing trees with
  | zero =>
    rw [itemsWithin]
    exact writtenIn_map_readInner (fun _ _ nothing => by cases nothing) trees
  | succ budget ih =>
    rw [itemsWithin]
    exact writtenIn_map_readInner ih trees

/-- Every attribute that is looked at is written at some depth of its source.  It is the law of
readers at the trees of the whole source. -/
theorem writtenIn_of_mem_items {source : String} {attr : SourceAttribute}
    (listed : attr ∈ attributesAmong (items source)) :
    attr.WrittenIn (trees (sourcePieces source)) :=
  writtenIn_of_mem_itemsWithin _ _ attr listed

end Source

end OpenResponse
