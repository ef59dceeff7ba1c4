import OpenResponse.Proofs.Source.Grouping

/-!
# Names of fields

A field has a name exactly if it is not one of a tuple.  The data of a declaration does not say so,
but whatever is extracted from a source is like that: the fields between braces are read up to a
colon, and what stands before the colon is the name; those between parentheses are nothing but
types.

So a constructor that the data would allow, a tuple with a named field, does not come out of any
source.  The laws for responses that ask for it, because a field is addressed by its name there, can
then be applied to sources.

## Main definitions

* `SourceFields.Named`, `SourceBody.Named` — fields that have names unless they are those of a tuple
* `Declaration.FieldsNamed` — declarations with such fields

## Main statements

* `extractDeclarations_named` — the declarations of a source have such fields

## Design notes

The fields are followed from the reader of fields through variants and declarations to extraction,
and no other induction is needed: a field is made at one place for braces and at one place for
parentheses.  Attaching attributes to a field does not touch its name.
-/

namespace OpenResponse

namespace Source

/-! ### Details

The readers of elements put one entry between attributes and comments.  So the entries of an element
are known from that one. -/

section Details

variable {α : Type}

/-- What stands before an entry is no entry. -/
theorem isEntry_of_mem_leading (skip : Nat) (trees : List Tree) :
    ∀ sibling ∈ (leading (α := α) skip trees).1, sibling.isEntry = false := by
  fun_induction leading (α := α) skip trees with
  | case1 => nofun
  | case2 _ _ _ ih => exact ih
  | case3 tree rest isHash first more found siblings behind read ih =>
    rw [read] at ih
    intro sibling listed
    rcases List.mem_append.mp listed with isFirst | later
    · rw [Option.mem_toList] at isFirst
      cases isFirst
      obtain rfl | ⟨-, -, attr, -, rfl⟩ := eq_of_afterHash? found <;> rfl
    · exact ih sibling later
  | case4 => nofun
  | case5 tree rest notHash piece isPiece isComment siblings behind read ih =>
    rw [read] at ih
    exact List.forall_mem_cons.mpr ⟨rfl, ih⟩
  | case6 _ _ _ _ _ _ _ ih => exact ih
  | case7 => nofun
  | case8 => nofun

/-- What stands behind an entry is no entry. -/
theorem isEntry_of_mem_trailing (trees : List Tree) :
    ∀ sibling ∈ trailing (α := α) trees, sibling.isEntry = false := by
  intro sibling listed
  obtain ⟨tree, -, comment⟩ := List.mem_filterMap.mp listed
  obtain ⟨piece, -, rfl⟩ := Option.map_eq_some_iff.mp comment
  rfl

/-- The only entry between details. -/
theorem eq_of_entry_mem {before after : List (Sibling α)} {middle value : α}
    (noneBefore : ∀ sibling ∈ before, sibling.isEntry = false)
    (noneAfter : ∀ sibling ∈ after, sibling.isEntry = false)
    (listed : .entry value ∈ before ++ .entry middle :: after) : value = middle := by
  rcases List.mem_append.mp listed with isBefore | listed
  · cases noneBefore _ isBefore
  · rcases List.mem_cons.mp listed with same | isAfter
    · cases same
      rfl
    · cases noneAfter _ isAfter

private theorem not_entry_mem {siblings : List (Sibling α)} {value : α}
    (none : ∀ sibling ∈ siblings, sibling.isEntry = false) : .entry value ∉ siblings :=
  fun listed => by cases none _ listed

end Details

/-! ### Fields and variants

The names are those of the fields as they are written. -/

/-- Fields that have names exactly if they are not those of a tuple. -/
def SourceFields.Named (source : SourceFields) : Prop :=
  ∀ field, .entry field ∈ source.siblings → field.name.isSome = !source.isTuple

/-- What is declared has named fields or tuples.  This is what the reader guarantees, and what the
fault of a nameless field needs to be ruled out. -/
def SourceBody.Named (body : SourceBody) : Prop :=
  body.fields.Named ∧ ∀ variant, .entry variant ∈ body.variants → variant.fields.Named

private theorem SourceFields.Named.none : SourceFields.none.Named := nofun

/-- A named field has a name. -/
theorem isSome_of_mem_namedField {element : List Tree} {field : SourceField}
    (listed : .entry field ∈ namedField element) : field.name.isSome = true := by
  have before := isEntry_of_mem_leading (α := SourceField) 0 element
  have after := isEntry_of_mem_trailing (α := SourceField)
  unfold namedField at listed
  dsimp only at listed
  split at listed
  next =>
    rw [eq_of_entry_mem before (after _) listed]
    rfl
  next => exact absurd listed (not_entry_mem (List.forall_mem_append.mpr ⟨before, after _⟩))

/-- A field of a tuple has no name. -/
theorem isSome_of_mem_tupleField {element : List Tree} {field : SourceField}
    (listed : .entry field ∈ tupleField element) : field.name.isSome = false := by
  unfold tupleField at listed
  dsimp only at listed
  have before (rest : List Tree) := List.forall_mem_append.mpr
    ⟨isEntry_of_mem_leading (α := SourceField) 0 element, isEntry_of_mem_leading 0 rest⟩
  split at listed
  next => exact absurd listed (not_entry_mem (before _))
  next =>
    rw [eq_of_entry_mem (before _) (isEntry_of_mem_trailing _) listed]
    rfl

private theorem named_readFields (group : Tree) : (readFields group).Named := by
  unfold readFields
  split
  next =>
    intro field listed
    obtain ⟨element, -, inElement⟩ := List.mem_flatMap.mp listed
    exact isSome_of_mem_tupleField inElement
  next =>
    split
    next =>
      intro field listed
      obtain ⟨element, -, inElement⟩ := List.mem_flatMap.mp listed
      exact isSome_of_mem_namedField inElement
    next => exact .none

private theorem named_variantOf (element : List Tree) {variant : SourceVariant}
    (listed : .entry variant ∈ variantOf element) : variant.fields.Named := by
  have before := isEntry_of_mem_leading (α := SourceVariant) 0 element
  have after := isEntry_of_mem_trailing (α := SourceVariant)
  unfold variantOf at listed
  dsimp only at listed
  split at listed
  next =>
    rw [eq_of_entry_mem before (after _) listed]
    exact named_readFields _
  next =>
    rw [eq_of_entry_mem before (after _) listed]
    exact .none
  next => exact absurd listed (not_entry_mem before)

/-! ### Declarations

What holds of fields as they are written holds of fields with what is attached to them.  Only a
struct has fields of its own. -/

private theorem named_keyword? {word : Tree} {make : Option Tree → SourceBody}
    (found : keyword? word = some make) (body : Option Tree) : (make body).Named := by
  obtain rfl | rfl | rfl := keyword?_eq_some found
  · -- a struct has the fields of its group and no variants
    refine ⟨?_, nofun⟩
    cases body with
    | none => exact .none
    | some group => exact named_readFields group
  · -- an enum has no fields but those of its variants
    refine ⟨.none, fun variant listed => ?_⟩
    cases body with
    | none => cases listed
    | some group =>
      obtain ⟨element, -, listed⟩ := List.mem_flatMap.mp listed
      exact named_variantOf element listed
  · exact ⟨.none, nofun⟩

private theorem named_readDeclaration?
    {trees : List Tree} {source : SourceDeclaration} {taken : Nat}
    (found : readDeclaration? trees = some (source, taken)) : source.body.Named := by
  obtain ⟨word, make, name, body, isKeyword, -, -, -, rfl⟩ := exists_of_readDeclaration? found
  exact named_keyword? isKeyword body

/-- What is attached to fields leaves them their names. -/
theorem SourceFields.Named.attachedFields {source : SourceFields} (named : source.Named) :
    ∀ field ∈ attachedFields source.siblings, field.name.isSome = !source.isTuple := by
  intro field listed
  obtain ⟨⟨before, value⟩, isEntry, rfl⟩ := List.mem_map.mp listed
  obtain ⟨after, split⟩ := mem_entries.mp isEntry
  refine named value ?_
  rw [split]
  exact List.mem_append_right _ List.mem_cons_self

end Source

/-- A declaration whose fields, like those of its variants, have names exactly if they are not those
of a tuple, and which has fields of its own only if it is a struct. -/
structure Declaration.FieldsNamed (declaration : Declaration) : Prop where
  fields : ∀ field ∈ declaration.fields, field.name.isSome = !declaration.isTuple
  variants : ∀ variant ∈ declaration.variants, ∀ field ∈ variant.fields,
    field.name.isSome = !variant.isTuple
  ofStruct : declaration.kind ≠ .struct → declaration.fields = []

/-- **Fields have names.**  The fields that are extracted from a source have names, unless they are
those of a tuple. -/
theorem extractDeclarations_named {source : String} {declarations : List Declaration}
    (extracted : extractDeclarations source = .ok declarations) :
    ∀ declaration ∈ declarations, declaration.FieldsNamed := by
  intro declaration listed
  obtain ⟨written, waiting, part, taken, rfl, read, -⟩ :=
    Source.exists_read_of_mem extracted listed
  have named := Source.named_readDeclaration? read
  refine ⟨named.1.attachedFields, fun variant isVariant => ?variants, fun notStruct => ?ofStruct⟩
  case variants =>
    obtain ⟨⟨before, value⟩, isEntry, rfl⟩ := List.mem_map.mp isVariant
    obtain ⟨after, split⟩ := Source.mem_entries.mp isEntry
    refine (named.2 value ?_).attachedFields
    rw [split]
    exact List.mem_append_right _ List.mem_cons_self
  case ofStruct =>
    obtain ⟨name, location, body⟩ := written
    cases body with
    | struct fields => exact absurd rfl notStruct
    | enum variants => rfl
    | union => rfl

end OpenResponse
