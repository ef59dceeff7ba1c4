import Mathlib.Data.List.DropRight
import OpenResponse.Proofs.Outcome
import OpenResponse.Source.Extraction

/-!
# What attributes and comments are attached to

Extraction walks through siblings and carries along what waits for the next declaration, variant or
field.  Here this is said without a walk: what is attached to a variant or a field is what the
siblings before it say, as far back as the previous entry of the list.

Reading an attribute can fail, so everything is read only if the attributes are readable.

## Main definitions

* `Pending.of` — the attributes and documentation that siblings say
* `entries` — the entries of a list, each with the siblings before it
* `since` — what is said since the last entry of a list
* `SourceDeclaration.attached` — a declaration, given what is attached to the whole of it

## Main statements

* `SourceAttribute.isReadable_iff` — the attributes that can be read
* `attach_eq_ok` — what the entries of a list are given
* `SourceDeclaration.declaration_eq_ok` — what a declaration is read as

## Design notes

The walk keeps what waits in a state; the statements keep the siblings before a place.  `Pending.of`
goes from one to the other: what waits after some siblings is what those siblings say, cut off at
the last entry.  The invariant of a walk is therefore an equation between its state and `since` of
the siblings that it has passed, and each kind of sibling has one simp lemma that says how the right
side changes.  The inductions over siblings only cite these.

Reading is separated from attaching.  An attribute that cannot be read makes the walk fail wherever
it stands, so success is a condition on the attributes by themselves, and the result is a function
of the siblings to which no failure can happen any more.
-/

namespace OpenResponse

namespace Source

/-! ### What siblings say

An attribute named `doc` is documentation and no attribute, as a comment is.  Siblings are asked for
either by itself, and what they say together is what each says, in order. -/

/-- The line of documentation that an attribute sets. -/
def docText? (attr : Attribute) : Option String :=
  if attr.name == "doc" then attr.value.map fun text => String.ofList (trim text.toList) else none

namespace Sibling

variable {α : Type}

/-- Whether a sibling is an attribute or a comment. -/
def isDetail : Sibling α → Bool
  | .attr _ | .comment _ => true
  | .entry _ | .other => false

/-- Whether a sibling is an entry of the list. -/
def isEntry : Sibling α → Bool
  | .entry _ => true
  | .attr _ | .comment _ | .other => false

/-- The attribute that a sibling is, unless it sets the documentation. -/
def attributes : Sibling α → List Attribute
  | .attr source => (source.attribute.toOption.filter (docText? · = none)).toList
  | .comment _ | .entry _ | .other => []

/-- The documentation that a sibling is. -/
def docs : Sibling α → List String
  | .attr source => (source.attribute.toOption.bind docText?).toList
  | .comment piece => (docLine? piece).toList
  | .entry _ | .other => []

/-- The attribute that a sibling is as it is written, or those in the entry that it is. -/
def written (inner : α → List SourceAttribute) : Sibling α → List SourceAttribute
  | .attr source => [source]
  | .entry value => inner value
  | .comment _ | .other => []

end Sibling

/-- An attribute is readable if its value, if it has one, can be cut into tokens. -/
def SourceAttribute.IsReadable (source : SourceAttribute) : Prop :=
  ∀ text, source.content = .value text → ∃ stream, tokenize source.location text = .ok stream

private theorem exists_stringLiteral {location : Location} {text : String} :
    (∃ value, stringLiteral? location text = .ok value) ↔
      ∃ stream, tokenize location text = .ok stream := by
  rw [stringLiteral?]
  cases tokenize location text with
  | error fault => constructor <;> rintro ⟨_, failed⟩ <;> cases failed
  | ok stream =>
    refine ⟨fun _ => ⟨stream, rfl⟩, fun _ => ?_⟩
    simp only [bind, Except.bind]
    split <;> exact ⟨_, rfl⟩

/-- Readable attributes are those of which something is read.  What is not readable is a fault of
the whole source, so that both directions are needed. -/
theorem SourceAttribute.isReadable_iff {source : SourceAttribute} :
    source.IsReadable ↔ ∃ attr, source.attribute = .ok attr := by
  obtain ⟨name, content, location⟩ := source
  cases content with
  | arguments text => exact ⟨fun _ => ⟨_, rfl⟩, fun _ _ same => by cases same⟩
  | bare => exact ⟨fun _ => ⟨_, rfl⟩, fun _ _ same => by cases same⟩
  | value text =>
    rw [SourceAttribute.attribute, exists_bind_pure_eq_ok, exists_stringLiteral]
    exact ⟨fun readable => readable text rfl, fun tokens _ same => by cases same; exact tokens⟩

namespace Pending

variable {α : Type} {siblings : List (Sibling α)}

/-- The attributes and documentation that siblings say.  They come in the order in which they stand,
whatever stands between them. -/
def of (siblings : List (Sibling α)) : Pending :=
  ⟨siblings.flatMap Sibling.attributes, siblings.flatMap Sibling.docs⟩

private theorem of_concat (siblings : List (Sibling α)) (sibling : Sibling α) :
    of (siblings ++ [sibling]) =
      ⟨(of siblings).attributes ++ sibling.attributes, (of siblings).docs ++ sibling.docs⟩ := by
  simp only [of, List.flatMap_append, List.flatMap_singleton]

@[simp]
theorem of_concat_attr {source : SourceAttribute} {attr : Attribute}
    (read : source.attribute = .ok attr) :
    of (siblings ++ [.attr source]) = (of siblings).addAttribute attr := by
  rw [of_concat, addAttribute]
  obtain ⟨name, arguments, value, location⟩ := attr
  by_cases isDoc : name = "doc"
  · cases value <;> simp [Sibling.attributes, Sibling.docs, read, docText?, isDoc, Except.toOption]
  · simp [Sibling.attributes, Sibling.docs, read, docText?, isDoc, beq_false_of_ne isDoc,
      Except.toOption]

@[simp]
theorem of_concat_comment (piece : Piece) :
    of (siblings ++ [.comment piece]) = (of siblings).addComment piece := by
  rw [of_concat]
  simp [Sibling.attributes, Sibling.docs, addComment]

@[simp]
theorem of_concat_other : of (siblings ++ [.other]) = of siblings := by
  rw [of_concat]
  simp [Sibling.attributes, Sibling.docs]

end Pending

/-! ### Fields and variants

In a list, only what was said since the previous entry is attached to an entry.  What stands in
front of the list is empty for a walk from its beginning, but the induction needs it as a parameter.
-/

section Entries

variable {α : Type}

/-- What is said since the last entry of a list.  A list is read with what it says waiting for an
entry, and this is what waits at the end of `before`. -/
def since (before : List (Sibling α)) : Pending := .of (before.rtakeWhile (!·.isEntry))

/-- The entries of a list, each with the siblings before it. -/
def entries : List (Sibling α) → List (List (Sibling α) × α)
  | [] => []
  | sibling :: rest =>
    let more := (entries rest).map fun entry => (sibling :: entry.1, entry.2)
    match sibling with
    | .entry value => ([], value) :: more
    | .attr _ | .comment _ | .other => more

/-- The entries are what siblings come before: to be listed with some siblings is to stand directly
behind them. -/
theorem mem_entries {siblings before : List (Sibling α)} {value : α} :
    (before, value) ∈ entries siblings ↔ ∃ after, siblings = before ++ .entry value :: after := by
  induction siblings generalizing before with
  | nil => simp [entries]
  | cons sibling rest ih =>
    cases before with
    | nil => cases sibling <;> simp [entries, eq_comm (a := value)]
    | cons first before =>
      have later : (first :: before, value) ∈
          (entries rest).map (fun entry => (sibling :: entry.1, entry.2)) ↔
            (before, value) ∈ entries rest ∧ sibling = first := by
        simp only [List.mem_map, Prod.exists, Prod.mk.injEq, List.cons.injEq]
        constructor
        · rintro ⟨before, value, listed, ⟨rfl, rfl⟩, rfl⟩
          exact ⟨listed, rfl⟩
        · rintro ⟨listed, rfl⟩
          exact ⟨before, value, listed, ⟨rfl, rfl⟩, rfl⟩
      simp only [List.cons_append, List.cons.injEq, exists_and_left, ← ih]
      cases sibling <;> simp [entries, later, and_comm]

variable {before rest : List (Sibling α)}

@[simp]
theorem since_concat_attr {source : SourceAttribute} {attr : Attribute}
    (read : source.attribute = .ok attr) :
    since (before ++ [.attr source]) = (since before).addAttribute attr := by
  rw [since, List.rtakeWhile_concat_pos _ _ _ rfl, Pending.of_concat_attr read, since]

@[simp]
theorem since_concat_comment (piece : Piece) :
    since (before ++ [.comment piece]) = (since before).addComment piece := by
  rw [since, List.rtakeWhile_concat_pos _ _ _ rfl, Pending.of_concat_comment, since]

@[simp]
theorem since_concat_other : since (before ++ [.other]) = since before := by
  rw [since, List.rtakeWhile_concat_pos _ _ _ rfl, Pending.of_concat_other, since]

@[simp]
theorem since_concat_entry (before : List (Sibling α)) (value : α) :
    since (before ++ [.entry value]) = .empty := by
  rw [since, List.rtakeWhile_concat_neg _ _ _ (by simp [Sibling.isEntry])]
  rfl

/-- What is attached to the entries behind siblings, given what those say. -/
theorem map_entries_cons (sibling : Sibling α) (rest before : List (Sibling α)) :
    ((entries rest).map fun entry => (sibling :: entry.1, entry.2)).map
        (fun entry => (entry.2, since (before ++ entry.1))) =
      (entries rest).map fun entry => (entry.2, since ((before ++ [sibling]) ++ entry.1)) := by
  rw [List.map_map]
  refine List.map_congr_left fun entry _ => ?_
  rw [Function.comp, List.append_assoc, List.singleton_append]

/-- An entry is given what was said since the one before.  Attaching succeeds exactly if all the
attributes of the list are readable, those behind the last entry included. -/
theorem attach_eq_ok {attached : List (α × Pending)} :
    attach (since before) rest = .ok attached ↔
      (∀ source ∈ rest.flatMap (Sibling.written fun _ => []), source.IsReadable) ∧
        attached = (entries rest).map fun entry => (entry.2, since (before ++ entry.1)) := by
  -- What waits changes from sibling to sibling, so all the siblings before have to vary with it.
  induction rest generalizing before attached with
  | nil => simp [attach, entries, eq_comm]
  | cons sibling rest ih =>
    cases sibling with
    | attr source =>
      rw [attach, outcome_bind_eq_ok, entries, map_entries_cons, List.flatMap_cons,
        List.forall_mem_append, Sibling.written, List.forall_mem_singleton,
        SourceAttribute.isReadable_iff]
      constructor
      · rintro ⟨attr, read, done⟩
        rw [← since_concat_attr read, ih] at done
        exact ⟨⟨⟨attr, read⟩, done.1⟩, done.2⟩
      · rintro ⟨⟨⟨attr, read⟩, others⟩, same⟩
        refine ⟨attr, read, ?_⟩
        rw [← since_concat_attr read]
        exact ih.mpr ⟨others, same⟩
    | comment piece =>
      rw [attach, ← since_concat_comment, ih, entries, map_entries_cons]
      rfl
    | other =>
      rw [attach, ← since_concat_other, ih, entries, map_entries_cons]
      rfl
    | entry value =>
      rw [attach, outcome_bind_eq_ok, entries, List.map_cons, map_entries_cons, List.append_nil,
        ← since_concat_entry before value, List.flatMap_cons, Sibling.written,
        List.nil_append]
      constructor
      · rintro ⟨more, done, same⟩
        obtain ⟨readable, rfl⟩ := ih.mp done
        cases same
        exact ⟨readable, rfl⟩
      · rintro ⟨readable, rfl⟩
        exact ⟨_, ih.mpr ⟨readable, rfl⟩, rfl⟩

private theorem attach_empty_eq_ok {siblings : List (Sibling α)} {attached : List (α × Pending)} :
    attach .empty siblings = .ok attached ↔
      (∀ source ∈ siblings.flatMap (Sibling.written fun _ => []), source.IsReadable) ∧
        attached = (entries siblings).map fun entry => (entry.2, since entry.1) :=
  @attach_eq_ok _ [] _ _

/-- The attributes of a list and in its entries have a property if those of the list have it and
those in every entry. -/
theorem forall_written {inner : α → List SourceAttribute} {P : SourceAttribute → Prop}
    {siblings : List (Sibling α)} :
    (∀ source ∈ siblings.flatMap (Sibling.written inner), P source) ↔
      (∀ source ∈ siblings.flatMap (Sibling.written fun _ => []), P source) ∧
        ∀ entry ∈ entries siblings, ∀ source ∈ inner entry.2, P source := by
  have of_entries : (∀ entry ∈ entries siblings, ∀ source ∈ inner entry.2, P source) ↔
      ∀ sibling ∈ siblings, ∀ value, sibling = .entry value → ∀ source ∈ inner value, P source := by
    constructor
    · rintro each _ listed value rfl
      obtain ⟨before, after, split⟩ := List.append_of_mem listed
      exact each (before, value) (mem_entries.mpr ⟨after, split⟩)
    · rintro each ⟨before, value⟩ listed
      obtain ⟨after, rfl⟩ := mem_entries.mp listed
      exact each _ (List.mem_append_right _ List.mem_cons_self) value rfl
  rw [of_entries, List.forall_mem_flatMap, List.forall_mem_flatMap, ← forall₂_and]
  refine forall₂_congr fun sibling _ => ?_
  cases sibling <;> simp [Sibling.written]

end Entries

/-- A field with what is attached to it.  Only the attributes and the documentation come from
outside of it. -/
def SourceField.attached (source : SourceField) (waiting : Pending) : Field :=
  ⟨source.name, source.typeText, source.location, waiting.attributes, waiting.docs⟩

/-- The fields among siblings, each with what is said since the previous one. -/
def attachedFields (siblings : List (Sibling SourceField)) : List Field :=
  (entries siblings).map fun entry => entry.2.attached (since entry.1)

private theorem fieldsAmong_eq_ok {siblings : List (Sibling SourceField)} {fields : List Field} :
    fieldsAmong siblings = .ok fields ↔
      (∀ source ∈ siblings.flatMap (Sibling.written fun _ => []), source.IsReadable) ∧
        fields = attachedFields siblings := by
  rw [fieldsAmong, outcome_bind_eq_ok]
  constructor
  · rintro ⟨attached, done, same⟩
    obtain ⟨readable, rfl⟩ := attach_empty_eq_ok.mp done
    cases same
    exact ⟨readable, List.map_map⟩
  · rintro ⟨readable, rfl⟩
    refine ⟨_, attach_empty_eq_ok.mpr ⟨readable, rfl⟩, ?_⟩
    exact congrArg Except.ok List.map_map

namespace SourceFields

/-- The siblings among which fields are written. -/
def siblings : SourceFields → List (Sibling SourceField)
  | .none => []
  | .tuple siblings | .named siblings => siblings

/-- Whether fields are those of a tuple. -/
def isTuple : SourceFields → Bool
  | .tuple _ => true
  | .none | .named _ => false

/-- The attributes among fields. -/
def attributes (source : SourceFields) : List SourceAttribute :=
  source.siblings.flatMap (Sibling.written fun _ => [])

private theorem fields_eq_ok {source : SourceFields} {fields : List Field} {isTuple : Bool} :
    source.fields = .ok (fields, isTuple) ↔
      (∀ attr ∈ source.attributes, attr.IsReadable) ∧
        fields = attachedFields source.siblings ∧ isTuple = source.isTuple := by
  have among (siblings : List (Sibling SourceField)) (tuple : Bool) :
      (fieldsAmong siblings >>= fun read => pure (read, tuple)) = .ok (fields, isTuple) ↔
        (∀ source ∈ siblings.flatMap (Sibling.written fun _ => []), source.IsReadable) ∧
          fields = attachedFields siblings ∧ isTuple = tuple := by
    rw [outcome_bind_eq_ok, ← and_assoc, ← fieldsAmong_eq_ok]
    constructor
    · rintro ⟨_, done, same⟩
      cases same
      exact ⟨done, rfl⟩
    · rintro ⟨done, rfl⟩
      exact ⟨fields, done, rfl⟩
  cases source with
  | none =>
    constructor
    · intro same
      cases same
      exact ⟨fun _ listed => (List.not_mem_nil listed).elim, rfl, rfl⟩
    · rintro ⟨-, rfl, rfl⟩
      rfl
  | tuple siblings => exact among siblings true
  | named siblings => exact among siblings false

end SourceFields

/-- A variant with what is attached to it.  Its fields are attached to in the same way, each by what
stands before it in their own list. -/
def SourceVariant.attached (source : SourceVariant) (waiting : Pending) : Variant :=
  ⟨source.name, attachedFields source.fields.siblings, source.fields.isTuple, waiting.attributes,
    waiting.docs, source.location⟩

/-- The attributes among variants and in them. -/
def variantAttributes (siblings : List (Sibling SourceVariant)) : List SourceAttribute :=
  siblings.flatMap (Sibling.written fun variant => variant.fields.attributes)

/-- The variants among siblings, each with what is said since the previous one. -/
def attachedVariants (siblings : List (Sibling SourceVariant)) : List Variant :=
  (entries siblings).map fun entry => entry.2.attached (since entry.1)

/-- The step of a variant, when what waits for it is known. -/
def SourceVariant.variant (source : SourceVariant) (waiting : Pending) : Except Fault Variant := do
  let (fields, isTuple) ← source.fields.fields
  return ⟨source.name, fields, isTuple, waiting.attributes, waiting.docs, source.location⟩

private theorem SourceVariant.variant_eq_ok {source : SourceVariant} {waiting : Pending}
    {variant : Variant} :
    source.variant waiting = .ok variant ↔
      (∀ attr ∈ source.fields.attributes, attr.IsReadable) ∧
        variant = source.attached waiting := by
  rw [SourceVariant.variant, outcome_bind_eq_ok]
  constructor
  · rintro ⟨⟨fields, isTuple⟩, done, same⟩
    obtain ⟨readable, rfl, rfl⟩ := SourceFields.fields_eq_ok.mp done
    cases same
    exact ⟨readable, rfl⟩
  · rintro ⟨readable, rfl⟩
    exact ⟨_, SourceFields.fields_eq_ok.mpr ⟨readable, rfl, rfl⟩, rfl⟩

/-- Variants are read one after another, but as if what waits for each was known before.  So the
walk over variants, which reads their fields on the way, comes down to the walk over entries. -/
theorem variantsAmong_eq_ok_attach {siblings : List (Sibling SourceVariant)} {pending : Pending}
    {variants : List Variant} :
    variantsAmong pending siblings = .ok variants ↔
      ∃ attached, attach pending siblings = .ok attached ∧
        attached.mapM (fun entry => entry.1.variant entry.2) = .ok variants := by
  -- what waits for a variant depends on the siblings in front of it, so it varies
  induction siblings generalizing pending variants with
  | nil =>
    refine ⟨fun done => ⟨[], rfl, done⟩, ?_⟩
    rintro ⟨_, same, done⟩
    cases same
    exact done
  | cons sibling rest ih =>
    cases sibling with
    | attr source =>
      simp only [variantsAmong, attach, outcome_bind_eq_ok, ih]
      constructor
      · rintro ⟨attr, read, attached, done, all⟩
        exact ⟨attached, ⟨attr, read, done⟩, all⟩
      · rintro ⟨attached, ⟨attr, read, done⟩, all⟩
        exact ⟨attr, read, attached, done, all⟩
    | comment piece => rw [variantsAmong, attach, ih]
    | other => rw [variantsAmong, attach, ih]
    | entry source =>
      simp only [variantsAmong, attach, outcome_bind_eq_ok, ih]
      constructor
      · rintro ⟨⟨fields, isTuple⟩, read, more, ⟨attached, done, all⟩, same⟩
        cases same
        refine ⟨(source, pending) :: attached, ⟨attached, done, rfl⟩, ?_⟩
        rw [List.mapM_cons, SourceVariant.variant, read, all]
        rfl
      · rintro ⟨_, ⟨attached, done, same⟩, all⟩
        cases same
        simp only [List.mapM_cons, SourceVariant.variant, outcome_bind_eq_ok] at all
        obtain ⟨_, ⟨fields, read, made⟩, more, others, same⟩ := all
        cases made
        exact ⟨fields, read, more, ⟨attached, done, others⟩, same⟩

private theorem variantsAmong_eq_ok
    {siblings : List (Sibling SourceVariant)} {variants : List Variant} :
    variantsAmong .empty siblings = .ok variants ↔
      (∀ attr ∈ variantAttributes siblings, attr.IsReadable) ∧
        variants = attachedVariants siblings := by
  rw [variantAttributes, forall_written, variantsAmong_eq_ok_attach]
  constructor
  · rintro ⟨attached, done, all⟩
    obtain ⟨readable, rfl⟩ := attach_empty_eq_ok.mp done
    rw [mapM_eq_ok_map fun _ _ => SourceVariant.variant_eq_ok, List.forall_mem_map,
      List.map_map] at all
    exact ⟨⟨readable, all.1⟩, all.2⟩
  · rintro ⟨⟨readable, inner⟩, rfl⟩
    refine ⟨_, attach_empty_eq_ok.mpr ⟨readable, rfl⟩, ?_⟩
    rw [mapM_eq_ok_map fun _ _ => SourceVariant.variant_eq_ok, List.forall_mem_map,
      List.map_map]
    exact ⟨inner, rfl⟩

/-! ### Declarations

A declaration has fields or variants, and both are attached in the same way inside of it.  What is
attached to the declaration itself is a parameter here, as it comes from siblings that the
declaration does not have. -/

namespace SourceBody

/-- The kind of declaration. -/
def kind : SourceBody → DeclarationKind
  | .struct _ => .struct
  | .enum _ => .enum
  | .union => .union

/-- The fields of a struct. -/
def fields : SourceBody → SourceFields
  | .struct fields => fields
  | .enum _ | .union => .none

/-- The siblings among which the variants of an enum are written. -/
def variants : SourceBody → List (Sibling SourceVariant)
  | .enum variants => variants
  | .struct _ | .union => []

/-- The attributes in a declaration that are looked at. -/
def attributes (body : SourceBody) : List SourceAttribute :=
  body.fields.attributes ++ variantAttributes body.variants

end SourceBody

/-- A declaration with what is attached to it.  What it derives is read off its attributes, which is
why derives are not kept by the reader. -/
def SourceDeclaration.attached (source : SourceDeclaration) (waiting : Pending) : Declaration where
  name := source.name
  kind := source.body.kind
  fields := attachedFields source.body.fields.siblings
  isTuple := source.body.fields.isTuple
  variants := attachedVariants source.body.variants
  attributes := waiting.attributes
  docs := waiting.docs
  derives := derivedNames waiting.attributes
  location := source.location

/-- A declaration is read exactly if the attributes in it are readable, and is given what waits. -/
theorem SourceDeclaration.declaration_eq_ok {source : SourceDeclaration} {waiting : Pending}
    {declaration : Declaration} :
    source.declaration waiting = .ok declaration ↔
      (∀ attr ∈ source.body.attributes, attr.IsReadable) ∧
        declaration = source.attached waiting := by
  obtain ⟨name, location, body⟩ := source
  cases body with
  | struct fields =>
    have written : (SourceBody.struct fields).attributes = fields.attributes := List.append_nil _
    rw [written, SourceDeclaration.declaration, outcome_bind_eq_ok]
    constructor
    · rintro ⟨⟨read, isTuple⟩, done, same⟩
      obtain ⟨readable, rfl, rfl⟩ := SourceFields.fields_eq_ok.mp done
      cases same
      exact ⟨readable, rfl⟩
    · rintro ⟨readable, rfl⟩
      exact ⟨_, SourceFields.fields_eq_ok.mpr ⟨readable, rfl, rfl⟩, rfl⟩
  | enum variants =>
    have written : (SourceBody.enum variants).attributes = variantAttributes variants := rfl
    rw [written, SourceDeclaration.declaration, outcome_bind_eq_ok]
    constructor
    · rintro ⟨read, done, same⟩
      obtain ⟨readable, rfl⟩ := variantsAmong_eq_ok.mp done
      cases same
      exact ⟨readable, rfl⟩
    · rintro ⟨readable, rfl⟩
      exact ⟨_, variantsAmong_eq_ok.mpr ⟨readable, rfl⟩, rfl⟩
  | union =>
    constructor
    · intro same
      cases same
      exact ⟨fun _ listed => (List.not_mem_nil listed).elim, rfl⟩
    · rintro ⟨-, rfl⟩
      rfl

end Source

end OpenResponse
