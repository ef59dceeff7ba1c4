import OpenResponse.Proofs.Schema.FloatFree
import OpenResponse.Proofs.Schema.Negotiation
import OpenResponse.Proofs.Schema.Records

/-!
# References inside schemas

A reference is to stand alone: what stands beside it is not looked at.  That is why a reference that
may be missing is wrapped before it is marked.  The documentation of a field is not treated in this
way; it is added to whatever the schema of the field is, and so it may come to stand beside a
reference.

Here it is said which references of a schema are not alone, whatever the schema is made from: those
of documented fields whose types are names, perhaps behind pointers.  All others stand alone, and
beside those there is nothing but a description.  Of fields with the same name the last one counts,
because properties are assigned one after the other.

What is asked of references may be anything that holds of references that stand alone, so that every
former of schemas needs to be looked at once only.

The proof works with an arbitrary property of references, and with the claim that all references in
a schema have it.  For each former of schemas this claim is the same as the claim about its parts.
Chaining these equivalences from a declaration down to its fields leaves the claim about the
references that stand there, and among these only the described ones need to be spoken of, because
any property in question holds of references that stand alone.  Choosing the property then gives
both results: which references there are, and which of them are alone.

## Main definitions

* `Document.HasSchema` — the schemas in a schema, at any depth
* `TypeRef.RefersTo` — types that are described by nothing but a reference
* `DescribedReference`, `Variant.DescribedReference`, `Declaration.DescribedReference` — references
  with the documentation of their fields
* `Document.ReferencesAre` — the references of a schema that do not stand alone

## Main statements

* `referencesAre_recordSchema`, `referencesAre_declarationSchema` — the references in declarations
* `references_alone` — **which references stand alone**

## Hypotheses

The property is asked to hold of all references that stand alone, and of nothing else.  For the
first result it is chosen to be "stands alone or is described", for the second to be "stands alone".

Described references are given by the fields that they come from.  Of several fields with one name
only the last is left among the properties, which is why `lastOfEach` appears; and the single field
of a tuple stands for the whole declaration, which has no place for its documentation.
-/

namespace OpenResponse

open Ordered

/-! ### Schemas in schemas

Schemas stand under certain keys only.  A reference inside an example or a list of names is not one
of the schema, and none of these keys holds such. -/

namespace Document

/-- The keys under which a schema holds another one. -/
def schemaKeys : List String := ["items", "additionalProperties", "not"]

/-- The keys under which a schema holds a list of others. -/
def schemaListKeys : List String := ["allOf", "oneOf", "anyOf"]

/-- The schemas that a member of a schema holds. -/
def memberSchemas (member : String × Document) : List Document :=
  if member.1 ∈ schemaKeys then [member.2]
  else
    match member.2 with
    | .array items => if member.1 ∈ schemaListKeys then items else []
    | .object properties => if member.1 = "properties" then properties.map (·.2) else []
    | _ => []

/-- The schemas that stand directly in a schema. -/
def subschemas (schema : Document) : List Document := schema.members.flatMap memberSchemas

/-- The schemas in a schema, at any depth, and the schema itself. -/
inductive HasSchema : Document → Document → Prop
  | itself (schema : Document) : schema.HasSchema schema
  | inside {schema inner part : Document} (direct : inner ∈ schema.subschemas)
      (deeper : inner.HasSchema part) : schema.HasSchema part

/-- Whether a schema is a reference, with or without something beside it. -/
def isReference (schema : Document) : Bool := has schema.members "$ref"

/-- Nothing stands beside the reference. -/
def IsBare (reference : Document) : Prop := ∀ member ∈ reference.members, member.1 = "$ref"

/-- What holds of every reference in a schema. -/
def EveryReference (P : Document → Prop) (schema : Document) : Prop :=
  ∀ part, schema.HasSchema part → part.isReference = true → P part

section Parts

variable {P : Document → Prop} {schema : Document}

private theorem everyReference_iff :
    schema.EveryReference P ↔
      (schema.isReference = true → P schema) ∧
        ∀ inner ∈ schema.subschemas, inner.EveryReference P := by
  constructor
  · intro every
    exact ⟨every schema (.itself schema),
      fun inner direct part deeper => every part (.inside direct deeper)⟩
  · rintro ⟨here, deeper⟩ part (_ | ⟨direct, inside⟩)
    · exact here
    · exact deeper _ direct part inside

/-- In a schema that is no reference the references are inside. -/
theorem everyReference_inside (noReference : schema.isReference = false) :
    schema.EveryReference P ↔ ∀ inner ∈ schema.subschemas, inner.EveryReference P := by
  rw [everyReference_iff, noReference]
  simp

/-- A schema without schemas in it that is no reference. -/
theorem everyReference_of_nil (noReference : schema.isReference = false)
    (nothing : schema.subschemas = []) : schema.EveryReference P := by
  rw [everyReference_inside noReference, nothing]
  exact fun _ listed => (List.not_mem_nil listed).elim

private theorem isReference_withMember
    {key : String} (other : key ≠ "$ref") (schema value : Document) :
    (schema.withMember key value).isReference = schema.isReference := by
  cases schema with
  | object members =>
    show (get? (assign members key value) "$ref").isSome = (get? members "$ref").isSome
    rw [get?_assign, if_neg (Ne.symm other)]
  | _ => rfl

/-- A member that holds no schemas adds none. -/
theorem subschemas_withMember {key : String}
    (noSchemas : ∀ value, memberSchemas (key, value) = [])
    (schema value : Document) : (schema.withMember key value).subschemas = schema.subschemas := by
  cases schema with
  | object members =>
    show (assign members key value).flatMap memberSchemas = members.flatMap memberSchemas
    induction members with
    | nil => simp [noSchemas]
    | cons first rest ih =>
      obtain ⟨other, old⟩ := first
      rw [assign]
      split
      next here => rw [List.flatMap_cons, List.flatMap_cons, here, noSchemas, noSchemas]
      next => rw [List.flatMap_cons, List.flatMap_cons, ih]
  | _ => rfl

private theorem memberSchemas_description (value : Document) :
    memberSchemas ("description", value) = [] := by
  cases value <;> rfl

private theorem memberSchemas_nullable (value : Document) :
    memberSchemas ("nullable", value) = [] := by
  cases value <;> rfl

end Parts

end Document

open Document

/-! ### References in schemas of types

Containers wrap a schema and add no reference to it.  An option is the one that takes care of
references, by wrapping them. -/

section Types

variable {P : Document → Prop} {schema : Document}

private theorem everyReference_arraySchema :
    (arraySchema schema).EveryReference P ↔ schema.EveryReference P := by
  rw [everyReference_inside rfl]
  exact List.forall_mem_singleton

private theorem everyReference_setSchema :
    (setSchema schema).EveryReference P ↔ schema.EveryReference P := by
  rw [everyReference_inside rfl]
  exact List.forall_mem_singleton

private theorem everyReference_mapSchema :
    (mapSchema schema).EveryReference P ↔ schema.EveryReference P := by
  rw [everyReference_inside rfl]
  exact List.forall_mem_singleton

private theorem nullableSchema_eq (schema : Document) :
    nullableSchema schema =
      if schema.isReference then .object [("allOf", .array [schema]), ("nullable", .bool true)]
      else schema.withMember "nullable" (.bool true) := rfl

private theorem isReference_nullableSchema (schema : Document) :
    (nullableSchema schema).isReference = false := by
  cases wrapped : schema.isReference with
  | true =>
    rw [nullableSchema_eq, if_pos wrapped]
    rfl
  | false => rwa [nullableSchema_eq, if_neg (Bool.eq_false_iff.mp wrapped),
      isReference_withMember (by decide)]

/-- A reference that may be missing is wrapped, and anything else is marked in its place. -/
theorem everyReference_nullableSchema :
    (nullableSchema schema).EveryReference P ↔ schema.EveryReference P := by
  rw [everyReference_inside (isReference_nullableSchema schema)]
  cases wrapped : schema.isReference with
  | true =>
    rw [nullableSchema_eq, if_pos wrapped]
    exact List.forall_mem_singleton
  | false =>
    rw [nullableSchema_eq, if_neg (Bool.eq_false_iff.mp wrapped),
      subschemas_withMember memberSchemas_nullable, ← everyReference_inside wrapped]

/-- A container has a schema only if what it contains has one. -/
theorem Container.exists_of_wrap {kind : Container} {outcome : Except Fault Document}
    (wrapped : kind.wrap outcome = .ok schema) : ∃ inner, outcome = .ok inner := by
  cases outcome with
  | ok inner => exact ⟨inner, rfl⟩
  | error fault => cases kind <;> cases wrapped

/-- A container adds no references. -/
theorem everyReference_wrap {kind : Container} {outcome : Except Fault Document}
    (wrapped : kind.wrap outcome = .ok schema) :
    ∃ inner, outcome = .ok inner ∧ (schema.EveryReference P ↔ inner.EveryReference P) := by
  cases kind with
  | pointer => exact ⟨schema, wrapped, Iff.rfl⟩
  | optional =>
    obtain ⟨inner, isInner, rfl⟩ := map_eq_ok.mp wrapped
    exact ⟨inner, isInner, everyReference_nullableSchema⟩
  | sequence =>
    obtain ⟨inner, isInner, rfl⟩ := map_eq_ok.mp wrapped
    exact ⟨inner, isInner, everyReference_arraySchema⟩
  | set =>
    obtain ⟨inner, isInner, rfl⟩ := map_eq_ok.mp wrapped
    exact ⟨inner, isInner, everyReference_setSchema⟩
  | map =>
    obtain ⟨inner, isInner, rfl⟩ := map_eq_ok.mp wrapped
    exact ⟨inner, isInner, everyReference_mapSchema⟩

private theorem subschemas_plainSchema (type : String) (format : Option String) :
    (plainSchema type format).subschemas = [] := by
  cases format <;> rfl

private theorem everyReference_primitiveSchema {name : String}
    (found : primitiveSchema? name = some schema) : schema.EveryReference P := by
  have plain : ∀ entry ∈ primitiveSchemas, entry.2.subschemas = [] := by
    simp [primitiveSchemas, subschemas_plainSchema]
  obtain ⟨entry, isEntry, rfl⟩ := Option.map_eq_some_iff.mp found
  exact everyReference_of_nil (primitiveSchema_cases found).2.2
    (plain entry (List.mem_of_find?_eq_some isEntry))

/-- A name with a fixed schema has no leaves. -/
theorem TypeRef.not_hasLeaf_of_fixed {path name : String} {args : List TypeRef}
    (fixed : primitiveSchema? (lastSegment path) ≠ none ∨ isAnything (lastSegment path) = true) :
    ¬ (TypeRef.path path args).HasLeaf name := by
  intro isLeaf
  cases isLeaf with
  | contained contains inside =>
    obtain ⟨notPrimitive, notAnything⟩ :=
      unfixed_of_container? (container?_of_contents? contains).1
    rw [notPrimitive, notAnything] at fixed
    simp at fixed
  | itself notPrimitive notAnything nothing =>
    rw [notPrimitive, notAnything] at fixed
    simp at fixed

/-- The references in the schema of a type are those in the schemas of its leaves. -/
theorem everyReference_schemaWith {leaf : String → Except Fault Document} {type : TypeRef}
    (made : schemaWith leaf type = .ok schema) :
    schema.EveryReference P ↔
      ∀ name, type.HasLeaf name → ∀ inner, leaf name = .ok inner → inner.EveryReference P := by
  induction type using TypeRef.inductOnArgs generalizing schema with
  | unit =>
    cases made
    exact iff_of_true (everyReference_of_nil rfl rfl) fun _ isLeaf => by cases isLeaf
  | slice item ih =>
    rw [schemaWith] at made
    obtain ⟨inner, isInner, rfl⟩ := map_eq_ok.mp made
    rw [everyReference_arraySchema, ih isInner]
    refine forall_congr' fun name => imp_congr_left ⟨.slice, fun isLeaf => ?_⟩
    cases isLeaf with
    | slice inside => exact inside
  | path path args ih =>
    -- fixed schemas have no leaves, containers have those of their contents, other names are leaves
    rw [schemaWith, schemasWith_eq_map, namedSchema_map] at made
    split at made
    next fixed found =>
      cases made
      refine iff_of_true (everyReference_primitiveSchema found) fun _ isLeaf => ?_
      exact absurd isLeaf (TypeRef.not_hasLeaf_of_fixed (.inl (by simp [found])))
    next notPrimitive =>
      split at made
      next anything =>
        cases made
        refine iff_of_true (everyReference_of_nil rfl rfl) fun _ isLeaf => ?_
        exact absurd isLeaf (TypeRef.not_hasLeaf_of_fixed (.inr anything))
      next notAnything =>
        split at made
        next kind arg contains =>
          obtain ⟨inner, isInner, same⟩ := everyReference_wrap made
          rw [same, ih arg (mem_of_contents? contains) isInner]
          refine forall_congr' fun name => imp_congr_left ⟨.contained contains, fun isLeaf => ?_⟩
          cases isLeaf with
          | contained others inside =>
            cases contains.symm.trans others
            exact inside
          | itself _ _ nothing => cases contains.symm.trans nothing
        next nothing =>
          constructor
          · intro every name isLeaf inner isInner
            cases isLeaf with
            | contained contains inside => cases nothing.symm.trans contains
            | itself =>
              cases made.symm.trans isInner
              exact every
          · intro every
            have notAny := Bool.eq_false_iff.mpr notAnything
            exact every _ (.itself notPrimitive notAny nothing) schema made

/-- A type has a schema only if each of its leaves has one. -/
theorem exists_of_hasLeaf {leaf : String → Except Fault Document} {type : TypeRef} {name : String}
    (isLeaf : type.HasLeaf name) (made : schemaWith leaf type = .ok schema) :
    ∃ inner, leaf name = .ok inner := by
  induction isLeaf generalizing schema with
  | slice _ ih =>
    rw [schemaWith] at made
    obtain ⟨inner, isInner, -⟩ := map_eq_ok.mp made
    exact ih isInner
  | contained contains _ ih =>
    rw [schemaWith_contained contains] at made
    obtain ⟨inner, isInner⟩ := Container.exists_of_wrap made
    exact ih isInner
  | itself notPrimitive notAnything nothing =>
    rw [schemaWith, schemasWith_eq_map, namedSchema_map, notPrimitive, notAnything, nothing] at made
    exact ⟨schema, made⟩

private theorem everyReference_schemaReference {name : String} :
    (schemaReference name).EveryReference P ↔ P (schemaReference name) := by
  rw [everyReference_iff]
  exact ⟨fun every => every.1 rfl, fun holds => ⟨fun _ => holds, fun _ listed => by cases listed⟩⟩

/-- Where nothing is written out, all references stand alone. -/
theorem everyReference_referenceSchema (bare : ∀ name, P (schemaReference name)) (type : TypeRef) :
    (referenceSchema type).EveryReference P := by
  refine (everyReference_schemaWith (schemaWith_ok schemaReference type)).mpr ?_
  rintro name - _ ⟨⟩
  exact everyReference_schemaReference.mpr (bare name)

/-- A type that is described by nothing but a reference to a name: a leaf, perhaps behind
pointers. -/
inductive TypeRef.RefersTo : TypeRef → String → Prop
  /-- A leaf refers to its name. -/
  | itself {path : String} {args : List TypeRef}
      (notPrimitive : primitiveSchema? (lastSegment path) = none)
      (notAnything : isAnything (lastSegment path) = false)
      (containsNothing : contents? (lastSegment path) args = none) :
      (TypeRef.path path args).RefersTo (lastSegment path)
  /-- A pointer refers to what the type behind it refers to. -/
  | pointer {path name : String} {args : List TypeRef} {arg : TypeRef}
      (contains : contents? (lastSegment path) args = some (.pointer, arg))
      (inside : arg.RefersTo name) : (TypeRef.path path args).RefersTo name

private theorem TypeRef.RefersTo.referenceSchema_eq {type : TypeRef} {name : String}
    (refers : type.RefersTo name) : referenceSchema type = schemaReference name := by
  induction refers with
  | itself notPrimitive notAnything nothing =>
    rw [referenceSchema, schemaWith, schemasWith_eq_map, namedSchema_map, notPrimitive, notAnything,
      nothing]
    rfl
  | pointer contains _ ih =>
    rw [referenceSchema_contained contains, Container.wrap, ih]

/-- Only such types are described by a reference. -/
theorem exists_refersTo {type : TypeRef} (refers : (referenceSchema type).isReference = true) :
    ∃ name, type.RefersTo name := by
  induction type using TypeRef.inductOnArgs with
  | unit => cases refers
  | slice item => cases refers
  | path path args ih =>
    cases contains : contents? (lastSegment path) args with
    | some contained =>
      -- a pointer alone passes the reference on; other containers wrap it
      obtain ⟨kind, arg⟩ := contained
      rw [referenceSchema_contained contains] at refers
      cases kind with
      | pointer =>
        obtain ⟨name, inside⟩ := ih arg (mem_of_contents? contains) refers
        exact ⟨name, .pointer contains inside⟩
      | optional =>
        have wrapped : (nullableSchema (referenceSchema arg)).isReference = true := refers
        rw [isReference_nullableSchema] at wrapped
        cases wrapped
      | sequence | set | map => cases refers
    | none =>
      rw [referenceSchema, schemaWith, schemasWith_eq_map, namedSchema_map, contains] at refers
      split at refers
      next schema found =>
        have noReference := (primitiveSchema_cases found).2.2
        exact absurd refers (by simpa [isReference] using noReference)
      next notPrimitive =>
        split at refers
        next => cases refers
        next notAnything =>
          exact ⟨_, .itself notPrimitive (Bool.eq_false_iff.mpr notAnything) contains⟩

end Types

/-! ### References in schemas of declarations

From a field to a record, to a variant, to an enum and to a declaration.  Each step is an
equivalence. -/

/-- The references of a schema that do not stand alone are the described ones: anything that holds
of references that stand alone holds of all references if it holds of these. -/
def Document.ReferencesAre (schema : Document) (described : Document → Prop) : Prop :=
  ∀ P : Document → Prop, (∀ name, P (schemaReference name)) →
    (schema.EveryReference P ↔ ∀ part, described part → P part)

/-- A reference to the type of a documented field, with the documentation beside it.  Of fields with
the same name the last one counts. -/
inductive DescribedReference (fields : List Field) : Document → Prop
  | mk {field : Field} {type : TypeRef} {name : String}
      (listed : field ∈ lastOfEach Field.name fields) (documented : field.docs ≠ [])
      (typed : field.type = .ok type) (refers : type.RefersTo name) :
      DescribedReference fields (documentedSchema field.docs (schemaReference name))

/-- A reference to the type of a documented field of a variant, unless that is a tuple. -/
def Variant.DescribedReference (variant : Variant) (part : Document) : Prop :=
  variant.isTuple = false ∧ OpenResponse.DescribedReference variant.fields part

/-- A reference to the type of a documented field of a declaration or of its variants.  A field that
stands for the whole declaration leaves its documentation behind. -/
inductive Declaration.DescribedReference (declaration : Declaration) : Document → Prop
  | variant {variant : Variant} {part : Document} (isEnum : declaration.kind = .enum)
      (listed : variant ∈ declaration.variants) (described : variant.DescribedReference part) :
      declaration.DescribedReference part
  | field {part : Document} (notEnum : declaration.kind ≠ .enum)
      (severalOrNamed : ¬ (declaration.isTuple = true ∧ declaration.fields.length = 1))
      (described : OpenResponse.DescribedReference declaration.fields part) :
      declaration.DescribedReference part

/-- A described reference is not alone. -/
theorem DescribedReference.not_isBare {fields : List Field} {part : Document}
    (described : DescribedReference fields part) : ¬ part.IsBare := by
  obtain ⟨-, documented, -, -⟩ := described
  intro bare
  rw [documentedSchema, if_neg (by simpa using documented)] at bare
  have beside : "description" = "$ref" := bare _ (List.mem_cons_of_mem _ List.mem_cons_self)
  exact absurd beside (by decide)

private theorem Declaration.DescribedReference.not_isBare
    {declaration : Declaration} {part : Document}
    (described : declaration.DescribedReference part) : ¬ part.IsBare := by
  cases described with
  | variant _ _ described => exact described.2.not_isBare
  | field _ _ described => exact described.not_isBare

namespace Document.ReferencesAre

variable {schema : Document}

/-- A schema with the references of another one. -/
theorem congr {inner : Document} {described : Document → Prop}
    (references : inner.ReferencesAre described)
    (same : ∀ P, schema.EveryReference P ↔ inner.EveryReference P) :
    schema.ReferencesAre described :=
  fun P bare => (same P).trans (references P bare)

private theorem of_iff
    {described other : Document → Prop} (references : schema.ReferencesAre described)
    (same : ∀ part, described part ↔ other part) : schema.ReferencesAre other := by
  intro P bare
  rw [references P bare]
  simp only [same]

/-- A schema all of whose references stand alone. -/
theorem none {described : Document → Prop} (nothing : ∀ part, ¬ described part)
    (every : ∀ P : Document → Prop, (∀ name, P (schemaReference name)) → schema.EveryReference P) :
    schema.ReferencesAre described :=
  fun P bare => iff_of_true (every P bare) fun part isPart => absurd isPart (nothing part)

end Document.ReferencesAre

section Declarations

variable {P : Document → Prop} {schema : Document} {fields : List Field} {docs : List String}

/-- The references in the schema of a field: one with the documentation beside it, if there is
documentation and the type is described by a reference. -/
theorem everyReference_documentedSchema (bare : ∀ name, P (schemaReference name)) (type : TypeRef)
    (docs : List String) :
    (documentedSchema docs (referenceSchema type)).EveryReference P ↔
      (docs ≠ [] → ∀ name, type.RefersTo name →
        P (documentedSchema docs (schemaReference name))) := by
  have inside := everyReference_referenceSchema bare type
  cases docs with
  | nil => exact iff_of_true inside fun documented => absurd rfl documented
  | cons line lines =>
    have documented (schema : Document) : documentedSchema (line :: lines) schema =
        schema.withMember "description" (.string (joinLines (line :: lines))) := rfl
    rw [documented, everyReference_iff, isReference_withMember (by decide),
      subschemas_withMember memberSchemas_description]
    constructor
    · rintro ⟨here, -⟩ - name refers
      have same := refers.referenceSchema_eq
      rw [same] at here
      exact here rfl
    · intro each
      refine ⟨fun isReference => ?_, (everyReference_iff.mp inside).2⟩
      obtain ⟨name, refers⟩ := exists_refersTo isReference
      rw [refers.referenceSchema_eq]
      exact each (List.cons_ne_nil _ _) name refers

/-- A described record holds its properties and no other schemas. -/
theorem subschemas_recordMembers (description : String) (required : List String)
    (properties : Members) :
    (object (recordMembers description required properties)).subschemas =
      properties.map (·.2) := by
  unfold recordMembers memberUnless
  cases description.isEmpty <;> cases required.isEmpty <;>
    simp [subschemas, members, memberSchemas, schemaKeys, schemaListKeys, strings]

private theorem isReference_recordMembers (description : String) (required : List String)
    (properties : Members) :
    (object (recordMembers description required properties)).isReference = false := by
  unfold recordMembers memberUnless
  cases description.isEmpty <;> cases required.isEmpty <;> rfl

/-- Related lists have related last members if their keys are the same alike. -/
theorem forall₂_lastOfEach {α β γ δ : Type} [DecidableEq γ] [DecidableEq δ] {R : α → β → Prop}
    {key : α → γ} {other : β → δ}
    (alike : ∀ a b a' b', R a b → R a' b' → (key a = key a' ↔ other b = other b'))
    {items : List α} {values : List β} (related : List.Forall₂ R items values) :
    List.Forall₂ R (lastOfEach key items) (lastOfEach other values) := by
  induction related with
  | nil => exact .nil
  | @cons item value items values first rest ih =>
    have repeated : key item ∈ items.map key ↔ other value ∈ values.map other := by
      rw [List.mem_map, List.mem_map]
      obtain ⟨toValues, toItems⟩ := mem_of_forall₂ rest
      constructor
      · rintro ⟨later, listed, same⟩
        obtain ⟨image, isImage, pair⟩ := toValues later listed
        exact ⟨image, isImage, (alike _ _ _ _ pair first).mp same⟩
      · rintro ⟨later, listed, same⟩
        obtain ⟨source, isSource, pair⟩ := toItems later listed
        exact ⟨source, isSource, (alike _ _ _ _ pair first).mpr same⟩
    rw [lastOfEach, lastOfEach]
    by_cases inRest : key item ∈ items.map key
    · rwa [if_pos inRest, if_pos (repeated.mp inRest)]
    · rw [if_neg inRest, if_neg (mt repeated.mpr inRest)]
      exact .cons first ih

/-- The properties that are left of named fields are the schemas of the last ones of each name. -/
theorem forall₂_properties {entries : List (String × Document × Bool)}
    (described : fields.mapM fieldSchema = .ok entries) :
    List.Forall₂ (fun field property => ∃ type, field.name = some property.1 ∧
        field.type = .ok type ∧ property.2 = documentedSchema field.docs (referenceSchema type))
      (lastOfEach Field.name fields) (lastOfEach Prod.fst (entrySchemas entries)) := by
  refine forall₂_lastOfEach ?_ ?_
  · rintro field property other otherProperty ⟨-, named, -⟩ ⟨-, otherNamed, -⟩
    rw [named, otherNamed, Option.some_inj]
  · rw [mapM_eq_ok] at described
    refine List.forall₂_map_right_iff.mpr (described.imp fun field entry given => ?_)
    obtain ⟨name, type, named, typed, rfl⟩ := fieldSchema_eq_ok.mp given
    exact ⟨type, named, typed, rfl⟩

/-- The references in a record.  The only ones that do not stand alone are those of documented
fields. -/
theorem referencesAre_recordSchema (given : recordSchema fields docs = .ok schema) :
    schema.ReferencesAre (DescribedReference fields) := by
  intro P bare
  rw [recordSchema_eq] at given
  obtain ⟨entries, described, rfl⟩ := map_eq_ok.mp given
  obtain ⟨toProperty, toField⟩ := mem_of_forall₂ (forall₂_properties described)
  rw [entriesRecord, everyReference_inside (isReference_recordMembers _ _ _),
    subschemas_recordMembers]
  simp only [List.forall_mem_map, mem_ofList]
  constructor
  · rintro every _ ⟨listed, documented, typed, refers⟩
    obtain ⟨property, isProperty, type, -, sameType, isSchema⟩ := toProperty _ listed
    cases typed.symm.trans sameType
    have inside := every property isProperty
    rw [isSchema, everyReference_documentedSchema bare] at inside
    exact inside documented _ refers
  · intro every property isProperty
    obtain ⟨field, listed, type, -, typed, isSchema⟩ := toField property isProperty
    rw [isSchema, everyReference_documentedSchema bare]
    exact fun documented name refers => every _ (.mk listed documented typed refers)

private theorem not_describedReference_nil (part : Document) : ¬ DescribedReference [] part := by
  rintro ⟨listed, -, -, -⟩
  exact List.not_mem_nil listed

private theorem everyReference_tupleSchema (items : List Document) :
    (tupleSchema items).EveryReference P ↔ ∀ item ∈ items, item.EveryReference P := by
  have inside : (tupleSchema items).subschemas = [.object [("oneOf", .array items)]] := rfl
  rw [everyReference_inside rfl, inside, List.forall_mem_singleton, everyReference_inside rfl]
  simp [subschemas, members, memberSchemas, schemaKeys, schemaListKeys]

/-- The references in what a variant with fields carries. -/
theorem referencesAre_payloadSchema {variant : Variant}
    (given : payloadSchema variant = .ok schema) :
    schema.ReferencesAre variant.DescribedReference := by
  unfold payloadSchema at given
  cases isTuple : variant.isTuple with
  | false =>
    rw [isTuple] at given
    have made : recordSchema variant.fields variant.docs = .ok schema := given
    intro P bare
    rw [referencesAre_recordSchema made P bare]
    exact forall_congr' fun part => imp_congr_left ⟨fun part => ⟨isTuple, part⟩, fun part => part.2⟩
  | true =>
    -- the types of a tuple have no descriptions, so nothing stands beside their references
    refine .none (fun part described => ?_) fun P bare => ?_
    · rw [Variant.DescribedReference, isTuple] at described
      cases described.1
    · rw [isTuple] at given
      simp only [Bool.not_true, Bool.false_eq_true, if_false] at given
      split at given
      next field single =>
        obtain ⟨type, -, done⟩ := outcome_bind_eq_ok.mp given
        cases done
        exact everyReference_referenceSchema bare type
      next =>
        obtain ⟨types, -, done⟩ := outcome_bind_eq_ok.mp given
        cases done
        rw [everyReference_tupleSchema, List.forall_mem_map]
        exact fun type _ => everyReference_referenceSchema bare type

/-- The references in the schema of a variant. -/
theorem referencesAre_variantSchema {variant : Variant}
    (given : variantSchema variant = .ok schema) :
    schema.ReferencesAre variant.DescribedReference := by
  unfold variantSchema at given
  split at given
  next empty =>
    cases given
    refine .none (fun part described => ?_) fun P _ => everyReference_of_nil rfl rfl
    obtain ⟨-, described⟩ := described
    rw [List.isEmpty_iff.mp empty] at described
    exact not_describedReference_nil part described
  next =>
    obtain ⟨payload, isPayload, done⟩ := outcome_bind_eq_ok.mp given
    cases done
    refine (referencesAre_payloadSchema isPayload).congr fun P => ?_
    rw [everyReference_inside rfl]
    exact List.forall_mem_singleton

/-- A description adds no references to a schema that is none. -/
theorem everyReference_describedSchema {schema : Members}
    (noReference : (object schema).isReference = false) (description : String) :
    (object (describedSchema description schema)).EveryReference P ↔
      (object schema).EveryReference P := by
  unfold describedSchema
  split
  · exact Iff.rfl
  · have described : object (assign schema "description" (.string description)) =
        (object schema).withMember "description" (.string description) := rfl
    rw [described, everyReference_inside (by rwa [isReference_withMember (by decide)]),
      subschemas_withMember memberSchemas_description, ← everyReference_inside noReference]

/-- The references in the schema of an enum. -/
theorem referencesAre_enumSchema {variants : List Variant}
    (given : enumSchema variants docs = .ok schema) :
    schema.ReferencesAre fun part => ∃ variant ∈ variants, variant.DescribedReference part := by
  unfold enumSchema at given
  split at given
  next allEmpty =>
    -- variants without fields are listed by their names, which refer to nothing
    cases given
    refine .none (fun part => ?_) fun P _ => ?_
    · rintro ⟨variant, listed, -, described⟩
      rw [List.isEmpty_iff.mp (List.all_eq_true.mp allEmpty variant listed)] at described
      exact not_describedReference_nil part described
    · rw [everyReference_describedSchema rfl]
      exact everyReference_of_nil rfl rfl
  next =>
    obtain ⟨schemas, made, done⟩ := outcome_bind_eq_ok.mp given
    cases done
    obtain ⟨toSchema, toVariant⟩ := mem_of_forall₂ (mapM_eq_ok.mp made)
    intro P bare
    have inside : (object [("oneOf", array schemas)]).EveryReference P ↔
        ∀ schema ∈ schemas, schema.EveryReference P := by
      rw [everyReference_inside rfl]
      simp [subschemas, members, memberSchemas, schemaKeys, schemaListKeys]
    rw [everyReference_describedSchema rfl, inside]
    constructor
    · rintro every part ⟨variant, listed, described⟩
      obtain ⟨schema, isListed, isSchema⟩ := toSchema variant listed
      exact (referencesAre_variantSchema isSchema P bare).mp (every schema isListed) part described
    · intro every schema isListed
      obtain ⟨variant, listed, isSchema⟩ := toVariant schema isListed
      exact (referencesAre_variantSchema isSchema P bare).mpr fun part described =>
        every part ⟨variant, listed, described⟩

/-- The references in the schema of a declaration.  There is one case for each shape, and only in
records is anything put beside a reference. -/
theorem referencesAre_declarationSchema {declaration : Declaration}
    (given : declarationSchema declaration = .ok schema) :
    schema.ReferencesAre declaration.DescribedReference := by
  unfold declarationSchema at given
  split at given
  next isEnum =>
    refine (referencesAre_enumSchema given).of_iff fun part => ⟨?_, fun described => ?_⟩
    · rintro ⟨variant, listed, described⟩
      exact .variant isEnum listed described
    · cases described with
      | variant _ listed described => exact ⟨_, listed, described⟩
      | field notEnum => exact absurd isEnum notEnum
  next field isTuple single notEnum =>
    -- the reference to the type of a single field stands alone
    obtain ⟨type, -, done⟩ := outcome_bind_eq_ok.mp given
    cases done
    refine .none (fun part described => ?_) fun P bare => everyReference_referenceSchema bare type
    cases described with
    | variant isEnum => exact notEnum isEnum
    | field _ severalOrNamed => exact severalOrNamed ⟨isTuple, by rw [single]; rfl⟩
  next empty notEnum =>
    cases given
    refine .none (fun part described => ?_) fun P bare => everyReference_of_nil rfl rfl
    cases described with
    | variant isEnum => exact notEnum isEnum
    | field _ _ described =>
      rw [empty] at described
      exact not_describedReference_nil part described
  next notEnum _ notSingle =>
    refine (referencesAre_recordSchema given).of_iff fun part => ⟨fun described => ?_, ?_⟩
    · refine .field notEnum ?_ described
      rintro ⟨isTuple, single⟩
      obtain ⟨field, only⟩ := List.length_eq_one_iff.mp single
      exact notSingle field isTuple only
    · rintro (⟨isEnum⟩ | ⟨-, -, described⟩)
      · exact absurd isEnum notEnum
      · exact described

end Declarations

/-! ### References that stand alone

The equivalences are used here with the two properties. -/

/-- The references in the schema of a type that may be written out: those in the declarations of its
leaves, as far as these are written out and known. -/
theorem referencesAre_schemaOf {known : List Declaration} {type : InlineType} {schema : Document}
    (given : schemaOf known type = .ok schema) :
    schema.ReferencesAre fun part => type.isInline = true ∧ ∃ name declaration,
      type.type.HasLeaf name ∧ findDeclaration known name = some declaration ∧
        declaration.DescribedReference part := by
  obtain ⟨type, isInline⟩ := type
  cases isInline with
  | false =>
    cases given
    exact .none (fun part described => by cases described.1) fun P bare =>
      everyReference_referenceSchema bare type
  | true =>
    -- a leaf that is known is described by its declaration, and any other is a reference by itself
    intro P bare
    rw [everyReference_schemaWith given]
    constructor
    · rintro every part ⟨-, name, declaration, isLeaf, found, described⟩
      obtain ⟨inner, isInner⟩ := exists_of_hasLeaf isLeaf given
      have isSchema : declarationSchema declaration = .ok inner := by
        rwa [leafSchema, found] at isInner
      exact (referencesAre_declarationSchema isSchema P bare).mp
        (every name isLeaf inner isInner) part described
    · intro every name isLeaf inner isInner
      unfold leafSchema at isInner
      split at isInner
      next declaration found =>
        exact (referencesAre_declarationSchema isInner P bare).mpr fun part described =>
          every part ⟨rfl, name, declaration, isLeaf, found, described⟩
      next =>
        cases isInner
        exact everyReference_schemaReference.mpr (bare name)

/-- The references in a schema, of which the described ones do not stand alone: each of them is one
of these or has nothing beside it, and all of them stand alone exactly if there are no described
ones. -/
structure Document.HoldsReferences (schema : Document) (described : Document → Prop) : Prop where
  each : ∀ part, schema.HasSchema part → part.isReference = true →
    (∃ name, part = schemaReference name) ∨ described part
  alone_iff : (∀ part, schema.HasSchema part → part.isReference = true → part.IsBare) ↔
    ∀ part, ¬ described part

private theorem Document.ReferencesAre.holds {schema : Document} {described : Document → Prop}
    (references : schema.ReferencesAre described)
    (notBare : ∀ part, described part → ¬ part.IsBare) : schema.HoldsReferences described where
  each := by
    have every := references (fun part => (∃ name, part = schemaReference name) ∨ described part)
      fun name => .inl ⟨name, rfl⟩
    exact every.mpr fun part isPart => .inr isPart
  alone_iff := by
    have every := references IsBare fun name member listed => by
      rw [List.mem_singleton.mp listed]
    refine every.trans (forall_congr' fun part => ?_)
    exact ⟨fun bare isPart => notBare part isPart (bare isPart),
      fun absent isPart => absurd isPart absent⟩

/-- **Which references stand alone.**  Whatever is described, the references in its schema are bare,
except for those of documented fields whose types are nothing but names behind pointers: the
documentation of such a field stands beside the reference.  So all references stand alone exactly if
there are no such fields, in the record, among the variants, in the declaration or in the
declarations that are written out. -/
theorem references_alone (known : List Declaration) :
    (∀ type schema, schemaOf known type = .ok schema →
      schema.HoldsReferences fun part => type.isInline = true ∧ ∃ name declaration,
        type.type.HasLeaf name ∧ findDeclaration known name = some declaration ∧
          declaration.DescribedReference part) ∧
    (∀ declaration schema, declarationSchema declaration = .ok schema →
      schema.HoldsReferences declaration.DescribedReference) ∧
    (∀ fields docs schema, recordSchema fields docs = .ok schema →
      schema.HoldsReferences (DescribedReference fields)) ∧
    (∀ variants docs schema, enumSchema variants docs = .ok schema →
      schema.HoldsReferences fun part =>
        ∃ variant ∈ variants, Variant.DescribedReference variant part) := by
  refine ⟨fun type schema given => (referencesAre_schemaOf given).holds ?_,
    fun declaration schema given => (referencesAre_declarationSchema given).holds ?_,
    fun fields docs schema given => (referencesAre_recordSchema given).holds ?_,
    fun variants docs schema given => (referencesAre_enumSchema given).holds ?_⟩
  · rintro part ⟨-, name, declaration, -, -, described⟩
    exact described.not_isBare
  · exact fun part described => described.not_isBare
  · exact fun part described => described.not_isBare
  · rintro part ⟨variant, -, -, described⟩
    exact described.not_isBare

/-- A documented field with a declared type. -/
def payerField : Field := ⟨some "payer", "User", .start, [], ["Who pays."]⟩

/-- A struct with a documented field. -/
def accountStruct : Declaration :=
  ⟨"Account", .struct, [payerField], false, [], [], [], [], .start⟩

/-- The documentation of the payer stands beside the reference to the type of the field. -/
theorem accountStruct_described : accountStruct.DescribedReference
    (documentedSchema ["Who pays."] (schemaReference "User")) := by
  have written : (TypeRef.path "User" []).WellFormed := .name (by decide)
  have typed : payerField.type = .ok (.path "User" []) := readTypeRef_text written .start
  have refers : (TypeRef.path "User" []).RefersTo (lastSegment "User") := .itself rfl rfl rfl
  have listed : payerField ∈ [payerField] := List.mem_singleton_self _
  exact .field (by decide) (by decide) (.mk listed (by decide) typed refers)

/-- Written out, an account that may be missing holds a reference that is not alone; referred to, it
holds none. -/
theorem references_alone_account :
    let type := TypeRef.path "Option" [.path "Account" []]
    (∃ schema, schemaOf [accountStruct] ⟨type, true⟩ = .ok schema ∧
      ¬ ∀ part, schema.HasSchema part → part.isReference = true → part.IsBare) ∧
    ∃ schema, schemaOf [accountStruct] ⟨type, false⟩ = .ok schema ∧
      ∀ part, schema.HasSchema part → part.isReference = true → part.IsBare := by
  intro type
  have references := (references_alone [accountStruct]).1
  constructor
  · obtain ⟨schema, given⟩ : ∃ schema, schemaOf [accountStruct] ⟨type, true⟩ = .ok schema :=
      exists_of_isOk (by decide +kernel)
    refine ⟨schema, given, fun alone => ?_⟩
    have isLeaf : type.HasLeaf "Account" := .contained rfl (.itself rfl rfl rfl)
    have found : findDeclaration [accountStruct] "Account" = some accountStruct := rfl
    exact (references _ schema given).alone_iff.mp alone _
      ⟨rfl, "Account", accountStruct, isLeaf, found, accountStruct_described⟩
  · refine ⟨_, rfl, (references ⟨type, false⟩ _ rfl).alone_iff.mpr fun part described => ?_⟩
    cases described.1

/-- Not all references in schemas of declarations stand alone. -/
theorem declarationSchema_documentedReference :
    ¬ ∀ (declaration : Declaration) (schema : Document),
      declarationSchema declaration = .ok schema →
        ∀ part, schema.HasSchema part → part.isReference = true → part.IsBare := by
  intro alone
  obtain ⟨schema, given⟩ : ∃ schema, declarationSchema accountStruct = .ok schema :=
    exists_of_isOk (by decide +kernel)
  have references := (referencesAre_declarationSchema given).holds fun part described =>
    described.not_isBare
  exact references.alone_iff.mp (alone accountStruct schema given) _ accountStruct_described

end OpenResponse
