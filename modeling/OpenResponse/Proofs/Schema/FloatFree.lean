import OpenResponse.Proofs.Document.Ordered
import OpenResponse.Proofs.Document.Separation
import OpenResponse.Proofs.Schema.Describer

/-!
# Schemas without floating point numbers

Schemas are made of names, of descriptions and of counts, so the only numbers in them are integers,
whatever is declared.  A number with a fraction gets into a response through its examples alone.

A schema is built by a few functions which put objects, lists, texts and truth values together, and
by assigning members one after the other.  Assigning is the only step at which something could get
lost in the bookkeeping, because it may replace a member; but what is among the members afterwards
was there before or has just been assigned.  From there each function keeps documents free of
floating point numbers, and the proofs follow the functions, from types to fields, from fields to
variants, and from these to declarations.

## Main statements

* `floatFree_schemaOf` — the schema of a type holds no floating point numbers
* `floatFree_declarationSchema` — nor does that of a declaration

## Hypotheses

Most statements have the form that an outcome which is a document is free of floating point numbers.
`FreeOutcome` names this form, so that containers and leaves can be treated as outcomes, without a
case for failure in every step.

The leaves of a type are where the two results meet.  A leaf that is not written out is a reference,
and one that is has the schema of its declaration, whose fields hold nothing but references.  So
declarations come first, and no induction over declarations is needed.
-/

namespace OpenResponse

open Document

/-! ### Assigning

These laws hold for values of any sort and any property of them. -/

/-- What holds of the values of members and of an assigned value holds of all of them then. -/
theorem Ordered.forall_mem_assign {α : Type} {P : α → Prop} {members : Ordered α}
    (all : ∀ member ∈ members, P member.2) (name : String) {value : α} (holds : P value) :
    ∀ member ∈ assign members name value, P member.2 := by
  induction members with
  | nil => exact List.forall_mem_singleton.mpr holds
  | cons first rest ih =>
    obtain ⟨other, old⟩ := first
    obtain ⟨firstHolds, restHold⟩ := List.forall_mem_cons.mp all
    rw [assign]
    split
    · exact List.forall_mem_cons.mpr ⟨holds, restHold⟩
    · exact List.forall_mem_cons.mpr ⟨firstHolds, ih restHold⟩

/-- What holds of the values of pairs holds of those that are left of them. -/
theorem Ordered.forall_mem_ofList {α : Type} {P : α → Prop} {pairs : List (String × α)}
    (all : ∀ pair ∈ pairs, P pair.2) : ∀ member ∈ ofList pairs, P member.2 := by
  induction pairs using List.reverseRecOn with
  | nil =>
    intro member listed
    cases listed
  | append_singleton pairs pair ih =>
    rw [List.forall_mem_append, List.forall_mem_singleton] at all
    rw [ofList_append_singleton]
    exact forall_mem_assign (ih all.1) pair.1 all.2

/-- An object with a member assigned. -/
theorem Document.FloatFree.withMember {document value : Document} (free : document.FloatFree)
    (name : String) (valueFree : value.FloatFree) : (document.withMember name value).FloatFree := by
  cases document with
  | object members =>
    exact .object (Ordered.forall_mem_assign (floatFree_object.mp free) name valueFree)
  | _ => exact free

/-! ### Types

A container wraps the schema of what it contains in words, so it is enough that leaves are free. -/

private theorem floatFree_plainSchema (type : String) (format : Option String) :
    (plainSchema type format).FloatFree := by
  cases format <;> simp [plainSchema]

private theorem floatFree_primitiveSchema {name : String} {schema : Document}
    (found : primitiveSchema? name = some schema) : schema.FloatFree := by
  have plain : ∀ entry ∈ primitiveSchemas, entry.2.FloatFree := by
    simp [primitiveSchemas, floatFree_plainSchema]
  obtain ⟨entry, isEntry, rfl⟩ := Option.map_eq_some_iff.mp found
  exact plain entry (List.mem_of_find?_eq_some isEntry)

private theorem floatFree_nullableSchema {schema : Document} (free : schema.FloatFree) :
    (nullableSchema schema).FloatFree := by
  unfold nullableSchema
  split
  · simp [free]
  · exact free.withMember _ (.bool true)

/-- An outcome that holds no floating point numbers if it is a document.  Nothing is said about
failures. -/
def FreeOutcome (outcome : Except Fault Document) : Prop :=
  ∀ document, outcome = .ok document → document.FloatFree

namespace FreeOutcome

private theorem ok {document : Document} (free : document.FloatFree) :
    FreeOutcome (.ok document) := by
  rintro _ ⟨⟩
  exact free

/-- An outcome of which something is made that keeps documents free. -/
theorem map {outcome : Except Fault Document} (free : FreeOutcome outcome)
    {change : Document → Document} (keeps : ∀ document, document.FloatFree →
      (change document).FloatFree) : FreeOutcome (change <$> outcome) := by
  intro document done
  obtain ⟨inner, isInner, rfl⟩ := map_eq_ok.mp done
  exact keeps inner (free inner isInner)

/-- A container adds nothing but words to the schema of what it contains. -/
theorem wrap {outcome : Except Fault Document} (free : FreeOutcome outcome) (kind : Container) :
    FreeOutcome (kind.wrap outcome) := by
  cases kind with
  | optional => exact free.map fun _ => floatFree_nullableSchema
  | pointer => exact free
  | sequence => exact free.map fun _ inner => by simp [arraySchema, inner]
  | set => exact free.map fun _ inner => by simp [setSchema, inner]
  | map => exact free.map fun _ inner => by simp [mapSchema, inner]

/-- The schema of a type is as free of floating point numbers as those of its leaves. -/
theorem schemaWith {leaf : String → Except Fault Document}
    (leaves : ∀ name, FreeOutcome (leaf name)) (type : TypeRef) :
    FreeOutcome (schemaWith leaf type) := by
  induction type using TypeRef.inductOnArgs with
  | unit => exact ok (by simp [unitSchema])
  | slice item ih =>
    rw [OpenResponse.schemaWith]
    exact ih.map fun _ inner => by simp [arraySchema, inner]
  | path path args ih =>
    rw [OpenResponse.schemaWith, schemasWith_eq_map, namedSchema_map]
    split
    next schema found => exact ok (floatFree_primitiveSchema found)
    next =>
      split
      next => exact ok (by simp)
      next =>
        split
        next kind arg contains => exact (ih arg (mem_of_contents? contains)).wrap kind
        next => exact leaves _

end FreeOutcome

/-- A type whose leaves have schemas in any case has one too. -/
theorem schemaWith_ok (leaf : String → Document) (type : TypeRef) :
    schemaWith (fun name => (.ok (leaf name) : Except Fault Document)) type =
      .ok (Id.run (schemaWith (fun name => pure (leaf name)) type)) := by
  induction type using TypeRef.inductOnArgs with
  | unit => rfl
  | slice item ih =>
    rw [schemaWith, ih]
    rfl
  | path path args ih =>
    rw [schemaWith, schemaWith, schemasWith_eq_map, schemasWith_eq_map, List.map_congr_left ih]
    exact Describer.namedSchema_ok leaf (lastSegment path) _ args

private theorem floatFree_schemaReference (name : String) : (schemaReference name).FloatFree := by
  simp [schemaReference]

private theorem floatFree_referenceSchema (type : TypeRef) : (referenceSchema type).FloatFree :=
  FreeOutcome.schemaWith (fun name => .ok (floatFree_schemaReference name)) type _
    (schemaWith_ok schemaReference type)

/-! ### Declarations

In the order in which the schema is made: fields, records, variants, enums, declarations. -/

private theorem floatFree_fieldSchema {field : Field} {entry : String × Document × Bool}
    (given : fieldSchema field = .ok entry) : entry.2.1.FloatFree := by
  unfold fieldSchema at given
  split at given
  next => cases given
  next name _ =>
    obtain ⟨type, -, done⟩ := outcome_bind_eq_ok.mp given
    cases done
    dsimp only
    split
    · exact floatFree_referenceSchema type
    · exact (floatFree_referenceSchema type).withMember _ (.string _)

private theorem floatFree_describedSchema {schema : Members} (free : (object schema).FloatFree)
    (description : String) : (object (describedSchema description schema)).FloatFree := by
  unfold describedSchema
  split
  · exact free
  · exact free.withMember "description" (.string description)

/-- The schema of named fields. -/
theorem floatFree_recordSchema {fields : List Field} {docs : List String} {schema : Document}
    (given : recordSchema fields docs = .ok schema) : schema.FloatFree := by
  obtain ⟨entries, isEntries, done⟩ := outcome_bind_eq_ok.mp given
  cases done
  have each : ∀ entry ∈ entries, entry.2.1.FloatFree := fun entry listed => by
    obtain ⟨field, -, isEntry⟩ := (mem_of_forall₂ (mapM_eq_ok.mp isEntries)).2 entry listed
    exact floatFree_fieldSchema isEntry
  have described : (object (describedSchema (joinLines docs)
      [("type", .string "object")])).FloatFree := floatFree_describedSchema (by simp) _
  refine @FloatFree.withMember (.object _) _ ?_ "properties"
    (.object (Ordered.forall_mem_ofList ?_))
  · split
    · exact described
    · exact described.withMember "required" (floatFree_strings _)
  · intro property listed
    obtain ⟨entry, isEntry, rfl⟩ := List.mem_map.mp listed
    exact each entry isEntry

/-- What a variant with fields carries. -/
theorem floatFree_payloadSchema {variant : Variant} {schema : Document}
    (given : payloadSchema variant = .ok schema) : schema.FloatFree := by
  unfold payloadSchema at given
  split at given
  next => exact floatFree_recordSchema given
  next =>
    split at given
    next field =>
      obtain ⟨type, -, done⟩ := outcome_bind_eq_ok.mp given
      cases done
      exact floatFree_referenceSchema type
    next fields =>
      obtain ⟨types, -, done⟩ := outcome_bind_eq_ok.mp given
      cases done
      simp [tupleSchema, floatFree_referenceSchema]

private theorem floatFree_variantSchema {variant : Variant} {schema : Document}
    (given : variantSchema variant = .ok schema) : schema.FloatFree := by
  unfold variantSchema at given
  split at given
  next =>
    cases given
    simp [namesSchema]
  next =>
    obtain ⟨payload, isPayload, done⟩ := outcome_bind_eq_ok.mp given
    cases done
    simp [floatFree_payloadSchema isPayload]

private theorem floatFree_enumSchema
    {variants : List Variant} {docs : List String} {schema : Document}
    (given : enumSchema variants docs = .ok schema) : schema.FloatFree := by
  unfold enumSchema at given
  split at given
  next =>
    cases given
    exact floatFree_describedSchema (by simp [namesSchema]) _
  next =>
    obtain ⟨schemas, isSchemas, done⟩ := outcome_bind_eq_ok.mp given
    cases done
    have each : ∀ schema ∈ schemas, schema.FloatFree := fun schema listed => by
      obtain ⟨variant, -, isSchema⟩ := (mem_of_forall₂ (mapM_eq_ok.mp isSchemas)).2 schema listed
      exact floatFree_variantSchema isSchema
    exact floatFree_describedSchema (by simpa using each) _

/-- The schema of a declaration holds no floating point numbers.  The numbers in schemas are sizes
and bounds of integers, so this needs nothing of the declaration. -/
theorem floatFree_declarationSchema {declaration : Declaration} {schema : Document}
    (given : declarationSchema declaration = .ok schema) : schema.FloatFree := by
  unfold declarationSchema at given
  split at given
  next => exact floatFree_enumSchema given
  next field _ =>
    obtain ⟨type, -, done⟩ := outcome_bind_eq_ok.mp given
    cases done
    exact floatFree_referenceSchema type
  next =>
    cases given
    simp [unitSchema]
  next => exact floatFree_recordSchema given

/-- The schema of a type holds no floating point numbers, whatever is declared.  Leaves are those of
declarations or references, and containers bring no numbers along. -/
theorem floatFree_schemaOf {known : List Declaration} {type : InlineType} {schema : Document}
    (given : schemaOf known type = .ok schema) : schema.FloatFree := by
  unfold schemaOf at given
  split at given
  next =>
    refine FreeOutcome.schemaWith (fun name => ?_) _ _ given
    unfold leafSchema
    split
    next declaration _ => exact fun _ => floatFree_declarationSchema
    next => exact .ok (floatFree_schemaReference name)
  next =>
    cases given
    exact floatFree_referenceSchema _

end OpenResponse
