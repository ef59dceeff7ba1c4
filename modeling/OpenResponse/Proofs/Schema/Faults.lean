import OpenResponse.Proofs.Schema.Wrappers
import OpenResponse.Proofs.Source.FieldNames

/-!
# Faults of schemas

Making the schema of a declaration comes down to reading the types of its fields, one after the
other, and fails exactly where that does.  There is one exception: the fields of a struct are taken
to have names as soon as there are several, and a tuple struct with several fields fails over the
first of them before any type is read.  The variants of an enum do not share it, because for them
the fields of a tuple have a schema of their own.

A type that is written out fails where the declaration of its leaf does, and a type that is referred
to never fails.

The schema of a record or of an enum takes the types of its fields in order and makes something of
them that cannot fail.  So it fails alike with the list of these types: there is a fault of the one
exactly if there is the same fault of the other.  This is stated with `FailAlike` and passes from
fields to variants and from variants to declarations, where the lists are put together.

## Main definitions

* `Declaration.IsWideTuple` — tuple structs with several fields
* `Declaration.schemaFields` — the fields that the schema of a declaration speaks of
* `FieldsReadable` — fields that a schema can be made of

## Main statements

* `recordSchema_failAlike`, `enumSchema_failAlike` — named fields, and variants
* `declarationSchema_eq_error` — the faults of declarations
* `schemaOf_eq_error` — the faults of types
* `exists_enumSchema`, `exists_schemaOf` — enums and types that have a schema

## Hypotheses

`FieldsNamed` says that fields have names unless they are those of a tuple, and of what is extracted
from a source it holds.  Without it a field could have no name where one is needed, and the schema
would fail there although all types can be read.
-/

namespace OpenResponse

/-! ### Fields and variants

A variant that is a tuple has a schema for its fields without names, so nothing is asked of them. -/

private theorem fieldSchema_failAlike {field : Field} (named : field.name.isSome = true) :
    FailAlike (fieldSchema field) field.type := by
  obtain ⟨name, isName⟩ := Option.isSome_iff_exists.mp named
  rw [fieldSchema, isName]
  exact (FailAlike.refl field.type).bind_pure_left _

/-- Named fields fail as their types do.  The types are read in the order of the fields, and nothing
else in a record can fail once every field has a name. -/
theorem recordSchema_failAlike {fields : List Field}
    (named : ∀ field ∈ fields, field.name.isSome = true) (docs : List String) :
    FailAlike (recordSchema fields docs) (fields.mapM Field.type) :=
  (FailAlike.mapM fun field listed => fieldSchema_failAlike (named field listed)).bind_pure_left _

private theorem payloadSchema_failAlike {variant : Variant}
    (named : variant.isTuple = false → ∀ field ∈ variant.fields, field.name.isSome = true) :
    FailAlike (payloadSchema variant) (variant.fields.mapM Field.type) := by
  unfold payloadSchema
  split
  next notTuple =>
    exact recordSchema_failAlike (named (by simpa using notTuple)) variant.docs
  next =>
    split
    next field single =>
      rw [single]
      exact FailAlike.singleton field referenceSchema
    next => exact (FailAlike.refl _).bind_pure_left _

/-- A variant fails as the types of its fields do. -/
theorem variantSchema_failAlike {variant : Variant}
    (named : variant.isTuple = false → ∀ field ∈ variant.fields, field.name.isSome = true) :
    FailAlike (variantSchema variant) (variant.fields.mapM Field.type) := by
  unfold variantSchema
  split
  next none =>
    rw [List.isEmpty_iff.mp none]
    exact .ok
  next => exact (payloadSchema_failAlike named).bind_pure_left _

/-- An enum fails as the types of the fields of its variants do. -/
theorem enumSchema_failAlike {variants : List Variant}
    (named : ∀ variant ∈ variants,
      variant.isTuple = false → ∀ field ∈ variant.fields, field.name.isSome = true)
    (docs : List String) :
    FailAlike (enumSchema variants docs) ((variants.flatMap (·.fields)).mapM Field.type) := by
  unfold enumSchema
  split
  next allEmpty =>
    have noFields : variants.flatMap (·.fields) = [] :=
      List.flatMap_eq_nil_iff.mpr fun variant listed =>
        List.isEmpty_iff.mp (List.all_eq_true.mp allEmpty variant listed)
    rw [noFields]
    exact .ok
  next =>
    have each := FailAlike.mapM fun variant listed => variantSchema_failAlike (named variant listed)
    exact fun fault => ((each.bind_pure_left _) fault).trans (FailAlike.flatMap _ _ fault)

/-! ### Declarations

The cases are those of the schema: an enum, a tuple of one field, no fields, or a record.  A tuple
of several fields is treated as a record, and this is the exception. -/

namespace Declaration

/-- A struct whose fields are those of a tuple and more than one, so that they have no names. -/
def IsWideTuple (declaration : Declaration) : Prop :=
  declaration.kind = .struct ∧ declaration.isTuple = true ∧ 2 ≤ declaration.fields.length

instance (declaration : Declaration) : Decidable declaration.IsWideTuple :=
  inferInstanceAs (Decidable (_ ∧ _))

/-- The fields that the schema of a declaration speaks of: those of its variants if it is an enum,
and otherwise its own. -/
def schemaFields (declaration : Declaration) : List Field :=
  match declaration.kind with
  | .enum => declaration.variants.flatMap (·.fields)
  | .struct | .union => declaration.fields

variable {declaration : Declaration}

private theorem schemaFields_eq_fields (notEnum : declaration.kind ≠ .enum) :
    declaration.schemaFields = declaration.fields := by
  unfold schemaFields
  split
  next isEnum => exact absurd isEnum notEnum
  next => rfl
  next => rfl

namespace FieldsNamed

/-- What is not a tuple struct of several fields fails as the types of its fields do. -/
theorem declarationSchema_failAlike (named : declaration.FieldsNamed)
    (notWide : ¬ declaration.IsWideTuple) :
    FailAlike (declarationSchema declaration) (declaration.schemaFields.mapM Field.type) := by
  unfold declarationSchema
  split
  next isEnum =>
    have fields : declaration.schemaFields = declaration.variants.flatMap (·.fields) := by
      rw [schemaFields, isEnum]
    rw [fields]
    refine enumSchema_failAlike (fun variant listed notTuple field isField => ?_) _
    rw [named.variants variant listed field isField, notTuple]
    rfl
  next field _ single notEnum =>
    rw [schemaFields_eq_fields notEnum, single]
    exact FailAlike.singleton field referenceSchema
  next noFields notEnum =>
    rw [schemaFields_eq_fields notEnum, noFields]
    exact .ok
  next notEnum someFields notSingle =>
    rw [schemaFields_eq_fields notEnum]
    refine recordSchema_failAlike (fun field isField => ?_) _
    -- a tuple with neither no field nor a single one is a wide one
    have notTuple : declaration.isTuple = false := by
      by_contra isTuple
      rw [Bool.not_eq_false] at isTuple
      refine notWide ⟨?_, isTuple, ?_⟩
      · by_contra notStruct
        exact someFields (named.ofStruct notStruct)
      · match fields : declaration.fields with
        | [] => exact (someFields fields).elim
        | [field] => exact (notSingle field isTuple fields).elim
        | _ :: _ :: _ => simp
    rw [named.fields field isField, notTuple]
    rfl

/-- A tuple struct with several fields has no schema. -/
theorem declarationSchema_wideTuple (named : declaration.FieldsNamed)
    (wide : declaration.IsWideTuple) :
    declarationSchema declaration = .error (.nowhere .namelessField) := by
  obtain ⟨isStruct, isTuple, several⟩ := wide
  match fields : declaration.fields with
  | [] | [_] =>
    rw [fields] at several
    simp at several
  | first :: second :: rest =>
    have nameless : first.name = none := by
      have isField : first ∈ declaration.fields := fields ▸ List.mem_cons_self
      simpa [isTuple] using named.fields first isField
    have failed : fieldSchema first = .error (.nowhere .namelessField) := by
      rw [fieldSchema, nameless]
    have record (docs : List String) : recordSchema (first :: second :: rest) docs =
        .error (.nowhere .namelessField) := by
      rw [recordSchema, List.mapM_cons, failed]
      rfl
    simp only [declarationSchema, isStruct, isTuple, fields, record]

/-- A schema fails over the first field of a tuple struct with several fields, and otherwise over
the first field whose type cannot be read. -/
theorem declarationSchema_eq_error (named : declaration.FieldsNamed) {fault : Fault} :
    declarationSchema declaration = .error fault ↔
      if declaration.IsWideTuple then fault = .nowhere .namelessField
      else declaration.schemaFields.mapM Field.type = .error fault := by
  split
  next wide =>
    rw [named.declarationSchema_wideTuple wide, Except.error.injEq]
    exact eq_comm
  next notWide => exact named.declarationSchema_failAlike notWide fault

end FieldsNamed

end Declaration

/-! ### Types

A type fails only where a name is looked up and its declaration fails.  Containers pass the fault
on. -/

private theorem Container.wrap_eq_error
    {kind : Container} {inner : Except Fault Document} {fault : Fault} :
    kind.wrap inner = .error fault ↔ inner = .error fault := by
  cases kind with
  | pointer => exact .rfl
  | optional | sequence | set | map => exact map_eq_error

/-- The schema of a type fails exactly as those of its leaves do. -/
theorem schemaWith_eq_error {leaf : String → Except Fault Document} {type : TypeRef}
    {fault : Fault} :
    schemaWith leaf type = .error fault ↔
      ∃ name, type.HasLeaf name ∧ leaf name = .error fault := by
  constructor
  · intro failed
    -- a container fails only as what it contains does, so a fault comes from some leaf
    induction type using TypeRef.inductOnArgs with
    | unit => cases failed
    | slice item ih =>
      rw [schemaWith] at failed
      obtain ⟨name, inside, isFault⟩ := ih (map_eq_error.mp failed)
      exact ⟨name, .slice inside, isFault⟩
    | path path args ih =>
      rw [schemaWith, schemasWith_eq_map, namedSchema_map] at failed
      split at failed
      next => cases failed
      next notPrimitive =>
        split at failed
        next => cases failed
        next notAnything =>
          split at failed
          next kind arg contains =>
            obtain ⟨name, inside, isFault⟩ :=
              ih arg (mem_of_contents? contains) (Container.wrap_eq_error.mp failed)
            exact ⟨name, .contained contains inside, isFault⟩
          next nothing =>
            have notAny := Bool.eq_false_iff.mpr notAnything
            exact ⟨_, .itself notPrimitive notAny nothing, failed⟩
  · rintro ⟨name, isLeaf, failed⟩
    induction isLeaf with
    | slice _ ih =>
      rw [schemaWith]
      exact map_eq_error.mpr (ih failed)
    | contained contains _ ih =>
      rw [schemaWith_contained contains]
      exact Container.wrap_eq_error.mpr (ih failed)
    | itself notPrimitive notAnything nothing =>
      rw [schemaWith, schemasWith_eq_map, namedSchema_map, notPrimitive, notAnything, nothing]
      exact failed

/-- A type fails if it is to be written out and the declaration of its leaf is known and fails. -/
theorem schemaOf_eq_error {known : List Declaration} {type : InlineType} {fault : Fault} :
    schemaOf known type = .error fault ↔
      type.isInline = true ∧ ∃ name declaration, type.type.HasLeaf name ∧
        findDeclaration known name = some declaration ∧
          declarationSchema declaration = .error fault := by
  have leaf (name : String) : leafSchema known name = .error fault ↔
      ∃ declaration, findDeclaration known name = some declaration ∧
        declarationSchema declaration = .error fault := by
    unfold leafSchema
    cases findDeclaration known name with
    | none => exact iff_of_false nofun nofun
    | some declaration => simp
  obtain ⟨type, isInline⟩ := type
  cases isInline with
  | false => exact iff_of_false nofun nofun
  | true =>
    rw [schemaOf, if_pos rfl, inlineSchema, schemaWith_eq_error]
    simp only [leaf, true_and, exists_and_left]

/-! ### Schemas that can be made

What cannot fail has a schema: these are the same laws from the other side. -/

/-- Fields whose types can be read and which have names, unless they are those of a tuple. -/
structure FieldsReadable (fields : List Field) (isTuple : Bool) : Prop where
  types : ∀ field ∈ fields, ∃ type, field.type = .ok type
  names : isTuple = false → ∀ field ∈ fields, field.name.isSome = true

/-- An enum has a schema if the types of its variants can be read. -/
theorem exists_enumSchema {variants : List Variant}
    (readable : ∀ variant ∈ variants, FieldsReadable variant.fields variant.isTuple)
    (docs : List String) : ∃ schema, enumSchema variants docs = .ok schema := by
  have alike := enumSchema_failAlike (fun variant listed => (readable variant listed).names) docs
  refine alike.exists_ok.mpr (exists_mapM_eq_ok.mpr fun field isField => ?_)
  obtain ⟨variant, listed, isField⟩ := List.mem_flatMap.mp isField
  exact (readable variant listed).types field isField

/-- A type has a schema if the declarations that are known have theirs.  A leaf is the only thing in
a type that can fail to be described. -/
theorem exists_schemaOf {known : List Declaration}
    (described : ∀ declaration ∈ known, ∃ schema, declarationSchema declaration = .ok schema)
    (type : InlineType) : ∃ schema, schemaOf known type = .ok schema := by
  cases made : schemaOf known type with
  | ok schema => exact ⟨schema, rfl⟩
  | error fault =>
    obtain ⟨-, name, declaration, -, found, failed⟩ := schemaOf_eq_error.mp made
    obtain ⟨schema, given⟩ := described declaration (mem_of_findDeclaration found)
    cases failed.symm.trans given

end OpenResponse
