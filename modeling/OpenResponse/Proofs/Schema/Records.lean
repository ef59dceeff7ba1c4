import OpenResponse.Proofs.Schema.Wrappers
import OpenResponse.Proofs.TypeRef.Reading

/-!
# Schemas of named fields

The schema of named fields tells two things of every field, and tells them separately: its schema,
among the properties, and whether it has to be there, by a list of names.  The schema of a field is
found by looking through pointers.  Whether the field has to be there is asked of the name of its
type as it is written, so that an option behind a pointer is no option any more.

So a pointer around the type of a field leaves all members of the schema alone but that list, and
the list too unless the type is an option; then the name of the field is added to it.

The schema of a record is computed from a list of triples, one for each field: its name, its schema,
and whether it has to be there.  Written in this way, a change of one field is a change of one
triple, and the members of the record are seen to take the second and the third part of the triples
separately.  A pointer around the type changes the third part only, and only if it was an option.

## Main definitions

* `recordMembers` — the members of the schema of named fields
* `requiredNames` — the names of the fields that have to be there
* `Field.InPointer` — a field, and the same field with a pointer around its type

## Main statements

* `recordSchema_eq` — a record is made of what its fields are one by one
* `recordSchema_pointer` — **what a pointer around the type of a field changes**

## Hypotheses

`Field.InPointer` relates two fields: they agree in name and documentation, the type of the first
can be read, and the second is read as a pointer to it.  The texts of the types are not compared, so
spaces in them do not matter; `Field.InPointer.of_text` says that such a field exists for every
type.

Fields in front of the field and behind it are arbitrary.  If one of them cannot be described, both
records fail over it, or over the field itself, whichever comes first.
-/

namespace OpenResponse

open Ordered

/-! ### The members of a record

A member that would say nothing is left out.  That is why the list of names is compared as a member
that may be missing. -/

/-- A member that is left out if there is nothing to be said. -/
def memberUnless (nothing : Bool) (key : String) (value : Document) : Members :=
  if nothing then [] else [(key, value)]

/-- The members of the schema of named fields.  Written as a list at once, in place of the
assignments that make it, so that two records can be compared member by member. -/
def recordMembers (description : String) (required : List String) (properties : Members) :
    Members :=
  ("type", .string "object") ::
    (memberUnless description.isEmpty "description" (.string description) ++
      memberUnless required.isEmpty "required" (.strings required) ++
      [("properties", .object properties)])

/-- The names that have to be there among described fields. -/
def requiredEntries (entries : List (String × Document × Bool)) : List String :=
  (entries.filter (·.2.2)).map (·.1)

/-- The schemas of described fields under their names. -/
def entrySchemas (entries : List (String × Document × Bool)) : List (String × Document) :=
  entries.map fun entry => (entry.1, entry.2.1)

/-- The schema that described fields have together. -/
def entriesRecord (docs : List String) (entries : List (String × Document × Bool)) : Document :=
  .object (recordMembers (joinLines docs) (requiredEntries entries) (ofList (entrySchemas entries)))

/-- A record is made of what its fields are one by one. -/
theorem recordSchema_eq (fields : List Field) (docs : List String) :
    recordSchema fields docs = entriesRecord docs <$> fields.mapM fieldSchema := by
  rw [recordSchema]
  cases fields.mapM fieldSchema with
  | error fault => rfl
  | ok entries =>
    refine congrArg (fun members => Except.ok (Document.object members)) ?_
    show assign (if (requiredEntries entries).isEmpty then _ else _) "properties" _ = _
    unfold describedSchema recordMembers memberUnless
    cases (joinLines docs).isEmpty <;> cases (requiredEntries entries).isEmpty <;> rfl

/-- A schema under the documentation of its field, if there is any. -/
def documentedSchema (docs : List String) (schema : Document) : Document :=
  if docs.isEmpty then schema else schema.withMember "description" (.string (joinLines docs))

/-- A named field whose type can be read is described by its name, its schema and whether it has to
be there. -/
theorem fieldSchema_eq_ok {field : Field} {entry : String × Document × Bool} :
    fieldSchema field = .ok entry ↔ ∃ name type, field.name = some name ∧ field.type = .ok type ∧
      entry = (name, documentedSchema field.docs (referenceSchema type), isRequired type) := by
  unfold fieldSchema
  cases field.name with
  | none =>
    constructor
    · intro failed
      cases failed
    · rintro ⟨_, _, ⟨⟩, -⟩
  | some name =>
    cases field.type with
    | error fault =>
      constructor
      · intro failed
        cases failed
      · rintro ⟨_, _, -, ⟨⟩, -⟩
    | ok type =>
      constructor
      · intro done
        cases done
        exact ⟨name, type, rfl, rfl, rfl⟩
      · rintro ⟨_, _, ⟨⟩, ⟨⟩, rfl⟩
        rfl

/-! ### Fields that have to be there

The list of names can be read off the fields as well as off their triples. -/

/-- Whether a field has to be there, as far as its type can be read. -/
def Field.isRequired (field : Field) : Bool := field.type.toOption.any OpenResponse.isRequired

/-- The names of the fields that have to be there.  They are in the order of the fields, and a field
without a name has none to be listed. -/
def requiredNames (fields : List Field) : List String :=
  fields.filterMap fun field => if field.isRequired then field.name else none

/-- The member that lists names, if there are any. -/
def requiredMember (names : List String) : Option Document :=
  if names.isEmpty then none else some (.strings names)

private theorem requiredMember_inj {names others : List String}
    (same : requiredMember names = requiredMember others) : names = others := by
  unfold requiredMember at same
  cases names with
  | nil =>
    cases others with
    | nil => rfl
    | cons other rest => cases same
  | cons name names =>
    cases others with
    | nil => cases same
    | cons other rest =>
      have strings := Document.array.inj (Option.some.inj same)
      exact List.map_injective_iff.mpr (fun _ _ => Document.string.inj) strings

private theorem get?_recordMembers_required (description : String) (required : List String)
    (properties : Members) :
    get? (recordMembers description required properties) "required" = requiredMember required := by
  unfold recordMembers memberUnless requiredMember
  cases description.isEmpty <;> cases required.isEmpty <;> rfl

private theorem get?_memberUnless_of_ne {key other : String} (differ : other ≠ key) (nothing : Bool)
    (value : Document) : get? (memberUnless nothing key value) other = none := by
  cases nothing with
  | true => rfl
  | false => exact get?_eq_none (by simpa [memberUnless] using differ)

/-- Which fields have to be there is said in one member only. -/
theorem get?_recordMembers_of_ne {key : String} (other : key ≠ "required") (description : String)
    (required changed : List String) (properties : Members) :
    get? (recordMembers description required properties) key =
      get? (recordMembers description changed properties) key := by
  rw [recordMembers, recordMembers, get?, get?]
  simp only [get?_append, get?_memberUnless_of_ne other]

/-- The record of a described field among others: its schema stands among the properties, and its
name is listed if it has to be there. -/
theorem entriesRecord_append_cons (docs : List String)
    (before behind : List (String × Document × Bool)) (name : String) (schema : Document)
    (isRequired : Bool) :
    entriesRecord docs (before ++ (name, schema, isRequired) :: behind) =
      .object (recordMembers (joinLines docs)
        (requiredEntries before ++ ((if isRequired then [name] else []) ++ requiredEntries behind))
        (ofList (entrySchemas before ++ (name, schema) :: entrySchemas behind))) := by
  unfold entriesRecord requiredEntries entrySchemas
  rw [List.filter_append, List.map_append, List.map_append]
  cases isRequired <;> rfl

private theorem requiredEntries_eq {fields : List Field} {entries : List (String × Document × Bool)}
    (described : fields.mapM fieldSchema = .ok entries) :
    requiredEntries entries = requiredNames fields := by
  rw [mapM_eq_ok] at described
  induction described with
  | nil => rfl
  | @cons field entry fields entries first _ ih =>
    obtain ⟨name, type, named, typed, rfl⟩ := fieldSchema_eq_ok.mp first
    have asked : field.isRequired = isRequired type := by
      rw [Field.isRequired, typed]
      rfl
    rw [requiredNames, List.filterMap_cons, asked, named, ← requiredNames, ← ih]
    cases isRequired type <;> rfl

/-! ### Pointers around the types of fields

Two records with the same triples but for one are compared member by member. -/

/-- A field with a type, and the same field with a pointer around it. -/
structure Field.InPointer (field wrapped : Field) (type : TypeRef) : Prop where
  name : wrapped.name = field.name
  docs : wrapped.docs = field.docs
  typed : field.type = .ok type
  pointer : ∃ path, lastSegment path ∈ pointerNames ∧ wrapped.type = .ok (.path path [type])

namespace Field.InPointer

variable {field wrapped : Field} {type : TypeRef}

/-- A pointer can be put around every type that can be written. -/
theorem of_text (wellFormed : type.WellFormed) (typed : field.type = .ok type) {path : String}
    (isPath : IsPath path) (isPointer : lastSegment path ∈ pointerNames) :
    field.InPointer { field with typeText := (TypeRef.path path [type]).text } type where
  name := rfl
  docs := rfl
  typed := typed
  pointer := ⟨path, isPointer, readTypeRef_text
    (TypeRef.WellFormed.path isPath (List.forall_mem_singleton.mpr wellFormed)) field.location⟩

/-- A field behind a pointer has the same schema and has to be there. -/
theorem fieldSchema_eq (pointed : field.InPointer wrapped type) :
    fieldSchema wrapped = (fun entry => (entry.1, entry.2.1, true)) <$> fieldSchema field := by
  obtain ⟨path, isPointer, wrappedType⟩ := pointed.pointer
  have noOption : OpenResponse.isRequired (.path path [type]) = true := by
    have others : ∀ name ∈ pointerNames, (name != "Option") = true := forall_mem_of_all (by decide)
    exact others (lastSegment path) isPointer
  have same : referenceSchema (.path path [type]) = referenceSchema type :=
    sameSchemas_pointer (container?_of_mem_pointerNames isPointer) type Id _
  unfold fieldSchema
  rw [pointed.name, pointed.docs, pointed.typed, wrappedType]
  cases field.name with
  | none => rfl
  | some name =>
    show Except.ok _ = Except.ok _
    rw [same, noOption]

end Field.InPointer

/-- **What a pointer around the type of a field changes.**  A record with the pointer fails over the
same fault as the record without it.  Otherwise all of its members are the same, the properties
among them, except that the field has to be there if there is a pointer around its type; so the
schemas are the same exactly if the type is not an option. -/
theorem recordSchema_pointer {field wrapped : Field} {type : TypeRef}
    (pointed : field.InPointer wrapped type) (front back : List Field) (docs : List String) :
    (∀ fault, recordSchema (front ++ wrapped :: back) docs = .error fault ↔
      recordSchema (front ++ field :: back) docs = .error fault) ∧
    ∀ schema, recordSchema (front ++ field :: back) docs = .ok schema →
      ∃ name changed, field.name = some name ∧
        recordSchema (front ++ wrapped :: back) docs = .ok changed ∧
        (changed = schema ↔ type.name ≠ "Option") ∧
        (∀ key ≠ "required", get? changed.members key = get? schema.members key) ∧
        get? changed.members "required" =
          requiredMember (requiredNames front ++ name :: requiredNames back) ∧
        (type.name = "Option" → get? schema.members "required" =
          requiredMember (requiredNames front ++ requiredNames back)) := by
  simp only [recordSchema_eq, mapM_append_cons, pointed.fieldSchema_eq]
  -- a fault in front of the field, of the field or behind it is the same fault on both sides
  cases beforeDone : front.mapM fieldSchema with
  | error fault => exact ⟨fun _ => Iff.rfl, fun _ failed => by cases failed⟩
  | ok before =>
    cases described : fieldSchema field with
    | error fault => exact ⟨fun _ => Iff.rfl, fun _ failed => by cases failed⟩
    | ok entry =>
      cases behindDone : back.mapM fieldSchema with
      | error fault => exact ⟨fun _ => Iff.rfl, fun _ failed => by cases failed⟩
      | ok behind =>
        refine ⟨fun fault => ⟨fun failed => (by cases failed), fun failed => (by cases failed)⟩, ?_⟩
        rintro _ ⟨⟩
        obtain ⟨name, type', named, typed, rfl⟩ := fieldSchema_eq_ok.mp described
        cases pointed.typed.symm.trans typed
        have optional (isOption : type.name = "Option") : isRequired type = false := by
          rw [isRequired, isOption]
          rfl
        rw [← requiredEntries_eq beforeDone, ← requiredEntries_eq behindDone]
        refine ⟨name, _, named, rfl, ?_⟩
        dsimp only
        rw [entriesRecord_append_cons, entriesRecord_append_cons, if_pos rfl]
        refine ⟨⟨fun same isOption => ?_, fun noOption => ?_⟩,
          fun key other => get?_recordMembers_of_ne other _ _ _ _,
          get?_recordMembers_required _ _ _, fun isOption => ?_⟩
        · -- the list of an option is shorter by one name
          have names := congrArg (get? · "required") (Document.object.inj same)
          rw [get?_recordMembers_required, get?_recordMembers_required, optional isOption] at names
          have lengths := congrArg List.length (requiredMember_inj names)
          simp at lengths
        · have required : isRequired type = true := by simpa [isRequired] using noOption
          rw [required, if_pos rfl]
        · rw [optional isOption]
          exact get?_recordMembers_required _ _ _

/-- A field that has to be there. -/
def idField : Field := ⟨some "id", "u64", .start, [], []⟩

/-- A field that may be missing. -/
def ownerField : Field := ⟨some "owner", "Option<u64>", .start, [], []⟩

/-- A field that may be missing, behind a pointer. -/
def boxedOwnerField : Field := ⟨some "owner", "Box<Option<u64>>", .start, [], []⟩

private theorem ownerField_inPointer :
    ownerField.InPointer boxedOwnerField (.path "Option" [.path "u64" []]) := by
  have written : (TypeRef.path "Option" [.path "u64" []]).WellFormed :=
    .path (isPath_of_isName (by decide)) (List.forall_mem_singleton.mpr (.name (by decide)))
  have typed : ownerField.type = .ok (.path "Option" [.path "u64" []]) :=
    readTypeRef_text written .start
  have isPath : IsPath "Box" := isPath_of_isName (by decide)
  exact .of_text written typed isPath (by decide)

/-- A pointer around an option adds the name of the field to the names that have to be there. -/
theorem recordSchema_pointer_owner :
    ownerField.InPointer boxedOwnerField (.path "Option" [.path "u64" []]) ∧
      ∃ schema changed, recordSchema [idField, ownerField] [] = .ok schema ∧
        recordSchema [idField, boxedOwnerField] [] = .ok changed ∧ changed ≠ schema ∧
        get? changed.members "properties" = get? schema.members "properties" ∧
        get? schema.members "required" = some (.strings ["id"]) ∧
        get? changed.members "required" = some (.strings ["id", "owner"]) := by
  obtain ⟨schema, given⟩ : ∃ schema, recordSchema [idField, ownerField] [] = .ok schema :=
    exists_of_isOk (by decide +kernel)
  obtain ⟨name, changed, named, done, same_iff, others, required, missing⟩ :=
    (recordSchema_pointer ownerField_inPointer [idField] [] []).2 schema given
  cases named
  have front : requiredNames [idField] = ["id"] := by decide +kernel
  have isOption : (TypeRef.path "Option" [.path "u64" []]).name = "Option" := by decide
  rw [front] at required missing
  exact ⟨ownerField_inPointer, schema, changed, given, done,
    fun same => same_iff.mp same isOption, others "properties" (by decide), missing isOption,
    required⟩

/-- A record with an option behind a pointer differs from the record with the option. -/
theorem recordSchema_boxedOption :
    ¬ ∀ (field wrapped : Field) (type : TypeRef), field.InPointer wrapped type →
      ∀ (front back : List Field) (docs : List String),
        recordSchema (front ++ wrapped :: back) docs =
          recordSchema (front ++ field :: back) docs := by
  intro transparent
  have same := transparent _ _ _ ownerField_inPointer [] [] []
  have listed := congrArg
    (Except.map fun schema : Document => has schema.members "required") same
  revert listed
  decide +kernel

end OpenResponse
