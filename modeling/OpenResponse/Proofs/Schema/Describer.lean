import Mathlib.Logic.Function.Iterate
import OpenResponse.Proofs.Outcome
import OpenResponse.Proofs.Schema.Leaves

/-!
# Describing types one level deep

To describe a type is to describe the types inside it, and, where its name is to be written out, the
declaration of that name.  To describe a declaration is to describe the types of its fields, among
which its own name may stand.  Here these calls are written down with nothing that bounds them: a
round describes a type and leaves every type that it calls on to a describer that is given.

The rounds end nevertheless, because a round asks for less to be written out where it descends into
a declaration, and for smaller types elsewhere.  What they end with is the schema of the type.  So
it is described in one way only, and the declarations that have a say in it are those whose names
are its leaves.

The schema of a type is made by functions that recur along types and never call themselves through a
declaration.  That they do what is wanted is not plain from their form, so it is shown by comparing
them with rounds that call on the describer for every type that they meet.  The comparison has three
steps.  Rounds that are answered with the schemas of types give the schemas of types; a round
depends on nothing but the types which it calls on; and the calls descend, so that after finitely
many rounds nothing is left that depends on what stands beyond them.

## Main definitions

* `Describer`, `Describer.round` — what describes types, and one round of describing
* `Describer.Ends` — describing that ends, whatever stands beyond its rounds

## Main statements

* `Describer.ends` — describing ends, whatever is declared
* `schemaOf_oneLevel` — schemas are written out one level deep, and locally

## Hypotheses

Two things descend.  Inside a type the calls are for its arguments and items, which are smaller.  At
a leaf that is written out the calls are for the types of the fields of its declaration, which may
be larger, but they are not to be written out any more.  So describing ends in at most two passes,
for cyclic declarations too.

Locality is asked of the leaves that are written out.  A declaration that is found there must be the
same in both lists, while all others may differ, also those of the types in its fields.
-/

namespace OpenResponse

/-! ### Rounds

Each function here is the function of the same name on schemas, with a describer in the place of the
reference schemas of types. -/

/-- What describes types, each with whether the declarations of its names are written out. -/
abbrev Describer := InlineType → Except Fault Document

namespace Describer

section Declarations

variable (describe : Describer)

/-- The name and schema of a named field, and whether the field has to be there. -/
def fieldSchema (field : Field) : Except Fault (String × Document × Bool) :=
  match field.name with
  | none => .error (.nowhere .namelessField)
  | some name => do
    let type ← field.type
    let schema ← describe ⟨type, false⟩
    let described :=
      if field.docs.isEmpty then schema
      else schema.withMember "description" (.string (joinLines field.docs))
    return (name, described, isRequired type)

/-- The schema of named fields. -/
def recordSchema (fields : List Field) (docs : List String) : Except Fault Document := do
  let entries ← fields.mapM describe.fieldSchema
  let required := (entries.filter (·.2.2)).map (·.1)
  let properties := Ordered.ofList (entries.map fun (name, schema, _) => (name, schema))
  let schema := describedSchema (joinLines docs) [("type", .string "object")]
  let schema :=
    if required.isEmpty then schema
    else Ordered.assign schema "required" (.strings required)
  return .object (Ordered.assign schema "properties" (.object properties))

/-- The schema of the type of a field. -/
def typeSchema (field : Field) : Except Fault Document := do
  describe ⟨← field.type, false⟩

/-- What a variant with fields carries. -/
def payloadSchema (variant : Variant) : Except Fault Document :=
  if !variant.isTuple then describe.recordSchema variant.fields variant.docs
  else
    match variant.fields with
    | [field] => describe.typeSchema field
    | fields => tupleSchema <$> fields.mapM describe.typeSchema

/-- The schema of a variant. -/
def variantSchema (variant : Variant) : Except Fault Document :=
  if variant.fields.isEmpty then .ok (.object (namesSchema [variant.name]))
  else do
    let payload ← describe.payloadSchema variant
    return .object [("type", .string "object"), ("required", .strings [variant.name]),
      ("properties", .object [(variant.name, payload)])]

/-- The schema of an enum. -/
def enumSchema (variants : List Variant) (docs : List String) : Except Fault Document := do
  if variants.all (·.fields.isEmpty) then
    return .object (describedSchema (joinLines docs) (namesSchema (variants.map (·.name))))
  else
    let schemas ← variants.mapM describe.variantSchema
    return .object (describedSchema (joinLines docs) [("oneOf", .array schemas)])

/-- The schema of a declaration. -/
def declarationSchema (declaration : Declaration) : Except Fault Document :=
  match declaration.kind, declaration.isTuple, declaration.fields with
  | .enum, _, _ => describe.enumSchema declaration.variants declaration.docs
  | _, true, [field] => describe.typeSchema field
  | _, _, [] => .ok unitSchema
  | _, _, fields => describe.recordSchema fields declaration.docs

/-- The schema of a name: that of its declaration, if it is to be written out and known. -/
def leafSchema (known : List Declaration) (isInline : Bool) (name : String) :
    Except Fault Document :=
  match isInline, findDeclaration known name with
  | true, some declaration => describe.declarationSchema declaration
  | _, _ => .ok (schemaReference name)

end Declarations

/-- One round of describing: a type is described by way of the types that it calls on. -/
def round (known : List Declaration) (describe : Describer) : Describer
  | ⟨.unit, _⟩ => .ok unitSchema
  | ⟨.slice item, isInline⟩ => arraySchema <$> describe ⟨item, isInline⟩
  | ⟨.path path args, isInline⟩ =>
    namedSchema (describe.leafSchema known isInline) (lastSegment path)
      (args.map fun arg => describe ⟨arg, isInline⟩)

/-- Describing a type ends: after enough rounds it has its schema, whatever stands in the place of
further rounds. -/
def Ends (known : List Declaration) (type : InlineType) : Prop :=
  ∃ enough, ∀ rounds ≥ enough, ∀ beyond, (round known)^[rounds] beyond type = schemaOf known type

/-! ### What a round calls on

`calls` lists the types for which a round asks its describer, in no particular order.  Only the
types of fields that can be read are among them, since nothing else is asked about the other fields.
-/

/-- The types of the fields of a declaration, those of its variants included. -/
def fieldTypes (declaration : Declaration) : List TypeRef :=
  (declaration.fields ++ declaration.variants.flatMap (·.fields)).filterMap (·.type.toOption)

/-- The types that a name calls on: those in its declaration, if that is written out. -/
def leafCalls (known : List Declaration) (isInline : Bool) (name : String) : List InlineType :=
  match isInline, findDeclaration known name with
  | true, some declaration => (fieldTypes declaration).map (⟨·, false⟩)
  | _, _ => []

/-- The types that a type calls on. -/
def calls (known : List Declaration) : InlineType → List InlineType
  | ⟨.unit, _⟩ => []
  | ⟨.slice item, isInline⟩ => [⟨item, isInline⟩]
  | ⟨.path path args, isInline⟩ =>
    args.map (⟨·, isInline⟩) ++ leafCalls known isInline (lastSegment path)

section Calls

variable {known : List Declaration} {describe other : Describer}

/-- Two describers that refer to the type of a field in the same way. -/
def AgreeOn (describe other : Describer) (field : Field) : Prop :=
  ∀ type, field.type = .ok type → describe ⟨type, false⟩ = other ⟨type, false⟩

private theorem AgreeOn.typeSchema {field : Field} (agree : AgreeOn describe other field) :
    describe.typeSchema field = other.typeSchema field := by
  unfold Describer.typeSchema
  cases typed : field.type with
  | error fault => rfl
  | ok type => exact agree type typed

private theorem AgreeOn.fieldSchema {field : Field} (agree : AgreeOn describe other field) :
    describe.fieldSchema field = other.fieldSchema field := by
  unfold Describer.fieldSchema
  split
  · rfl
  · cases typed : field.type with
    | error fault => rfl
    | ok type =>
      show (describe ⟨type, false⟩ >>= _) = (other ⟨type, false⟩ >>= _)
      rw [agree type typed]

private theorem recordSchema_congr {fields : List Field} (docs : List String)
    (agree : ∀ field ∈ fields, AgreeOn describe other field) :
    describe.recordSchema fields docs = other.recordSchema fields docs := by
  unfold recordSchema
  rw [mapM_congr fun field listed => (agree field listed).fieldSchema]

private theorem payloadSchema_congr {variant : Variant}
    (agree : ∀ field ∈ variant.fields, AgreeOn describe other field) :
    describe.payloadSchema variant = other.payloadSchema variant := by
  unfold payloadSchema
  rw [recordSchema_congr _ agree]
  congr 1
  split
  next field only => exact (agree field (by simp [only])).typeSchema
  next => rw [mapM_congr fun field listed => (agree field listed).typeSchema]

private theorem enumSchema_congr {variants : List Variant} (docs : List String)
    (agree : ∀ variant ∈ variants, ∀ field ∈ variant.fields, AgreeOn describe other field) :
    describe.enumSchema variants docs = other.enumSchema variants docs := by
  have variantSchemas : ∀ variant ∈ variants,
      describe.variantSchema variant = other.variantSchema variant := by
    intro variant listed
    unfold variantSchema
    rw [payloadSchema_congr (agree variant listed)]
  unfold enumSchema
  rw [mapM_congr variantSchemas]

/-- Describers that refer to the types in a declaration in the same way give it the same schema. -/
theorem declarationSchema_congr {declaration : Declaration}
    (agree : ∀ type ∈ fieldTypes declaration, describe ⟨type, false⟩ = other ⟨type, false⟩) :
    describe.declarationSchema declaration = other.declarationSchema declaration := by
  have onFields : ∀ field ∈ declaration.fields ++ declaration.variants.flatMap (·.fields),
      AgreeOn describe other field := by
    intro field listed type typed
    exact agree type (List.mem_filterMap.mpr ⟨field, listed, by rw [typed]; rfl⟩)
  have own : ∀ field ∈ declaration.fields, AgreeOn describe other field :=
    fun field listed => onFields field (List.mem_append_left _ listed)
  have ofVariants : ∀ variant ∈ declaration.variants, ∀ field ∈ variant.fields,
      AgreeOn describe other field := fun variant listed field inside =>
    onFields field (List.mem_append_right _ (List.mem_flatMap.mpr ⟨variant, listed, inside⟩))
  unfold declarationSchema
  split
  next => exact enumSchema_congr _ ofVariants
  next field _ only _ => exact (own field (by simp [only])).typeSchema
  next => rfl
  next => exact recordSchema_congr _ own

/-- A round depends on the given describer through what it calls on. -/
theorem round_congr {type : InlineType}
    (agree : ∀ call ∈ calls known type, describe call = other call) :
    round known describe type = round known other type := by
  obtain ⟨type, isInline⟩ := type
  cases type with
  | unit => rfl
  | slice item => rw [round, round, agree _ (List.mem_singleton_self _)]
  | path path args =>
    have inArgs : ∀ arg ∈ args, describe ⟨arg, isInline⟩ = other ⟨arg, isInline⟩ :=
      fun arg listed => agree _ (List.mem_append_left _ (List.mem_map_of_mem listed))
    rw [round, round]
    refine namedSchema_congr (fun _ arg contains => inArgs arg (mem_of_contents? contains))
      fun _ => ?_
    unfold leafSchema
    split
    next declaration found =>
      have asked : ∀ type ∈ fieldTypes declaration,
          ⟨type, false⟩ ∈ leafCalls known true (lastSegment path) := by
        intro type listed
        unfold leafCalls
        rw [found]
        exact List.mem_map_of_mem listed
      exact declarationSchema_congr fun type listed =>
        agree _ (List.mem_append_right _ (asked type listed))
    next => rfl

end Calls

/-! ### The schema of a type is what its round gives

This is the statement that the schemas of types solve the equations.  It goes function by function.
-/

section Fixed

variable {known : List Declaration}

private theorem typeSchema_schemaOf (known : List Declaration) (field : Field) :
    typeSchema (schemaOf known) field = referenceSchema <$> field.type := by
  unfold typeSchema
  cases field.type <;> rfl

private theorem fieldSchema_schemaOf (known : List Declaration) :
    fieldSchema (schemaOf known) = OpenResponse.fieldSchema := by
  funext field
  unfold fieldSchema OpenResponse.fieldSchema
  cases field.name with
  | none => rfl
  | some name => cases field.type <;> rfl

private theorem recordSchema_schemaOf (known : List Declaration) (fields : List Field)
    (docs : List String) :
    recordSchema (schemaOf known) fields docs = OpenResponse.recordSchema fields docs := by
  unfold recordSchema OpenResponse.recordSchema
  rw [fieldSchema_schemaOf]

private theorem variantSchema_schemaOf (known : List Declaration) :
    variantSchema (schemaOf known) = OpenResponse.variantSchema := by
  funext variant
  have payload : payloadSchema (schemaOf known) variant = OpenResponse.payloadSchema variant := by
    unfold payloadSchema OpenResponse.payloadSchema
    rw [recordSchema_schemaOf]
    congr 1
    rcases variant.fields with _ | ⟨field, _ | ⟨second, rest⟩⟩
    · rfl
    · dsimp only
      rw [typeSchema_schemaOf]
      cases field.type <;> rfl
    · dsimp only
      rw [funext (typeSchema_schemaOf known), mapM_map_outcome]
      cases (field :: second :: rest).mapM Field.type <;> rfl
  unfold variantSchema OpenResponse.variantSchema
  rw [payload]

/-- The schema of a declaration is made without what is known of others. -/
theorem declarationSchema_schemaOf (known : List Declaration) (declaration : Declaration) :
    declarationSchema (schemaOf known) declaration =
      OpenResponse.declarationSchema declaration := by
  have ofEnum (variants : List Variant) (docs : List String) :
      enumSchema (schemaOf known) variants docs = OpenResponse.enumSchema variants docs := by
    unfold enumSchema OpenResponse.enumSchema
    rw [variantSchema_schemaOf]
  have ofField (field : Field) : typeSchema (schemaOf known) field =
      (do return referenceSchema (← field.type)) := by
    rw [typeSchema_schemaOf]
    cases field.type <;> rfl
  unfold declarationSchema OpenResponse.declarationSchema
  cases declaration.kind <;> cases declaration.isTuple <;>
    rcases declaration.fields with _ | ⟨field, _ | ⟨second, rest⟩⟩ <;>
    simp only [ofEnum, ofField, recordSchema_schemaOf]

/-- Describing what cannot fail cannot fail. -/
theorem namedSchema_ok (leaf : String → Document) (name : String) (describe : TypeRef → Document)
    (args : List TypeRef) :
    namedSchema (fun name => (.ok (leaf name) : Except Fault Document)) name
        (args.map fun arg => .ok (describe arg)) =
      .ok (Id.run (namedSchema (fun name => pure (leaf name)) name
        (args.map fun arg => pure (describe arg)))) := by
  rw [namedSchema_map, namedSchema_map]
  split
  next => rfl
  next =>
    split
    next => rfl
    next =>
      split
      next kind arg _ => cases kind <;> rfl
      next => rfl

/-- A round that calls on the schemas of types gives schemas of types. -/
theorem round_schemaOf (known : List Declaration) :
    round known (schemaOf known) = schemaOf known := by
  funext type
  obtain ⟨type, isInline⟩ := type
  cases type with
  | unit => cases isInline <;> rfl
  | slice item => cases isInline <;> rfl
  | path path args =>
    cases isInline with
    | false =>
      show namedSchema (fun name => Except.ok (schemaReference name)) (lastSegment path)
          (args.map fun arg => Except.ok (referenceSchema arg)) =
        Except.ok (Id.run (schemaWith _ (.path path args)))
      rw [namedSchema_ok, schemaWith, schemasWith_eq_map]
      rfl
    | true =>
      show namedSchema _ _ (args.map fun arg => schemaWith _ arg) = schemaWith _ (.path path args)
      rw [schemaWith, schemasWith_eq_map]
      congr 1
      funext name
      unfold leafSchema OpenResponse.leafSchema
      cases findDeclaration known name with
      | none => rfl
      | some declaration => exact declarationSchema_schemaOf known declaration

end Fixed

/-! ### Rounds end

By induction on the type, first for types whose names are not written out, then for the others.  The
number of rounds that is enough for a type is one more than is enough for all its calls. -/

section Ending

variable {known : List Declaration}

/-- Where each of some types ends, they end together. -/
theorem exists_enough {types : List InlineType} (each : ∀ type ∈ types, Ends known type) :
    ∃ enough, ∀ type ∈ types, ∀ rounds ≥ enough, ∀ beyond,
      (round known)^[rounds] beyond type = schemaOf known type := by
  induction types with
  | nil => exact ⟨0, fun _ listed => (List.not_mem_nil listed).elim⟩
  | cons type rest ih =>
    rw [List.forall_mem_cons] at each
    obtain ⟨first, settled⟩ := each.1
    obtain ⟨others, allSettled⟩ := ih each.2
    refine ⟨max first others, List.forall_mem_cons.mpr ⟨?_, ?_⟩⟩
    · exact fun rounds enough => settled rounds (Nat.le_trans (Nat.le_max_left _ _) enough)
    · exact fun type listed rounds enough =>
        allSettled type listed rounds (Nat.le_trans (Nat.le_max_right _ _) enough)

/-- Describing a type ends if it ends for what the type calls on. -/
theorem ends_of_calls {type : InlineType} (callsEnd : ∀ call ∈ calls known type, Ends known call) :
    Ends known type := by
  obtain ⟨enough, settled⟩ := exists_enough callsEnd
  refine ⟨enough + 1, fun rounds more beyond => ?_⟩
  obtain ⟨before, rfl⟩ := Nat.exists_eq_add_of_lt more
  rw [Function.iterate_succ_apply']
  rw [round_congr fun call listed => settled call listed _ (Nat.le_add_right enough before) beyond,
    round_schemaOf]

/-- Inside a type the calls are for smaller types, until its names are reached. -/
theorem ends_of_leafCalls {isInline : Bool}
    (leavesEnd : ∀ name, ∀ call ∈ leafCalls known isInline name, Ends known call) (type : TypeRef) :
    Ends known ⟨type, isInline⟩ := by
  refine TypeRef.inductOnArgs (ends_of_calls fun _ listed => (List.not_mem_nil listed).elim)
    (fun item ih => ends_of_calls (List.forall_mem_singleton.mpr ih))
    (fun path args ih => ends_of_calls ?_) type
  refine List.forall_mem_append.mpr ⟨?_, leavesEnd _⟩
  exact List.forall_mem_map.mpr ih

/-- Describing a type ends, whatever is declared.  What is written out at a leaf refers to other
types by name, so the description does not go on into declarations. -/
theorem ends (known : List Declaration) (type : InlineType) : Ends known type := by
  -- nothing is written out of a declaration, so that types in it call on smaller types only
  have referred (type : TypeRef) : Ends known ⟨type, false⟩ :=
    ends_of_leafCalls (fun _ _ listed => (List.not_mem_nil listed).elim) type
  obtain ⟨type, _ | _⟩ := type
  · exact referred type
  · refine ends_of_leafCalls (fun name call listed => ?_) type
    unfold leafCalls at listed
    split at listed
    · obtain ⟨type, -, rfl⟩ := List.mem_map.mp listed
      exact referred type
    · cases listed

/-- A describer that answers its own calls gives every type its schema. -/
theorem eq_schemaOf {describe : Describer} (answers : round known describe = describe) :
    describe = schemaOf known := by
  funext type
  obtain ⟨enough, settled⟩ := ends known type
  have same := settled enough (Nat.le_refl _) describe
  rwa [Function.iterate_fixed answers] at same

end Ending

end Describer

/-! ### Locality

Nothing but the leaves is looked up, and only if names are to be written out. -/

/-- What is written out of a type is declared under the names that the type comes down to. -/
theorem inlineSchema_congr {known other : List Declaration} {type : TypeRef}
    (same : ∀ name, type.HasLeaf name → findDeclaration known name = findDeclaration other name) :
    inlineSchema known type = inlineSchema other type := by
  refine schemaWith_congr type fun name isLeaf => ?_
  unfold leafSchema
  rw [same name isLeaf]

/-- **Schemas are written out one level deep, and locally.**  Describing a type ends, whatever is
declared, however declarations mention each other, and there is one way only in which a describer
can answer its own calls.  A type whose names are not to be written out has the same schema whatever
is declared; if they are, its schema depends on the declarations of its leaves alone.  The schemas
of a declaration and of named fields do not depend on what is declared besides. -/
theorem schemaOf_oneLevel (known : List Declaration) :
    (∀ type, Describer.Ends known type) ∧
    (∀ describe, Describer.round known describe = describe ↔ describe = schemaOf known) ∧
    ∀ other : List Declaration,
      (∀ type, schemaOf known ⟨type, false⟩ = schemaOf other ⟨type, false⟩) ∧
      (∀ type, (∀ name, type.HasLeaf name →
          findDeclaration known name = findDeclaration other name) →
        schemaOf known ⟨type, true⟩ = schemaOf other ⟨type, true⟩) ∧
      (∀ declaration, Describer.declarationSchema (schemaOf known) declaration =
        Describer.declarationSchema (schemaOf other) declaration) ∧
      (∀ fields docs, Describer.recordSchema (schemaOf known) fields docs =
        Describer.recordSchema (schemaOf other) fields docs) := by
  refine ⟨Describer.ends known, fun describe => ?_, fun other => ⟨fun type => rfl, ?_, ?_, ?_⟩⟩
  · constructor
    · exact Describer.eq_schemaOf
    · rintro rfl
      exact Describer.round_schemaOf known
  · exact fun type same => inlineSchema_congr same
  · intro declaration
    rw [Describer.declarationSchema_schemaOf, Describer.declarationSchema_schemaOf]
  · intro fields docs
    rw [Describer.recordSchema_schemaOf, Describer.recordSchema_schemaOf]

/-- A struct with named fields whose types are written as given. -/
def structOf (name : String) (fields : List (String × String)) : Declaration :=
  ⟨name, .struct, fields.map fun (field, type) => ⟨some field, type, .start, [], []⟩, false, [], [],
    [], [], .start⟩

/-- Nodes that hold each other and trees, which hold nodes again. -/
def nodeStruct : Declaration :=
  structOf "Node" [("next", "Option<Box<Node>>"), ("tree", "Tree")]

/-- A list of nodes has the same schema with trees of another sort, although nodes hold trees, and
more nodes. -/
theorem schemaOf_oneLevel_node :
    let known := [nodeStruct, structOf "Tree" [("nodes", "Vec<Node>")]]
    let other := [structOf "Tree" [], structOf "Leaf" [("tree", "Tree")], nodeStruct]
    let nodes := TypeRef.path "Vec" [.path "Node" []]
    (∀ name, nodes.HasLeaf name → findDeclaration known name = findDeclaration other name) ∧
      schemaOf known ⟨nodes, true⟩ = schemaOf other ⟨nodes, true⟩ ∧
      (schemaOf known ⟨nodes, true⟩).isOk = true := by
  intro known other nodes
  have same : ∀ name, nodes.HasLeaf name →
      findDeclaration known name = findDeclaration other name := by
    intro name (isLeaf : (TypeRef.path "Vec" [.path "Node" []]).HasLeaf name)
    have opened : contents? (lastSegment "Vec") [.path "Node" []] =
        some (.sequence, .path "Node" []) := rfl
    cases isLeaf with
    | contained contains inside =>
      rw [opened] at contains
      cases contains
      cases inside with
      | contained contains inside => cases contains
      | itself => decide +kernel
    | itself _ _ nothing =>
      rw [opened] at nothing
      cases nothing
  exact ⟨same, ((schemaOf_oneLevel known).2.2 other).2.1 nodes same, by decide +kernel⟩

end OpenResponse
