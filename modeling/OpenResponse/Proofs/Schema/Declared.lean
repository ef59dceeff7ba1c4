import OpenResponse.Proofs.Outcome
import OpenResponse.Proofs.Schema.Negotiation

/-!
# Schemas of declared types

A type that is declared is to be described by its declaration: written out, it has the schema of the
declaration, and otherwise it is referred to by name.  But names are looked up among the types of
the standard library first.  Containers are in nobody's way, as they are containers only with
arguments.  Some names have a fixed schema, though, and have it whatever is declared: a declaration
with such a name can neither be written out nor be referred to.

A name without arguments is looked up in two places only, so its schema is known as soon as it is
known whether the name is fixed: the fixed schema, or that of the leaf.  The leaf is what the
declaration gives.  If the name is fixed, the type is not described by its declaration, since a
fixed schema is no reference and the reference schema of the declaration is.

## Main definitions

* `fixedSchema?` — the schemas that names have whatever is declared
* `primitiveNames`, `fixedNames` — the names with such schemas
* `DescribedBy` — a type that is described by a declaration

## Main statements

* `findDeclaration_of_nodup` — declarations with different names are found by their names
* `schemaWith_name` — the schema of a name without arguments
* `schemaOf_declared` — **which declared types are described by their declarations**

## Hypotheses

The declarations have to have different names, or another one could be found first; with this the
declaration is the one that is found.  The path may have any segments in front of the last one,
which alone is looked up.

The type has no arguments.  With arguments, the names of containers have a meaning of their own,
whatever is declared.
-/

namespace OpenResponse

/-- The schema that a name has whatever is declared.  It is looked up before declarations are, which
is what makes such a name fixed. -/
def fixedSchema? (name : String) : Option Document :=
  (primitiveSchema? name).or (if isAnything name then some (.object []) else none)

/-- The names of primitive types.  Several of them share a schema. -/
def primitiveNames : List String := primitiveSchemas.flatMap (·.1)

/-- The names that have a schema whatever is declared.  Those that stand for any value are listed
with the primitive ones. -/
def fixedNames : List String := primitiveNames ++ ["Value", "JsonValue"]

/-- The names of primitive types are those with a primitive schema. -/
theorem primitiveSchema?_eq_none_iff {name : String} :
    primitiveSchema? name = none ↔ name ∉ primitiveNames := by
  rw [primitiveSchema?, Option.map_eq_none_iff, List.find?_eq_none, primitiveNames,
    List.mem_flatMap]
  simp

/-- The names with fixed schemas are the listed ones. -/
theorem fixedSchema?_eq_none_iff {name : String} :
    fixedSchema? name = none ↔ name ∉ fixedNames := by
  have anything : isAnything name = true ↔ name ∈ ["Value", "JsonValue"] := by
    simp [isAnything]
  rw [fixedSchema?, Option.or_eq_none_iff, primitiveSchema?_eq_none_iff, fixedNames,
    List.mem_append, not_or, ← anything]
  simp

/-- A fixed schema is no reference. -/
theorem has_fixedSchema_ref {name : String} {schema : Document}
    (fixed : fixedSchema? name = some schema) : Ordered.has schema.members "$ref" = false := by
  rw [fixedSchema?, Option.or_eq_some_iff] at fixed
  rcases fixed with found | ⟨-, anything⟩
  · exact (primitiveSchema_cases found).2.2
  · split at anything
    · cases anything
      rfl
    · cases anything

/-- Declarations with different names are found by their names.  Otherwise the last one with a name
is found, and an earlier one could not be reached. -/
theorem findDeclaration_of_nodup {known : List Declaration} {declaration : Declaration}
    (distinct : (known.map (·.name)).Nodup) (listed : declaration ∈ known) :
    findDeclaration known declaration.name = some declaration := by
  unfold findDeclaration
  have isSome : (known.reverse.find? (·.name == declaration.name)).isSome = true := by
    rw [List.find?_isSome]
    exact ⟨declaration, List.mem_reverse.mpr listed, beq_self_eq_true _⟩
  obtain ⟨found, isFound⟩ := Option.isSome_iff_exists.mp isSome
  have named : found.name = declaration.name := by simpa using List.find?_some isFound
  have isListed : found ∈ known := mem_of_findDeclaration isFound
  rw [isFound, List.inj_on_of_nodup_map distinct isListed listed named]

/-- A name without arguments has its fixed schema or is a leaf. -/
theorem schemaWith_name {m : Type → Type} [Monad m] (leaf : String → m Document) (path : String) :
    schemaWith leaf (.path path []) =
      (fixedSchema? (lastSegment path)).elim (leaf (lastSegment path)) pure := by
  rw [schemaWith, schemasWith_eq_map, namedSchema_map, contents?_nil, fixedSchema?]
  cases primitiveSchema? (lastSegment path) with
  | some schema => rfl
  | none =>
    dsimp only
    split <;> rfl

/-- A type is described by a declaration: it is written out as the schema of the declaration, and is
referred to by its name otherwise. -/
structure DescribedBy (known : List Declaration) (declaration : Declaration) (type : TypeRef) :
    Prop where
  inlined : schemaOf known ⟨type, true⟩ = declarationSchema declaration
  referenced : schemaOf known ⟨type, false⟩ =
    .ok (.object [("$ref", .string ("#/components/schemas/" ++ declaration.name))])

/-- **Which declared types are described by their declarations.**  Among declarations with different
names these are all but those whose names have a fixed schema; and these have that schema, whether
they are to be written out or not. -/
theorem schemaOf_declared {known : List Declaration} {declaration : Declaration}
    (distinct : (known.map (·.name)).Nodup) (listed : declaration ∈ known) {path : String}
    (named : lastSegment path = declaration.name) :
    (DescribedBy known declaration (.path path []) ↔ declaration.name ∉ fixedNames) ∧
    ∀ schema, fixedSchema? declaration.name = some schema →
      ∀ isInline, schemaOf known ⟨.path path [], isInline⟩ = .ok schema := by
  have inlined : schemaOf known ⟨.path path [], true⟩ =
      (fixedSchema? declaration.name).elim (declarationSchema declaration) pure := by
    have leaf : leafSchema known declaration.name = declarationSchema declaration := by
      rw [leafSchema, findDeclaration_of_nodup distinct listed]
    rw [schemaOf, if_pos rfl, inlineSchema, schemaWith_name, named, leaf]
  have referenced : schemaOf known ⟨.path path [], false⟩ =
      .ok ((fixedSchema? declaration.name).getD (schemaReference declaration.name)) := by
    rw [schemaOf, if_neg Bool.false_ne_true, referenceSchema, schemaWith_name, named]
    cases fixedSchema? declaration.name <;> rfl
  rw [← fixedSchema?_eq_none_iff]
  cases fixed : fixedSchema? declaration.name with
  | none =>
    rw [fixed] at inlined referenced
    exact ⟨iff_of_true ⟨inlined, referenced⟩ rfl, fun schema given => by cases given⟩
  | some schema =>
    rw [fixed] at inlined referenced
    constructor
    · refine ⟨fun described => ?_, fun absent => by cases absent⟩
      -- the fixed schema would have to be a reference
      have same : Except.ok schema = Except.ok _ := referenced.symm.trans described.referenced
      have noReference := has_fixedSchema_ref fixed
      rw [Except.ok.inj same] at noReference
      cases noReference
    · rintro _ ⟨⟩ isInline
      cases isInline
      · exact referenced
      · exact inlined

/-- A struct with the name of a container. -/
def vecStruct : Declaration :=
  ⟨"Vec", .struct, [⟨some "length", "u64", .start, [], []⟩], false, [], [], [], [], .start⟩

/-- A struct with the name of documents of any form. -/
def valueStruct : Declaration :=
  ⟨"Value", .struct, [⟨some "amount", "i64", .start, [], []⟩], false, [], [], [], [], .start⟩

/-- A container that is declared anew is described by its declaration. -/
theorem schemaOf_declared_vec :
    ([vecStruct, valueStruct].map (·.name)).Nodup ∧ lastSegment "store::Vec" = vecStruct.name ∧
      DescribedBy [vecStruct, valueStruct] vecStruct (.path "store::Vec" []) ∧
      ¬ DescribedBy [vecStruct, valueStruct] valueStruct (.path "Value" []) := by
  have distinct : ([vecStruct, valueStruct].map (·.name)).Nodup := by decide
  have named : lastSegment "store::Vec" = vecStruct.name := by decide +kernel
  have namedValue : lastSegment "Value" = valueStruct.name := by decide +kernel
  have vec := schemaOf_declared distinct List.mem_cons_self named
  have value := schemaOf_declared distinct
    (List.mem_cons_of_mem _ (List.mem_singleton_self valueStruct)) namedValue
  exact ⟨distinct, named, vec.1.mpr (by decide), fun described => value.1.mp described (by decide)⟩

/-- A declared type need not be described by its declaration. -/
theorem schemaOf_declaredValue :
    ¬ ∀ (known : List Declaration) (declaration : Declaration) (path : String),
      (known.map (·.name)).Nodup → declaration ∈ known → lastSegment path = declaration.name →
        schemaOf known ⟨.path path [], true⟩ = declarationSchema declaration := by
  intro described
  have same := described [valueStruct] valueStruct "Value" (by decide)
    (List.mem_singleton_self _) (by decide +kernel)
  have members := congrArg (Except.map fun schema : Document => schema.members.isEmpty) same
  revert members
  decide +kernel

end OpenResponse
