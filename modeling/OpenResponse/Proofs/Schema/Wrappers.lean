import OpenResponse.Proofs.Document.Ordered
import OpenResponse.Proofs.Number.Numeral
import OpenResponse.Proofs.Schema.Leaves

/-!
# Wrappers inside types

A pointer stands for what it points to, and something that may be missing twice may as well be
missing once.  A type is described through the descriptions of its arguments and through how many
there are, so what changes no description where it stands changes none around it, however deep
inside the type that place is.

Content types are told by looking through wrappers, and not by describing arguments.  What a type
comes down to behind its wrappers is asked for its name, for whether it is primitive and for whether
its items are bytes; of the items only the name is asked.  So these answers are what a change inside
a type has to leave alone.

For schemas this is a congruence: two types with the same schema for all descriptions of leaves can
be exchanged anywhere in a type.  For content types the congruence has to be found, since equality
of content types alone is not kept.  `SameContent` is what has to be asked in addition so that it is
kept by every step outward; it implies that content types are equal.

## Main definitions

* `TypeContext` — types with a place in them
* `SameSchemas` — types with the same schema whatever the schemas of their leaves are
* `SameContent` — types that content types do not tell apart

## Main statements

* `SameSchemas.fill`, `SameContent.fill` — what cannot be told apart cannot be told apart in any
  place
* `wrappers_invisible` — **pointers and repeated options cannot be told from a description**

## Hypotheses

Contexts are types with one place left out, in the items of a slice or among the arguments of a
path, to any depth.  The name of the path is arbitrary, so a context need not make sense as a type,
and the place may be an argument that nobody looks at.

`SameSchemas` is asked for every monad and all descriptions of leaves.  So it gives the schemas of
types that are written out and of those that are not from one proof.
-/

namespace OpenResponse

/-! ### Places in types

Filling the place is a recursion on the context, so every congruence is an induction on it with two
steps. -/

/-- A type with a place in it where a type is missing. -/
inductive TypeContext
  /-- The place is all there is. -/
  | place
  /-- The place is in the items of a slice. -/
  | slice (inner : TypeContext)
  /-- The place is in one of the arguments of a path. -/
  | argument (path : String) (front : List TypeRef) (inner : TypeContext) (back : List TypeRef)

/-- The whole type, with a type in the place.  It follows the path from the place outwards, so a law
about all places is an induction on the context. -/
def TypeContext.fill : TypeContext → TypeRef → TypeRef
  | place, type => type
  | slice inner, type => .slice (inner.fill type)
  | argument path front inner back, type => .path path (front ++ inner.fill type :: back)

/-! ### Schemas

A pointer with one argument is described as that argument, and marking a schema twice as missing is
marking it once. -/

/-- Two types with the same schema, whatever the schemas of their leaves are. -/
def SameSchemas (type other : TypeRef) : Prop :=
  ∀ (m : Type → Type) [Monad m] [LawfulMonad m] (leaf : String → m Document),
    schemaWith leaf type = schemaWith leaf other

namespace SameSchemas

variable {type other : TypeRef}

/-- Types with the same schema have it in every place.  A place is reached by steps into slices and
arguments, and each of them keeps the schema by a lemma of its own. -/
theorem fill (same : SameSchemas type other) (context : TypeContext) :
    SameSchemas (context.fill type) (context.fill other) := by
  intro m _ _ leaf
  induction context with
  | place => exact same m leaf
  | slice inner ih =>
    rw [TypeContext.fill, TypeContext.fill, schemaWith, schemaWith, ih]
  | argument path front inner back ih =>
    rw [TypeContext.fill, TypeContext.fill, schemaWith, schemaWith, schemasWith_eq_map,
      schemasWith_eq_map, List.map_append, List.map_append, List.map_cons, List.map_cons, ih]

private theorem schemaOf
    (same : SameSchemas type other) (known : List Declaration) (isInline : Bool) :
    OpenResponse.schemaOf known ⟨type, isInline⟩ =
      OpenResponse.schemaOf known ⟨other, isInline⟩ := by
  cases isInline with
  | true => exact same (Except Fault) (leafSchema known)
  | false => exact congrArg Except.ok (same Id fun name => pure (schemaReference name))

end SameSchemas

/-- The names of pointers. -/
def pointerNames : List String := ["Box", "Rc", "Arc", "Cow", "RefCell"]

/-- The names of pointers are those of containers that leave no trace. -/
theorem container?_of_mem_pointerNames {name : String} (isPointer : name ∈ pointerNames) :
    container? name = some .pointer := by
  have listed : ∀ name ∈ pointerNames, container? name = some .pointer :=
    forall_mem_of_all (by decide)
  exact listed name isPointer

/-- A container has one of the names that are listed for it. -/
theorem exists_mem_containerNames {name : String} {kind : Container}
    (isContainer : container? name = some kind) :
    ∃ entry ∈ containerNames, entry.2 = kind ∧ name ∈ entry.1 := by
  obtain ⟨entry, found, same⟩ := Option.map_eq_some_iff.mp isContainer
  have isName : entry.1.contains name = true := by simpa using List.find?_some found
  exact ⟨entry, List.mem_of_find?_eq_some found, same, List.contains_iff_mem.mp isName⟩

/-- The name of a container has no fixed schema. -/
theorem unfixed_of_container? {name : String} {kind : Container}
    (isContainer : container? name = some kind) :
    primitiveSchema? name = none ∧ isAnything name = false := by
  have listed : ∀ entry ∈ containerNames, (entry.1.all fun name =>
      (primitiveSchema? name).isNone && !isAnything name) = true := forall_mem_of_all (by decide)
  obtain ⟨entry, isEntry, -, isName⟩ := exists_mem_containerNames isContainer
  simpa using List.all_eq_true.mp (listed entry isEntry) name isName

/-- What is contained is an argument of a container. -/
theorem container?_of_contents? {name : String} {args : List TypeRef} {kind : Container}
    {arg : TypeRef} (contains : contents? name args = some (kind, arg)) :
    container? name = some kind ∧ kind.payload? args = some arg := by
  obtain ⟨kind', isContainer, payload⟩ := Option.bind_eq_some_iff.mp contains
  obtain ⟨arg', isPayload, same⟩ := Option.map_eq_some_iff.mp payload
  cases same
  exact ⟨isContainer, isPayload⟩

/-- A container wraps the schema of what it contains. -/
theorem schemaWith_contained {m : Type → Type} [Monad m] {path : String} {args : List TypeRef}
    {kind : Container} {arg : TypeRef}
    (contains : contents? (lastSegment path) args = some (kind, arg))
    (leaf : String → m Document) :
    schemaWith leaf (.path path args) = kind.wrap (schemaWith leaf arg) := by
  obtain ⟨notPrimitive, notAnything⟩ :=
    unfixed_of_container? (container?_of_contents? contains).1
  rw [schemaWith, schemasWith_eq_map, namedSchema_map, notPrimitive, notAnything, contains]
  rfl

/-- Pointers have no schema of their own. -/
theorem sameSchemas_pointer {path : String}
    (isPointer : container? (lastSegment path) = some .pointer) (type : TypeRef) :
    SameSchemas (.path path [type]) type := by
  intro m _ _ leaf
  have contains : contents? (lastSegment path) [type] = some (.pointer, type) := by
    rw [contents?, isPointer]
    rfl
  exact schemaWith_contained contains leaf

/-- What may be missing twice may be missing once. -/
theorem nullableSchema_nullableSchema (schema : Document) :
    nullableSchema (nullableSchema schema) = nullableSchema schema := by
  by_cases isReference : Ordered.has schema.members "$ref" = true
  · -- a wrapped reference is none, and it says already that it may be missing
    have wrapped : nullableSchema schema =
        .object [("allOf", .array [schema]), ("nullable", .bool true)] := by
      rw [nullableSchema, if_pos isReference]
    rw [wrapped]
    rfl
  · have marked : nullableSchema schema = schema.withMember "nullable" (.bool true) := by
      rw [nullableSchema, if_neg isReference]
    have still :
        ¬ Ordered.has (schema.withMember "nullable" (.bool true)).members "$ref" = true := by
      cases schema with
      | object members =>
        have others : Ordered.get? (Ordered.assign members "nullable" (.bool true)) "$ref" =
            Ordered.get? members "$ref" := by
          rw [Ordered.get?_assign, if_neg (by decide)]
        show ¬ (Ordered.get? (Ordered.assign members "nullable" (.bool true)) "$ref").isSome = true
        rwa [others]
      | _ => exact isReference
    rw [marked, nullableSchema, if_neg still]
    cases schema with
    | object members => exact congrArg Document.object (Ordered.assign_assign_self members _ _ _)
    | _ => rfl

/-- Options inside options have no schema of their own. -/
theorem sameSchemas_option {outer inner : String} (isOuter : lastSegment outer = "Option")
    (isInner : lastSegment inner = "Option") (type : TypeRef) :
    SameSchemas (.path outer [.path inner [type]]) (.path inner [type]) := by
  intro m _ _ leaf
  have contains {path : String} (isOption : lastSegment path = "Option") (type : TypeRef) :
      contents? (lastSegment path) [type] = some (.optional, type) := by
    rw [isOption]
    rfl
  rw [schemaWith_contained (contains isOuter _), schemaWith_contained (contains isInner type),
    Container.wrap, Container.wrap, ← comp_map]
  congr 1
  exact funext nullableSchema_nullableSchema

/-! ### Content types

The last argument of a wrapper is what it comes down to, and the first of a sequence are its items.
At any other place an argument is not looked at. -/

theorem lastUnwrapped_eq_map (types : List TypeRef) :
    lastUnwrapped types = types.getLast?.map unwrapped := by
  induction types with
  | nil => rfl
  | cons type rest ih =>
    cases rest with
    | nil => rfl
    | cons second more => rw [lastUnwrapped, ih, List.getLast?_cons_cons]; simp

/-- A wrapper comes down to what its last argument comes down to. -/
theorem unwrapped_wrapper {path : String} (wraps : isWrapper (lastSegment path) = true)
    (front : List TypeRef) (type : TypeRef) :
    unwrapped (.path path (front ++ [type])) = unwrapped type := by
  rw [unwrapped, if_pos wraps, lastUnwrapped_eq_map, List.getLast?_concat]
  rfl

/-- Any other type comes down to itself. -/
theorem unwrapped_path {path : String} (wraps : isWrapper (lastSegment path) = false)
    (args : List TypeRef) : unwrapped (.path path args) = .path path args := by
  rw [unwrapped, if_neg (Bool.eq_false_iff.mp wraps)]

/-- Two types that content types do not tell apart: what they come down to has the same name, is
primitive or not, and has bytes for items or not. -/
structure SameContent (type other : TypeRef) : Prop where
  name : (unwrapped type).name = (unwrapped other).name
  primitive : isPrimitive (unwrapped type) = isPrimitive (unwrapped other)
  bytes : (itemType? (unwrapped type)).any isByte = (itemType? (unwrapped other)).any isByte

namespace SameContent

variable {type other : TypeRef}

/-- Types that come down to the same type. -/
theorem of_unwrapped_eq (same : unwrapped type = unwrapped other) : SameContent type other := by
  constructor <;> rw [same]

/-- Types that content types do not tell apart are sequences of bytes alike if they are items. -/
theorem isByte_eq (same : SameContent type other) : isByte type = isByte other := by
  unfold isByte
  rw [same.name]

private theorem slice (same : SameContent type other) :
    SameContent (.slice type) (.slice other) where
  name := rfl
  primitive := rfl
  bytes := same.isByte_eq

/-- An argument is looked at if it is the last of a wrapper or the first of a sequence. -/
theorem argument (same : SameContent type other) (path : String) (front back : List TypeRef) :
    SameContent (.path path (front ++ type :: back)) (.path path (front ++ other :: back)) := by
  -- a wrapper looks at its last argument alone, and a sequence at its first
  cases wraps : isWrapper (lastSegment path) with
  | true =>
    rcases List.eq_nil_or_concat' back with rfl | ⟨between, last, rfl⟩
    · constructor
      · rw [unwrapped_wrapper wraps, unwrapped_wrapper wraps, same.name]
      · rw [unwrapped_wrapper wraps, unwrapped_wrapper wraps, same.primitive]
      · rw [unwrapped_wrapper wraps, unwrapped_wrapper wraps, same.bytes]
    · -- the last argument stands behind the place
      have behind (first : TypeRef) :
          unwrapped (.path path (front ++ first :: (between ++ [last]))) = unwrapped last := by
        rw [← List.cons_append, ← List.append_assoc, unwrapped_wrapper wraps]
      exact of_unwrapped_eq ((behind type).trans (behind other).symm)
  | false =>
    have items : (itemType? (.path path (front ++ type :: back))).any isByte =
        (itemType? (.path path (front ++ other :: back))).any isByte := by
      simp only [itemType?]
      split
      · cases front with
        | nil => exact same.isByte_eq
        | cons first rest => rfl
      · cases front with
        | nil => exact same.isByte_eq
        | cons first rest => rfl
      · rfl
    constructor
    · rw [unwrapped_path wraps, unwrapped_path wraps]
      rfl
    · rw [unwrapped_path wraps, unwrapped_path wraps]
      rfl
    · rw [unwrapped_path wraps, unwrapped_path wraps, items]

/-- Types that content types do not tell apart cannot be told apart in any place.  The steps are
`slice` and `argument`, where what is asked of the whole follows from what is asked of the part. -/
theorem fill (same : SameContent type other) (context : TypeContext) :
    SameContent (context.fill type) (context.fill other) := by
  induction context with
  | place => exact same
  | slice inner ih => exact ih.slice
  | argument path front inner back ih => exact ih.argument path front back

private theorem defaultContentType (same : SameContent type other) :
    OpenResponse.defaultContentType type = OpenResponse.defaultContentType other := by
  unfold OpenResponse.defaultContentType
  simp only [same.bytes, same.primitive]

end SameContent

/-! ### Descriptions

A description is the schema, in both ways of writing it, and the content type. -/

/-- Two types with the same schema, written out or not, and the same content type. -/
def SameDescription (known : List Declaration) (type other : TypeRef) : Prop :=
  (∀ isInline, schemaOf known ⟨type, isInline⟩ = schemaOf known ⟨other, isInline⟩) ∧
    defaultContentType type = defaultContentType other

/-- Types that have the same schemas and come down to the same type have the same description
wherever they stand. -/
theorem SameSchemas.sameDescription {type other : TypeRef} (same : SameSchemas type other)
    (down : unwrapped type = unwrapped other) (known : List Declaration) (context : TypeContext) :
    SameDescription known (context.fill type) (context.fill other) :=
  ⟨(same.fill context).schemaOf known,
    ((SameContent.of_unwrapped_eq down).fill context).defaultContentType⟩

/-- **Wrappers are invisible.**  Whatever is declared and wherever a type stands, a pointer to it in
its place changes no description, and neither does an option of an option in place of the option. -/
theorem wrappers_invisible (known : List Declaration) (context : TypeContext) (type : TypeRef) :
    (∀ path, lastSegment path ∈ pointerNames →
      SameDescription known (context.fill (.path path [type])) (context.fill type)) ∧
    ∀ outer inner, lastSegment outer = "Option" → lastSegment inner = "Option" →
      SameDescription known (context.fill (.path outer [.path inner [type]]))
        (context.fill (.path inner [type])) := by
  constructor
  · intro path isPointer
    have isContainer := container?_of_mem_pointerNames isPointer
    have wraps : isWrapper (lastSegment path) = true := by
      rw [isWrapper, isContainer]
      rfl
    exact (sameSchemas_pointer isContainer type).sameDescription
      (unwrapped_wrapper wraps [] type) known context
  · intro outer inner isOuter isInner
    have wraps : isWrapper (lastSegment outer) = true := by
      rw [isOuter]
      decide
    exact (sameSchemas_option isOuter isInner type).sameDescription
      (unwrapped_wrapper wraps [] _) known context

/-- Bytes behind a pointer are bytes, and a name that may be missing twice may be missing once. -/
theorem wrappers_invisible_nested :
    SameDescription [] (.path "Option" [.path "Vec" [.path "std::rc::Rc" [.path "u8" []]]])
      (.path "Option" [.path "Vec" [.path "u8" []]]) ∧
    SameDescription [] (.slice (.path "Option" [.path "Option" [.path "User" []]]))
      (.slice (.path "Option" [.path "User" []])) :=
  ⟨(wrappers_invisible [] (.argument "Option" [] (.argument "Vec" [] .place []) [])
      (.path "u8" [])).1 "std::rc::Rc" (by decide),
    (wrappers_invisible [] (.slice .place) (.path "User" [])).2 "Option" "Option" (by decide)
      (by decide)⟩

end OpenResponse
