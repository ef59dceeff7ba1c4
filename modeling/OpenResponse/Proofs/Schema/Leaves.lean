import OpenResponse.Schema

/-!
# Leaves of types

A type comes down to names: slices and containers are opened until a name is reached that has no
meaning of its own.  The schema of a type is put together from the schemas of these names, and from
nothing else that could vary.

Which name a type comes down to is a matter of three tables: the names with a fixed schema, the
names of containers, and how many arguments a container should have.  They are looked at once, in
`namedSchema_map`, and everything else about schemas of types is proved by its three cases.

## Main definitions

* `contents?` — the argument that a container contains
* `TypeRef.HasLeaf` — the names that a type comes down to

## Main statements

* `namedSchema_map` — the schema of a named type, by what the name stands for
* `schemaWith_congr` — the schema of a type is made of those of its leaves

## Design notes

A type holds other types in a list, so the generated induction does not reach them.  `inductOnArgs`
does.

The laws are stated for any monad in which leaves are described.  The schemas of types are made in
two of them, with failures when names are written out and without when they are only referred to.
-/

namespace OpenResponse

/-- What holds of a type if it holds of the types directly inside it holds of all types. -/
@[elab_as_elim]
theorem TypeRef.inductOnArgs {motive : TypeRef → Prop} (unit : motive .unit)
    (slice : ∀ item, motive item → motive (.slice item))
    (path : ∀ path args, (∀ arg ∈ args, motive arg) → motive (.path path args)) (type : TypeRef) :
    motive type :=
  @TypeRef.rec motive (fun types => ∀ type ∈ types, motive type) path slice unit
    (fun _ listed => (List.not_mem_nil listed).elim)
    (fun _ _ first rest => List.forall_mem_cons.mpr ⟨first, rest⟩) type

/-- The argument that a container contains, if it has as many arguments as it should. -/
def Container.payload? : Container → List TypeRef → Option TypeRef
  | .pointer, args => args.getLast?
  | .map, [_, value] => some value
  | .map, _ => none
  | _, args => args.head?

/-- What a name with arguments contains, if it is that of a container. -/
def contents? (name : String) (args : List TypeRef) : Option (Container × TypeRef) :=
  (container? name).bind fun kind => (kind.payload? args).map (kind, ·)

/-- A name that a type comes down to when slices and containers are opened: the name of a type that
has no meaning of its own. -/
inductive TypeRef.HasLeaf : TypeRef → String → Prop
  /-- The leaves of a slice are those of its items. -/
  | slice {item : TypeRef} {name : String} (inside : item.HasLeaf name) : (slice item).HasLeaf name
  /-- The leaves of a container are those of what it contains. -/
  | contained {path : String} {args : List TypeRef} {kind : Container} {arg : TypeRef}
      {name : String} (contains : contents? (lastSegment path) args = some (kind, arg))
      (inside : arg.HasLeaf name) : (TypeRef.path path args).HasLeaf name
  /-- Any other type is a leaf itself, unless its schema is fixed. -/
  | itself {path : String} {args : List TypeRef}
      (notPrimitive : primitiveSchema? (lastSegment path) = none)
      (notAnything : isAnything (lastSegment path) = false)
      (containsNothing : contents? (lastSegment path) args = none) :
      (TypeRef.path path args).HasLeaf (lastSegment path)

/-- What a container contains is one of its arguments. -/
theorem mem_of_contents? {name : String} {args : List TypeRef} {kind : Container} {arg : TypeRef}
    (contains : contents? name args = some (kind, arg)) : arg ∈ args := by
  obtain ⟨kind', -, contains⟩ := Option.bind_eq_some_iff.mp contains
  obtain ⟨arg', isPayload, same⟩ := Option.map_eq_some_iff.mp contains
  cases same
  unfold Container.payload? at isPayload
  split at isPayload
  · exact List.mem_of_getLast? isPayload
  · cases isPayload
    simp
  · cases isPayload
  · exact List.mem_of_head? isPayload

section Leaves

variable {m : Type → Type} [Monad m] {leaf other : String → m Document}

theorem schemasWith_eq_map (leaf : String → m Document) (types : List TypeRef) :
    schemasWith leaf types = types.map (schemaWith leaf) := by
  induction types with
  | nil => rfl
  | cons type rest ih => rw [schemasWith, ih, List.map_cons]

/-- What a container makes of the schema of what it contains. -/
def Container.wrap : Container → m Document → m Document
  | .optional, inner => nullableSchema <$> inner
  | .pointer, inner => inner
  | .sequence, inner => arraySchema <$> inner
  | .set, inner => setSchema <$> inner
  | .map, inner => mapSchema <$> inner

/-- A named type has a fixed schema, or wraps that of what it contains, or is a leaf. -/
theorem namedSchema_map (leaf : String → m Document) (name : String)
    (describe : TypeRef → m Document) (args : List TypeRef) :
    namedSchema leaf name (args.map describe) =
      match primitiveSchema? name with
      | some schema => pure schema
      | none =>
        if isAnything name then pure (.object [])
        else
          match contents? name args with
          | some (kind, arg) => kind.wrap (describe arg)
          | none => leaf name := by
  unfold namedSchema contents?
  cases primitiveSchema? name with
  | some schema => rfl
  | none =>
    dsimp only
    congr 1
    cases container? name with
    | none => rfl
    | some kind =>
      cases args with
      | nil => cases kind <;> rfl
      | cons first rest =>
        cases kind with
        | map =>
          -- a map contains something only if it has exactly two arguments
          rcases rest with _ | ⟨value, _ | ⟨third, more⟩⟩ <;> rfl
        | pointer =>
          have last : ((first :: rest).map describe).getLastD (describe first) =
              describe ((first :: rest).getLast (List.cons_ne_nil _ _)) := by
            rw [List.getLastD_eq_getLast?, List.getLast?_map,
              List.getLast?_eq_some_getLast (List.cons_ne_nil _ _)]
            rfl
          simp only [Option.bind_some, Container.payload?,
            List.getLast?_eq_some_getLast (List.cons_ne_nil first rest), Option.map_some]
          exact last
        | optional | sequence | set => rfl

/-- Described through what they contain and through leaves, named types have the same schema. -/
theorem namedSchema_congr {path : String} {args : List TypeRef}
    {describe change : TypeRef → m Document}
    (inside : ∀ kind arg, contents? (lastSegment path) args = some (kind, arg) →
      describe arg = change arg)
    (itself : (TypeRef.path path args).HasLeaf (lastSegment path) →
      leaf (lastSegment path) = other (lastSegment path)) :
    namedSchema leaf (lastSegment path) (args.map describe) =
      namedSchema other (lastSegment path) (args.map change) := by
  rw [namedSchema_map, namedSchema_map]
  split
  next => rfl
  next notPrimitive =>
    split
    next => rfl
    next notAnything =>
      split
      next kind arg contains => rw [inside kind arg contains]
      next nothing =>
        exact itself (.itself notPrimitive (Bool.eq_false_iff.mpr notAnything) nothing)

/-- The schema of a type is made of the schemas of its leaves.  By induction on the type, with one
hypothesis for each argument that is described.  Arguments that nobody describes may hold any
leaves. -/
theorem schemaWith_congr (type : TypeRef)
    (same : ∀ name, type.HasLeaf name → leaf name = other name) :
    schemaWith leaf type = schemaWith other type := by
  induction type using TypeRef.inductOnArgs with
  | unit => rfl
  | slice item ih =>
    rw [schemaWith, schemaWith, ih fun name inside => same name (.slice inside)]
  | path path args ih =>
    rw [schemaWith, schemaWith, schemasWith_eq_map, schemasWith_eq_map]
    refine namedSchema_congr (fun kind arg contains => ?_) (same _)
    exact ih arg (mem_of_contents? contains) fun name inside =>
      same name (.contained contains inside)

end Leaves

end OpenResponse
