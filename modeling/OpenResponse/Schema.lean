import OpenResponse.Declaration
import OpenResponse.Document

/-!
# Schemas

The schema of a type is a document.  Types of the standard library have fixed schemas or wrap those
of their arguments; every other named type is a leaf.  A leaf is a reference to the schema of its
name, unless it is to be written out and its declaration is known; then it is the schema of the
declaration, in which every type is referred to.  So a schema is written out one level deep, and a
declaration that mentions itself does no harm.

The schema of a type is a fold over the type with one parameter, what to do with a leaf.  With
references for leaves it is a total function; with declarations written out it may fail, because
reading the types of fields may.  Both are the same recursion in different monads.

Writing out stops at one level.  The schema of a declaration is made with references for all of its
types, marked or not, so no recursion goes through declarations and nothing has to be bounded.

## Main definitions

* `schemaWith`: the schema of a type, given those of its leaves.
* `referenceSchema`: the schema of a type with references for leaves.
* `recordSchema`, `enumSchema`, `declarationSchema`: the schemas of declarations.
* `inlineSchema`: the schema of a type with its leaves written out.
* `defaultContentType`: the content type of a value of a type.

## Design notes

Only the last segment of a path is looked at.  A fixed name goes before a container and a container
before a declaration, so a type that is declared with the name of one of the first two is never
described by its declaration.

The order of the members of a schema is fixed, and is that in which they are assigned.

Content types are negotiated from the type and not from its schema.  A type that is declared as a
struct but named like a primitive type has the content type that its name suggests.
-/

namespace OpenResponse

/-! ### Named types with a meaning of their own

The names are tables.  No name is in two of them, or twice in one, so the order of looking them up
does not matter. -/

/-- A schema with a type and perhaps a format. -/
def plainSchema (type : String) (format : Option String) : Document :=
  .object
    (("type", .string type) :: (format.map fun name => ("format", Document.string name)).toList)

/-- The names of the types of each plain schema. -/
def primitiveSchemas : List (List String × Document) := [
  (["String", "str", "char"], plainSchema "string" none),
  (["bool"], plainSchema "boolean" none),
  (["i8", "i16", "i32", "u8", "u16", "u32"], plainSchema "integer" (some "int32")),
  (["i64", "i128", "isize", "u64", "u128", "usize"], plainSchema "integer" (some "int64")),
  (["f32"], plainSchema "number" (some "float")),
  (["f64"], plainSchema "number" (some "double")),
  (["Uuid"], plainSchema "string" (some "uuid")),
  (["Date", "NaiveDate"], plainSchema "string" (some "date")),
  (["DateTime", "NaiveDateTime", "OffsetDateTime"], plainSchema "string" (some "date-time"))]

/-- The plain schema of a name, if it is that of a primitive type. -/
def primitiveSchema? (name : String) : Option Document :=
  (primitiveSchemas.find? (·.1.contains name)).map (·.2)

/-- What a generic type of the standard library does with its arguments. -/
inductive Container
  /-- The argument or nothing. -/
  | optional
  /-- The argument itself. -/
  | pointer
  /-- A sequence. -/
  | sequence
  /-- A sequence without repetitions. -/
  | set
  /-- Values under keys. -/
  | map
deriving DecidableEq, Repr

/-- The names of the containers. -/
def containerNames : List (List String × Container) := [
  (["Option"], .optional),
  (["Box", "Rc", "Arc", "Cow", "RefCell"], .pointer),
  (["Vec", "VecDeque", "LinkedList"], .sequence),
  (["HashSet", "BTreeSet", "IndexSet"], .set),
  (["HashMap", "BTreeMap", "IndexMap"], .map)]

/-- The container that a name stands for. -/
def container? (name : String) : Option Container :=
  (containerNames.find? (·.1.contains name)).map (·.2)

/-- Whether values of a named type are documents of any form. -/
def isAnything (name : String) : Bool := name == "Value" || name == "JsonValue"

/-! ### Schemas of types

Which arguments a container looks at is part of the container: options and sequences take the first,
pointers the last, and maps the second of two. -/

/-- The schema of the unit type. -/
def unitSchema : Document := .object [("nullable", .bool true)]

/-- The schema of a sequence. -/
def arraySchema (item : Document) : Document :=
  .object [("type", .string "array"), ("items", item)]

/-- The schema of a sequence without repetitions. -/
def setSchema (item : Document) : Document :=
  .object [("type", .string "array"), ("items", item), ("uniqueItems", .bool true)]

/-- The schema of values under keys. -/
def mapSchema (value : Document) : Document :=
  .object [("type", .string "object"), ("additionalProperties", value)]

/-- The schema of something that may be missing.  A reference is wrapped, because nothing may stand
beside one. -/
def nullableSchema (schema : Document) : Document :=
  if Ordered.has schema.members "$ref" then
    .object [("allOf", .array [schema]), ("nullable", .bool true)]
  else schema.withMember "nullable" (.bool true)

/-- The reference to the schema of a name. -/
def schemaReference (name : String) : Document :=
  .object [("$ref", .string ("#/components/schemas/" ++ name))]

section SchemaOfTypes

variable {m : Type → Type} [Monad m]

/-- The schema of a named type, given the schemas of its arguments.  A container with the wrong
number of arguments is a leaf like any other name. -/
def namedSchema (leaf : String → m Document) (name : String) (args : List (m Document)) :
    m Document :=
  match primitiveSchema? name with
  | some schema => pure schema
  | none =>
    if isAnything name then pure (.object [])
    else
      match container? name, args with
      | some .optional, arg :: _ => nullableSchema <$> arg
      | some .pointer, arg :: rest => (arg :: rest).getLastD arg
      | some .sequence, arg :: _ => arraySchema <$> arg
      | some .set, arg :: _ => setSchema <$> arg
      | some .map, [_, value] => mapSchema <$> value
      | _, _ => leaf name

mutual

/-- The schema of a type, given the schemas of its leaves. -/
def schemaWith (leaf : String → m Document) : TypeRef → m Document
  | .unit => pure unitSchema
  | .slice item => arraySchema <$> schemaWith leaf item
  | .path path args => namedSchema leaf (lastSegment path) (schemasWith leaf args)

/-- The schemas of types, given those of their leaves. -/
def schemasWith (leaf : String → m Document) : List TypeRef → List (m Document)
  | [] => []
  | type :: rest => schemaWith leaf type :: schemasWith leaf rest

end

end SchemaOfTypes

/-- The schema of a type in which every leaf is a reference. -/
def referenceSchema (type : TypeRef) : Document :=
  Id.run (schemaWith (fun name => pure (schemaReference name)) type)

/-! ### Schemas of declarations

The documentation of a field or declaration is a description in its schema, and attributes play no
part. -/

/-- Whether a field has to be there. -/
def isRequired (type : TypeRef) : Bool := type.name != "Option"

/-- A schema with a description at its end, unless that is empty. -/
def describedSchema (description : String) (schema : Members) : Members :=
  if description.isEmpty then schema else Ordered.assign schema "description" (.string description)

/-- The name and schema of a named field, and whether the field has to be there. -/
def fieldSchema (field : Field) : Except Fault (String × Document × Bool) :=
  match field.name with
  | none => .error (.nowhere .namelessField)
  | some name => do
    let type ← field.type
    let schema := referenceSchema type
    let described :=
      if field.docs.isEmpty then schema
      else schema.withMember "description" (.string (joinLines field.docs))
    return (name, described, isRequired type)

/-- The schema of named fields.  The names that have to be there are listed in the order of the
fields, and not at all if there are none. -/
def recordSchema (fields : List Field) (docs : List String) : Except Fault Document := do
  let entries ← fields.mapM fieldSchema
  let required := (entries.filter (·.2.2)).map (·.1)
  let properties := Ordered.ofList (entries.map fun (name, schema, _) => (name, schema))
  let schema := describedSchema (joinLines docs) [("type", .string "object")]
  let schema :=
    if required.isEmpty then schema
    else Ordered.assign schema "required" (.strings required)
  return .object (Ordered.assign schema "properties" (.object properties))

/-- The schema of the fields of a tuple with several fields. -/
def tupleSchema (items : List Document) : Document :=
  let size : Document := .integer items.length
  .object [("type", .string "array"), ("items", .object [("oneOf", .array items)]),
    ("minItems", size), ("maxItems", size)]

/-- The schema of a variant without fields. -/
def namesSchema (names : List String) : Members :=
  [("type", .string "string"), ("enum", .strings names)]

/-- What a variant with fields carries. -/
def payloadSchema (variant : Variant) : Except Fault Document :=
  if !variant.isTuple then recordSchema variant.fields variant.docs
  else
    match variant.fields with
    | [field] => do return referenceSchema (← field.type)
    | fields => do
      let types ← fields.mapM Field.type
      return tupleSchema (types.map referenceSchema)

/-- The schema of a variant: its name, or an object with its payload under its name. -/
def variantSchema (variant : Variant) : Except Fault Document :=
  if variant.fields.isEmpty then .ok (.object (namesSchema [variant.name]))
  else do
    let payload ← payloadSchema variant
    return .object [("type", .string "object"), ("required", .strings [variant.name]),
      ("properties", .object [(variant.name, payload)])]

/-- The schema of an enum: the names of its variants if none has fields, and otherwise one of the
schemas of the variants. -/
def enumSchema (variants : List Variant) (docs : List String) : Except Fault Document := do
  if variants.all (·.fields.isEmpty) then
    return .object (describedSchema (joinLines docs) (namesSchema (variants.map (·.name))))
  else
    let schemas ← variants.mapM variantSchema
    return .object (describedSchema (joinLines docs) [("oneOf", .array schemas)])

/-- The schema of a declaration.  A struct that wraps one field has the schema of the field, and one
without fields that of the unit type. -/
def declarationSchema (declaration : Declaration) : Except Fault Document :=
  match declaration.kind, declaration.isTuple, declaration.fields with
  | .enum, _, _ => enumSchema declaration.variants declaration.docs
  | _, true, [field] => do return referenceSchema (← field.type)
  | _, _, [] => .ok unitSchema
  | _, _, fields => recordSchema fields declaration.docs

/-! ### Types among known declarations

The two descriptions come together in one function, with the mark of a type to tell which of them is
meant. -/

/-- The schema of a name that is to be written out, as far as its declaration is known. -/
def leafSchema (known : List Declaration) (name : String) : Except Fault Document :=
  match findDeclaration known name with
  | some declaration => declarationSchema declaration
  | none => .ok (schemaReference name)

/-- The schema of a type in which every leaf with a known declaration is written out. -/
def inlineSchema (known : List Declaration) (type : TypeRef) : Except Fault Document :=
  schemaWith (leafSchema known) type

/-- The schema of a type that may be marked to be written out. -/
def schemaOf (known : List Declaration) (type : InlineType) : Except Fault Document :=
  if type.isInline then inlineSchema known type.type else .ok (referenceSchema type.type)

/-! ### Content types

Pointers and options are looked through before anything else is asked, and again for the items of a
sequence. -/

/-- Whether a named type stands for its last argument as far as content is concerned. -/
def isWrapper (name : String) : Bool :=
  container? name == some .pointer || container? name == some .optional

mutual

/-- A type without the pointers and options around it. -/
def unwrapped : TypeRef → TypeRef
  | .path path args =>
    if isWrapper (lastSegment path) then (lastUnwrapped args).getD (.path path args)
    else .path path args
  | other => other

/-- The last of some types, without the pointers and options around it. -/
def lastUnwrapped : List TypeRef → Option TypeRef
  | [] => none
  | [type] => some (unwrapped type)
  | _ :: rest => lastUnwrapped rest

end

/-- What the items of a sequence are, if a type is one and says so. -/
def itemType? : TypeRef → Option TypeRef
  | .slice item => some item
  | .path path args =>
    match container? (lastSegment path) with
    | some .sequence | some .set => args.head?
    | _ => none
  | .unit => none

/-- Whether a type is that of bytes. -/
def isByte (type : TypeRef) : Bool := (unwrapped type).name == "u8"

/-- Whether a type is a primitive one. -/
def isPrimitive : TypeRef → Bool
  | .path path _ => (primitiveSchema? (lastSegment path)).isSome
  | _ => false

/-- The content type of a value of a type: that of binary data for sequences of bytes, plain text
for primitive types, and that of documents otherwise. -/
def defaultContentType (type : TypeRef) : String :=
  let type := unwrapped type
  if (itemType? type).any isByte then "application/octet-stream"
  else if isPrimitive type then "text/plain"
  else "application/json"

end OpenResponse
