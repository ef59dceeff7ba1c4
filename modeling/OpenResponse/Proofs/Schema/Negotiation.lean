import OpenResponse.Proofs.Schema.Wrappers

/-!
# Content types and schemas

The content type of a type and its schema are found in different ways: the one by taking wrappers
away until something else is left, the other by describing a type through what it contains.  They
agree on which types are primitive, and on which are sequences of bytes.

Taking wrappers away and describing them go different ways where an option has several arguments,
because a schema shows the first of them and a content type is told from the last.  Where no option
has, a schema is that of the type behind the wrappers, except that it may say that the value may be
missing; so it is compared after that has been taken from it.

Behind the wrappers the two ways meet.  What is primitive is told from the same table in both; what
is a sequence is told by slices and by the names of sequences and sets in both.  So the proof first
moves from a type to the type behind its wrappers, which changes a schema only by what it says about
missing values, and then compares the two ways there.

## Main definitions

* `TypeRef.parts`, `TypeRef.UnaryOptions` — the types inside a type, and those with proper options
* `Document.withoutNullable` — a schema that does not say whether the value may be missing
* `Document.isScalar` — schemas whose values are not made of others

## Main statements

* `referenceSchema_unwrapped` — the schema of a type is that of the type behind the wrappers
* `isScalar_referenceSchema` — only primitive types have schemas like those of primitive types
* `contentType_agrees` — **content types agree with schemas**

## Hypotheses

That no option has several arguments is the condition under which the last argument is the first.
It is asked of every type inside the type, because items are looked at behind their own wrappers
too.

The second half is an implication only.  There are sequences with the schema of bytes that are not
sequences of bytes, as other integers have the same schema.
-/

namespace OpenResponse

/-! ### Types inside types

The condition on options passes to everything inside a type. -/

mutual

/-- The types that occur in a type, itself among them.  A condition on all of them is one on every
place where a wrapper can stand. -/
def TypeRef.parts : TypeRef → List TypeRef
  | .unit => [.unit]
  | .slice item => .slice item :: item.parts
  | .path full args => .path full args :: partsOfAll args

/-- The types that occur in some types. -/
def TypeRef.partsOfAll : List TypeRef → List TypeRef
  | [] => []
  | type :: rest => type.parts ++ partsOfAll rest

end

namespace TypeRef

/-- No option anywhere in the type has more than one argument. -/
def UnaryOptions (type : TypeRef) : Prop :=
  ∀ part ∈ type.parts, part.name = "Option" → part.args.length ≤ 1

private theorem mem_parts_self (type : TypeRef) : type ∈ type.parts := by
  cases type <;> simp [parts]

private theorem mem_partsOfAll {types : List TypeRef} {type part : TypeRef} (listed : type ∈ types)
    (inside : part ∈ type.parts) : part ∈ partsOfAll types := by
  induction types with
  | nil => cases listed
  | cons first rest ih =>
    rw [partsOfAll, List.mem_append]
    rcases List.mem_cons.mp listed with rfl | inRest
    · exact .inl inside
    · exact .inr (ih inRest)

private theorem UnaryOptions.arg {path : String} {args : List TypeRef} {arg : TypeRef}
    (unary : (TypeRef.path path args).UnaryOptions) (listed : arg ∈ args) : arg.UnaryOptions :=
  fun part inside => unary part (List.mem_cons_of_mem _ (mem_partsOfAll listed inside))

end TypeRef

/-! ### Types behind wrappers

A wrapper with an argument comes down to what its contents come down to, and one without is not
taken away. -/

private theorem isWrapper_eq_false {name : String} {kind : Container}
    (isContainer : container? name = some kind) (notPointer : kind ≠ .pointer)
    (notOption : kind ≠ .optional) : isWrapper name = false := by
  simp [isWrapper, isContainer, notPointer, notOption]

/-- Only options have the name of options. -/
theorem eq_option {name : String} (isOption : container? name = some .optional) :
    name = "Option" := by
  obtain ⟨entry, isEntry, isKind, isName⟩ := exists_mem_containerNames isOption
  have listed : (containerNames.all fun entry =>
      entry.2 != .optional || entry.1 == ["Option"]) = true := by decide
  have only := List.all_eq_true.mp listed entry isEntry
  have names : entry.1 = ["Option"] := by simpa [isKind] using only
  rw [names] at isName
  exact List.mem_singleton.mp isName

section Wrapped

variable {path : String} {args : List TypeRef} {kind : Container} {arg : TypeRef}

/-- A pointer, or an option with one argument, comes down to what it contains. -/
theorem unwrapped_contained (contains : contents? (lastSegment path) args = some (kind, arg))
    (wraps : kind = .pointer ∨ kind = .optional)
    (unary : lastSegment path = "Option" → args.length ≤ 1) :
    unwrapped (.path path args) = unwrapped arg := by
  obtain ⟨isContainer, isPayload⟩ := container?_of_contents? contains
  have isLast : args.getLast? = some arg := by
    rcases wraps with rfl | rfl
    · exact isPayload
    · have few := unary (eq_option isContainer)
      match args, few, isPayload with
      | [_], _, isPayload => exact isPayload
  have named : isWrapper (lastSegment path) = true := by
    rcases wraps with rfl | rfl <;> simp [isWrapper, isContainer]
  rw [unwrapped, if_pos named, lastUnwrapped_eq_map, isLast]
  rfl

/-- Nothing is contained without arguments. -/
theorem contents?_nil (name : String) : contents? name [] = none := by
  unfold contents?
  cases container? name with
  | none => rfl
  | some kind => cases kind <;> rfl

/-- A wrapper without arguments is none. -/
theorem unwrapped_of_contents?_eq_none (nothing : contents? (lastSegment path) args = none) :
    unwrapped (.path path args) = .path path args := by
  cases wraps : isWrapper (lastSegment path) with
  | false => exact unwrapped_path wraps args
  | true =>
    have noArgs : args = [] := by
      rw [isWrapper, Bool.or_eq_true, beq_iff_eq, beq_iff_eq] at wraps
      rcases wraps with isContainer | isContainer <;>
        simpa [contents?, isContainer, Container.payload?] using nothing
    rw [noArgs, unwrapped, if_pos wraps]
    rfl

end Wrapped

/-- What a type comes down to is inside it. -/
theorem TypeRef.UnaryOptions.unwrapped {type : TypeRef} (unary : type.UnaryOptions) :
    (OpenResponse.unwrapped type).UnaryOptions := by
  induction type using TypeRef.inductOnArgs with
  | unit => exact unary
  | slice item => exact unary
  | path path args ih =>
    cases wraps : isWrapper (lastSegment path) with
    | false => rwa [unwrapped_path wraps]
    | true =>
      rcases List.eq_nil_or_concat' args with rfl | ⟨front, last, rfl⟩
      · rwa [unwrapped_of_contents?_eq_none (contents?_nil _)]
      · have isLast : last ∈ front ++ [last] := by simp
        rw [unwrapped_wrapper wraps]
        exact ih last isLast (unary.arg isLast)

/-! ### Schemas of wrapped types

By induction on the type, with one case for pointers, which change nothing, and one for options,
which say that the value may be missing. -/

/-- A container wraps the reference schema of what it contains. -/
theorem referenceSchema_contained {path : String} {args : List TypeRef} {kind : Container}
    {arg : TypeRef} (contains : contents? (lastSegment path) args = some (kind, arg)) :
    referenceSchema (.path path args) = kind.wrap (m := Id) (referenceSchema arg) :=
  schemaWith_contained contains _

/-- The schema of a type is that of the type behind the wrappers, marked as one of values that may
be missing or not. -/
theorem referenceSchema_unwrapped (type : TypeRef) (unary : type.UnaryOptions) :
    referenceSchema type = referenceSchema (unwrapped type) ∨
      referenceSchema type = nullableSchema (referenceSchema (unwrapped type)) := by
  induction type using TypeRef.inductOnArgs with
  | unit => exact .inl rfl
  | slice item => exact .inl rfl
  | path path args ih =>
    cases contains : contents? (lastSegment path) args with
    | none => rw [unwrapped_of_contents?_eq_none contains]; exact .inl rfl
    | some contained =>
      obtain ⟨kind, arg⟩ := contained
      have few := unary _ (TypeRef.mem_parts_self _)
      have inside := mem_of_contents? contains
      have isContainer := (container?_of_contents? contains).1
      cases kind with
      | pointer =>
        rw [referenceSchema_contained contains, unwrapped_contained contains (.inl rfl) few]
        exact ih arg inside (unary.arg inside)
      | optional =>
        rw [referenceSchema_contained contains, unwrapped_contained contains (.inr rfl) few]
        right
        -- what is inside may be nullable already, and being so twice is being so once
        rcases ih arg inside (unary.arg inside) with same | same
        · exact congrArg nullableSchema same
        · rw [same]
          exact nullableSchema_nullableSchema _
      | sequence | set | map =>
        rw [unwrapped_path (isWrapper_eq_false isContainer (by decide) (by decide))]
        exact .inl rfl

/-! ### Schemas of values that are not made of others

A schema is told to be primitive by what it says about its type.  It is asked without regard to
missing values, so that an option of a primitive type counts. -/

namespace Document

/-- The schema without what it says about whether the value may be missing. -/
def withoutNullable : Document → Document
  | .object members => .object (members.filter fun member => member.1 != "nullable")
  | other => other

/-- Whether a schema is one of values that are not made of others: it is no reference, and what it
says about their type is neither that they are arrays nor that they are objects. -/
def isScalar (schema : Document) : Bool :=
  match Ordered.get? schema.members "$ref", Ordered.get? schema.members "type" with
  | none, some (.string type) => type != "array" && type != "object"
  | _, _ => false

private theorem get?_withoutNullable
    (schema : Document) {name : String} (other : name ≠ "nullable") :
    Ordered.get? schema.withoutNullable.members name = Ordered.get? schema.members name := by
  cases schema with
  | object members =>
    show Ordered.get? (members.filter _) name = Ordered.get? members name
    induction members with
    | nil => rfl
    | cons member rest ih =>
      obtain ⟨key, value⟩ := member
      by_cases dropped : key = "nullable"
      · subst dropped
        rw [List.filter_cons_of_neg (by simp), ih, Ordered.get?, if_neg (Ne.symm other)]
      · rw [List.filter_cons_of_pos (by simpa using dropped), Ordered.get?, Ordered.get?, ih]
  | _ => rfl

private theorem isScalar_withoutNullable (schema : Document) :
    schema.withoutNullable.isScalar = schema.isScalar := by
  unfold isScalar
  rw [get?_withoutNullable schema (by decide), get?_withoutNullable schema (by decide)]

end Document

private theorem withoutNullable_withMember (schema : Document) (value : Document) :
    (schema.withMember "nullable" value).withoutNullable = schema.withoutNullable := by
  cases schema with
  | object members =>
    refine congrArg Document.object ?_
    induction members with
    | nil => rfl
    | cons member rest ih =>
      obtain ⟨key, old⟩ := member
      by_cases here : key = "nullable"
      · subst here
        rw [Ordered.assign, if_pos rfl, List.filter_cons_of_neg (by simp),
          List.filter_cons_of_neg (by simp)]
      · rw [Ordered.assign, if_neg here, List.filter_cons, List.filter_cons, ih]
  | _ => rfl

/-- Saying that a value may be missing adds nothing else to a schema that is no reference. -/
theorem withoutNullable_nullableSchema {schema : Document}
    (notReference : Ordered.has schema.members "$ref" = false) :
    (nullableSchema schema).withoutNullable = schema.withoutNullable := by
  rw [nullableSchema, if_neg (Bool.eq_false_iff.mp notReference), withoutNullable_withMember]

/-- A value that may be missing is made of others if it is so when it is there. -/
theorem isScalar_nullableSchema (schema : Document) :
    (nullableSchema schema).isScalar = schema.isScalar := by
  cases isReference : Ordered.has schema.members "$ref" with
  | true =>
    obtain ⟨target, found⟩ := Option.isSome_iff_exists.mp isReference
    have notScalar : schema.isScalar = false := by
      unfold Document.isScalar
      rw [found]
    rw [nullableSchema, if_pos isReference, notScalar]
    rfl
  | false =>
    rw [← Document.isScalar_withoutNullable, withoutNullable_nullableSchema isReference,
      Document.isScalar_withoutNullable]

/-- What the schema of a primitive type consists of. -/
theorem primitiveSchema_cases {name : String} {schema : Document}
    (found : primitiveSchema? name = some schema) :
    schema.isScalar = true ∧ schema.withoutNullable = schema ∧
      Ordered.has schema.members "$ref" = false := by
  have listed : ∀ entry ∈ primitiveSchemas, entry.2.isScalar = true ∧
      entry.2.withoutNullable = entry.2 ∧ Ordered.has entry.2.members "$ref" = false := by
    simp [primitiveSchemas, plainSchema, Document.isScalar, Document.withoutNullable,
      Document.members, Ordered.has, Ordered.get?]
  obtain ⟨entry, isEntry, rfl⟩ := Option.map_eq_some_iff.mp found
  exact listed entry (List.mem_of_find?_eq_some isEntry)

/-- The schema of a type is one of values that are not made of others only if the type behind the
wrappers is primitive. -/
theorem isScalar_referenceSchema (type : TypeRef) (unary : type.UnaryOptions) :
    (referenceSchema type).isScalar = isPrimitive (unwrapped type) := by
  induction type using TypeRef.inductOnArgs with
  | unit => rfl
  | slice item => rfl
  | path path args ih =>
    -- a name that contains nothing is its own type; the others come down to what they contain
    cases contains : contents? (lastSegment path) args with
    | none =>
      rw [unwrapped_of_contents?_eq_none contains, isPrimitive, referenceSchema, schemaWith,
        schemasWith_eq_map, namedSchema_map, contains]
      split
      next schema found =>
        rw [found]
        exact (primitiveSchema_cases found).1
      next notPrimitive =>
        rw [notPrimitive]
        split <;> rfl
    | some contained =>
      obtain ⟨kind, arg⟩ := contained
      have few := unary _ (TypeRef.mem_parts_self _)
      have inside := mem_of_contents? contains
      have isContainer := (container?_of_contents? contains).1
      rw [referenceSchema_contained contains]
      cases kind with
      | pointer =>
        rw [unwrapped_contained contains (.inl rfl) few]
        exact ih arg inside (unary.arg inside)
      | optional =>
        rw [unwrapped_contained contains (.inr rfl) few]
        exact (isScalar_nullableSchema _).trans (ih arg inside (unary.arg inside))
      | sequence | set | map =>
        rw [unwrapped_path (isWrapper_eq_false isContainer (by decide) (by decide)), isPrimitive,
          (unfixed_of_container? isContainer).1]
        rfl

/-! ### Content types

The content type looks at the type behind the wrappers and, if that has items, at the type behind
the wrappers of an item. -/

/-- A type with a primitive name has the schema of that name. -/
theorem referenceSchema_primitive {path : String} {schema : Document}
    (found : primitiveSchema? (lastSegment path) = some schema) (args : List TypeRef) :
    referenceSchema (.path path args) = schema := by
  rw [referenceSchema, schemaWith, schemasWith_eq_map, namedSchema_map, found]
  rfl

/-- A type that comes down to a primitive one has the schema of that, which may be missing. -/
theorem withoutNullable_primitive {type : TypeRef} (unary : type.UnaryOptions) {path : String}
    {args : List TypeRef} (down : unwrapped type = .path path args) {schema : Document}
    (found : primitiveSchema? (lastSegment path) = some schema) :
    (referenceSchema type).withoutNullable = schema := by
  obtain ⟨-, bare, notReference⟩ := primitiveSchema_cases found
  have core := referenceSchema_unwrapped type unary
  rw [down, referenceSchema_primitive found] at core
  rcases core with same | same
  · rw [same, bare]
  · rw [same, withoutNullable_nullableSchema notReference, bare]

/-- A named type has items if it is a sequence or a set and contains them. -/
theorem contents?_of_itemType? {path : String} {args : List TypeRef} {item : TypeRef}
    (items : itemType? (.path path args) = some item) :
    ∃ kind, (kind = .sequence ∨ kind = .set) ∧
      contents? (lastSegment path) args = some (kind, item) := by
  rw [itemType?] at items
  have contains {kind : Container} (isContainer : container? (lastSegment path) = some kind)
      (isPayload : kind.payload? args = some item) :
      contents? (lastSegment path) args = some (kind, item) := by
    rw [contents?, isContainer, Option.bind_some, isPayload, Option.map_some]
  split at items
  next isContainer => exact ⟨.sequence, .inl rfl, contains isContainer items⟩
  next isContainer => exact ⟨.set, .inr rfl, contains isContainer items⟩
  next => cases items

/-- The schema of a sequence is made of that of its items. -/
theorem referenceSchema_items {type item : TypeRef} (items : itemType? type = some item) :
    referenceSchema type = arraySchema (referenceSchema item) ∨
      referenceSchema type = setSchema (referenceSchema item) := by
  cases type with
  | unit => cases items
  | slice inner =>
    cases items
    exact .inl rfl
  | path path args =>
    obtain ⟨kind, rfl | rfl, contains⟩ := contents?_of_itemType? items
    · exact .inl (referenceSchema_contained contains)
    · exact .inr (referenceSchema_contained contains)

private theorem TypeRef.UnaryOptions.item {type item : TypeRef} (unary : type.UnaryOptions)
    (items : itemType? type = some item) : item.UnaryOptions := by
  cases type with
  | unit => cases items
  | slice inner =>
    cases items
    exact fun part inside => unary part (List.mem_cons_of_mem _ inside)
  | path path args =>
    obtain ⟨kind, -, contains⟩ := contents?_of_itemType? items
    exact unary.arg (mem_of_contents? contains)

/-- Primitive types have no items. -/
theorem itemType?_of_isPrimitive {type : TypeRef} (primitive : isPrimitive type = true) :
    itemType? type = none := by
  cases type with
  | unit => rfl
  | slice inner => cases primitive
  | path path args =>
    refine Option.eq_none_iff_forall_ne_some.mpr fun item items => ?_
    obtain ⟨kind, -, contains⟩ := contents?_of_itemType? items
    rw [isPrimitive, (unfixed_of_container? (container?_of_contents? contains).1).1] at primitive
    cases primitive

private theorem defaultContentType_eq_text_iff (type : TypeRef) :
    defaultContentType type = "text/plain" ↔ isPrimitive (unwrapped type) = true := by
  unfold defaultContentType
  cases primitive : isPrimitive (unwrapped type) with
  | true => simp [itemType?_of_isPrimitive primitive, primitive]
  | false =>
    simp only [primitive]
    split <;> decide

private theorem defaultContentType_eq_bytes_iff (type : TypeRef) :
    defaultContentType type = "application/octet-stream" ↔
      ∃ item, itemType? (unwrapped type) = some item ∧ isByte item = true := by
  rw [← Option.any_eq_true]
  unfold defaultContentType
  dsimp only
  by_cases bytes : (itemType? (unwrapped type)).any isByte = true
  · rw [if_pos bytes]
    exact iff_of_true rfl bytes
  · rw [if_neg bytes]
    refine iff_of_false ?_ bytes
    split <;> decide

/-- The schema is one of arrays whose items have a given schema, if they are there. -/
def Document.IsArrayOf (schema item : Document) : Prop :=
  ∃ members items, schema = .object members ∧
    Ordered.get? members "type" = some (.string "array") ∧
    Ordered.get? members "items" = some items ∧ items.withoutNullable = item

/-- A type that comes down to a sequence has a schema of arrays of its items. -/
theorem isArrayOf_items {type item : TypeRef} (unary : type.UnaryOptions)
    (items : itemType? (unwrapped type) = some item) :
    (referenceSchema type).withoutNullable.IsArrayOf (referenceSchema item).withoutNullable := by
  have core : ∃ members, referenceSchema (unwrapped type) = .object members ∧
      (Document.object members).withoutNullable = .object members ∧
      Ordered.has members "$ref" = false ∧
      Ordered.get? members "type" = some (.string "array") ∧
      Ordered.get? members "items" = some (referenceSchema item) := by
    rcases referenceSchema_items items with same | same
    · exact ⟨_, same, rfl, rfl, rfl, rfl⟩
    · exact ⟨_, same, rfl, rfl, rfl, rfl⟩
  obtain ⟨members, isCore, bare, notReference, isArray, isItem⟩ := core
  have whole : (referenceSchema type).withoutNullable = .object members := by
    rcases referenceSchema_unwrapped type unary with same | same
    · rw [same, isCore, bare]
    · rw [same, isCore, withoutNullable_nullableSchema (by exact notReference), bare]
  exact ⟨members, referenceSchema item, whole, isArray, isItem, rfl⟩

/-- **Content types agree with schemas.**  Where no option has several arguments, the content type
is plain text if and only if the schema is that of a primitive type, and it is that of binary data
only if the schema is one of arrays of bytes. -/
theorem contentType_agrees (known : List Declaration) (type : TypeRef)
    (unary : ∀ part ∈ type.parts, part.name = "Option" → part.args.length ≤ 1) :
    ∃ schema, schemaOf known ⟨type, false⟩ = .ok schema ∧
      (defaultContentType type = "text/plain" ↔
        ∃ name, primitiveSchema? name = some schema.withoutNullable) ∧
      (defaultContentType type = "application/octet-stream" →
        schema.withoutNullable.IsArrayOf (plainSchema "integer" (some "int32"))) := by
  refine ⟨referenceSchema type, rfl, ?_, ?_⟩
  · rw [defaultContentType_eq_text_iff]
    constructor
    · intro primitive
      cases down : unwrapped type with
      | path path args =>
        rw [down, isPrimitive, Option.isSome_iff_exists] at primitive
        obtain ⟨schema, found⟩ := primitive
        exact ⟨lastSegment path, by rw [found, withoutNullable_primitive unary down found]⟩
      | _ =>
        rw [down] at primitive
        cases primitive
    · rintro ⟨name, found⟩
      rw [← isScalar_referenceSchema type unary, ← Document.isScalar_withoutNullable]
      exact (primitiveSchema_cases found).1
  · rw [defaultContentType_eq_bytes_iff]
    rintro ⟨item, items, bytes⟩
    -- the array is known; that its items are integers of that format is the schema of a byte
    have isArray := isArrayOf_items unary items
    have named : (unwrapped item).name = "u8" := by simpa [isByte] using bytes
    cases down : unwrapped item with
    | path path args =>
      rw [down] at named
      have isInteger : primitiveSchema? (lastSegment path) =
          some (plainSchema "integer" (some "int32")) := by
        rw [show lastSegment path = "u8" from named]
        rfl
      have unaryItem : item.UnaryOptions := TypeRef.UnaryOptions.item
        (TypeRef.UnaryOptions.unwrapped unary) items
      rwa [withoutNullable_primitive unaryItem down isInteger] at isArray
    | _ =>
      rw [down] at named
      exact absurd named (show "" ≠ "u8" by decide)

/-- Bytes behind wrappers inside and outside of their sequence, and a text that may be missing. -/
theorem contentType_agrees_wrapped :
    (defaultContentType (.path "Option" [.path "Vec" [.path "Box" [.path "u8" []]]]) =
        "application/octet-stream" ∧
      (referenceSchema (.path "Option" [.path "Vec" [.path "Box" [.path "u8" []]]])
        ).withoutNullable.IsArrayOf (plainSchema "integer" (some "int32"))) ∧
    defaultContentType (.path "Box" [.path "Option" [.path "str" []]]) = "text/plain" := by
  constructor
  · obtain ⟨schema, described, -, bytes⟩ := contentType_agrees []
      (.path "Option" [.path "Vec" [.path "Box" [.path "u8" []]]])
      (forall_mem_of_all (by decide))
    cases described
    exact ⟨rfl, bytes rfl⟩
  · obtain ⟨schema, described, text, -⟩ := contentType_agrees []
      (.path "Box" [.path "Option" [.path "str" []]]) (forall_mem_of_all (by decide))
    cases described
    exact text.mpr ⟨"String", rfl⟩

end OpenResponse
