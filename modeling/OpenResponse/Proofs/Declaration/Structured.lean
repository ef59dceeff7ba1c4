import OpenResponse.Proofs.Declaration.Enums
import OpenResponse.Proofs.Declaration.Variants
import OpenResponse.Proofs.Schema.Declared

/-!
# Content types of structured bodies

A struct or a variant with named fields and an enum without tags are bodies of their own: the schema
of the whole is the body of the response.  Unless attributes give content types, there is one
content with that schema.  Its content type is the one that suits a type with the name of the
declaration, by a rule that is made for references to types and knows primitive types by their
names.  So such a body is a document, as everything is that has a structure, except if the name of
the declaration happens to be that of a primitive type; then it is plain text.

Three things have to come together, and each is a lemma of its own.  Attributes that give no content
types one by one give none together.  Without content types and without content of variants a
response has one content, whose type is the default for the type of its body.  And the body of a
structured declaration has for its type a path of one segment, the name of the declaration, to which
the default content type applies like to the name of any type.

## Main definitions

* `GiveNoContentTypes` — attributes that give no content types
* `nameContentType` — the content type of a type without arguments
* `ResponseValue.HasOneContent` — responses with a single content
* `Declaration.IsRecord`, `Variant.IsRecord`, `Declaration.IsStructured` — structured bodies

## Main statements

* `hasOneContent_responseValue` — without content types a schema is content once
* `structuredContent` — **the content of structured bodies**

## Hypotheses

`GiveNoContentTypes` is asked of the attributes as they are read, and of those only that can be
read; if one cannot, there is no response and nothing to show.  It is asked for one sort of
attributes at a time, since the same text may be readable in one sort and not in the other.

An enum has to be without tagged variants.  A tagged variant is content of its own type, and the
enum is no body then.
-/

namespace OpenResponse

/-! ### Attributes without content types

That content types are not given is a statement about the last attribute that gives some: there is
none. -/

/-- Attributes of a sort give no content types, as far as they can be read. -/
def GiveNoContentTypes (sort : AttributeSort) (attributes : List Attribute) : Prop :=
  ∀ attr ∈ attributes, attr.name = "response" →
    ∀ value, sort.read attr.location attr.arguments = .ok value →
      (sort.details value).contentTypes = none

/-- What gives no content types one by one gives none together. -/
theorem GiveNoContentTypes.merged {sort : AttributeSort} {attributes : List Attribute}
    {said : Option sort.Value} (nothing : GiveNoContentTypes sort attributes)
    (merged : foldAttributes sort.read sort.merge attributes = .ok said) :
    ∀ value ∈ said, (sort.details value).contentTypes = none := by
  rw [foldAttributes_eq] at merged
  obtain ⟨values, read, rfl⟩ := map_eq_ok.mp merged
  have each : ∀ value ∈ values, (sort.details value).contentTypes = none := by
    intro value listed
    obtain ⟨attr, kept, isRead⟩ := (mem_of_forall₂ (mapM_eq_ok.mp read)).2 value listed
    obtain ⟨inList, named⟩ := List.mem_filter.mp kept
    exact nothing attr inList (beq_iff_eq.mp named) value isRead
  cases values with
  | nil =>
    intro value given
    cases given
  | cons first rest =>
    rintro _ ⟨⟩
    rw [List.forall_mem_cons] at each
    rw [sort.details_foldl, part_foldl_of_none Details.contentTypes_merge]
    · exact each.1
    · exact List.forall_mem_map.mpr each.2

/-! ### One content

The content is described in two ways, by the calls for it and by the entries of the object that the
response stands for. -/

/-- The content type that suits a type without arguments: plain text if its name is that of a
primitive type, and a document otherwise. -/
def nameContentType (name : String) : String :=
  if name ∈ primitiveNames then "text/plain" else "application/json"

private theorem defaultContentType_name (path : String) :
    defaultContentType (.path path []) = nameContentType (lastSegment path) := by
  have alone : unwrapped (.path path []) = .path path [] :=
    unwrapped_of_contents?_eq_none (contents?_nil _)
  have noItems : itemType? (.path path []) = none := by
    rw [itemType?]
    split <;> rfl
  have primitive : isPrimitive (.path path []) = true ↔ lastSegment path ∈ primitiveNames := by
    rw [isPrimitive, Option.isSome_iff_ne_none, Ne, primitiveSchema?_eq_none_iff, not_not]
  rw [defaultContentType, alone, noItems, nameContentType]
  simp only [primitive]
  rfl

/-- A response has a single content, which has a schema and a content type and comes with the
examples of the response. -/
structure ResponseValue.HasOneContent (value : ResponseValue) (schema : Document)
    (contentType : String) : Prop where
  /-- Among the calls one adds content. -/
  calls : ∀ known chain, emitValue known value = .ok chain →
    chain.filter (·.method == "content") =
      [.call "content" [.string contentType,
        .chain (mediaCalls schema value.sample value.examples)]]
  /-- The calls are there if the headers have schemas. -/
  emits : ∀ known, (∃ chain, emitValue known value = .ok chain) ↔
    ∀ header ∈ value.headers, ∃ schema, header.schemaDocument known = .ok schema
  /-- In the object of the response there is one entry for content. -/
  entries : ∀ known, value.contentEntries known =
    .ok [(contentType, mediaObject schema value.sample value.examples)]

/-- A response by value with a single content.  The schema and the content type are all that is said
of it; examples and headers are free. -/
def Response.HasOneContent (response : Response) (schema : Document) (contentType : String) :
    Prop :=
  ∃ value, response = .value value ∧ value.HasOneContent schema contentType

/-- Without content types a schema is content once, for the name that it is the schema of. -/
theorem hasOneContent_responseValue {details : Details} (nothing : details.contentTypes = none)
    (description : String) (schema : Document) (name : String) :
    (details.responseValue description (some (.schema schema (.path name []))) []).HasOneContent
      schema (nameContentType (lastSegment name)) := by
  generalize isValue :
    details.responseValue description (some (.schema schema (.path name []))) [] = value
  have chains (known : List Declaration) : value.contentChains known =
      .ok [(nameContentType (lastSegment name),
        mediaCalls schema value.sample value.examples)] := by
    subst isValue
    rw [← defaultContentType_name]
    show Except.ok ((details.contentTypes.getD _).map _) = _
    rw [nothing]
    rfl
  refine ⟨fun known chain emitted => ?_, fun known => ?_, fun known => ?_⟩
  · rw [emitValue_eq, chains] at emitted
    obtain ⟨_, ⟨⟩, emitted⟩ := outcome_bind_eq_ok.mp emitted
    obtain ⟨headers, -, done⟩ := outcome_bind_eq_ok.mp emitted
    cases done
    exact filter_content (by simp [namedCall, Instruction.method]) _ _
  · rw [emitValue_eq, chains]
    refine exists_bind_pure_eq_ok.trans (exists_mapM_eq_ok.trans ?_)
    refine forall₂_congr fun header _ => ?_
    exact exists_bind_pure_eq_ok
  · rw [ResponseValue.contentEntries_eq, chains]
    show Except.ok [(nameContentType (lastSegment name), contentObject (mediaCalls _ _ _))] = _
    rw [contentObject_mediaCalls]

/-! ### Structured bodies

Structs that are one response, structs that list one, and variants of an enum that lists one for
each. -/

/-- A struct with named fields.  One without fields is left out, as it is described like the unit
type. -/
structure Declaration.IsRecord (declaration : Declaration) : Prop where
  isStruct : declaration.kind = .struct
  isNamed : declaration.isTuple = false
  notEmpty : declaration.fields ≠ []

/-- A variant with named fields.  One without fields is left out, as with declarations. -/
structure Variant.IsRecord (variant : Variant) : Prop where
  isNamed : variant.isTuple = false
  notEmpty : variant.fields ≠ []

/-- A struct with named fields, or an enum without tagged variants. -/
inductive Declaration.IsStructured (declaration : Declaration) : Prop
  | record (isRecord : declaration.IsRecord)
  | enum (isEnum : declaration.kind = .enum) (untagged : declaration.tagged = [])

private theorem Declaration.IsRecord.shape_eq {declaration : Declaration}
    (isRecord : declaration.IsRecord) :
    declaration.shape = .ok (.record declaration.type declaration.fields) := by
  rw [shape, isRecord.isStruct, isRecord.isNamed]
  simp [isRecord.notEmpty]

private theorem Variant.IsRecord.contents_eq {variant : Variant} (isRecord : variant.IsRecord)
    (type : TypeRef) : variant.contents type =
      (fun schema => some (.inr (.schema schema type))) <$>
        recordSchema variant.fields variant.docs := by
  obtain ⟨label, fields, isTuple, attributes, docs, location⟩ := variant
  obtain ⟨rfl, notEmpty⟩ := isRecord
  cases fields with
  | nil => exact absurd rfl notEmpty
  | cons field rest =>
    simp only [contents]
    cases recordSchema (field :: rest) docs <;> rfl

/-- A variant without a tag has no content of its own. -/
theorem Variant.content?_untagged {variant : Variant} (untagged : variant.isTagged = false)
    {content : Option ContentVariant} (read : variant.content? = .ok content) : content = none := by
  unfold isTagged at untagged
  unfold content? at read
  obtain ⟨said, -, read⟩ := outcome_bind_eq_ok.mp read
  cases first : variant.fields.head? with
  | none =>
    rw [first] at read
    cases read
    rfl
  | some field =>
    rw [first] at read untagged
    obtain ⟨tag, isTag, read⟩ := outcome_bind_eq_ok.mp read
    rw [Field.contentTag_of_not untagged] at isTag
    cases isTag
    cases read
    rfl

/-- Variants without tags have no content of their own. -/
theorem mapM_content?_untagged {variants : List Variant}
    (untagged : variants.filter Variant.isTagged = []) {contents : List (Option ContentVariant)}
    (read : variants.mapM Variant.content? = .ok contents) : contents.filterMap id = [] := by
  rw [List.filterMap_eq_nil_iff]
  intro content listed
  obtain ⟨variant, inList, isRead⟩ := (mem_of_forall₂ (mapM_eq_ok.mp read)).2 content listed
  have plain := List.filter_eq_nil_iff.mp untagged variant inList
  exact variant.content?_untagged (Bool.eq_false_iff.mpr plain) isRead

namespace Declaration

variable {declaration : Declaration}

/-- The response of a structured body has its schema for the body and no other content. -/
theorem IsStructured.response_eq (isStructured : declaration.IsStructured)
    {descriptor : ResponseDescriptor} (given : declaration.response = .ok descriptor) :
    ∃ schema, declarationSchema declaration = .ok schema ∧
      createResponse declaration (some (.schema schema declaration.type)) [] = .ok descriptor := by
  rw [response] at given
  obtain ⟨shape, shaped, given⟩ := outcome_bind_eq_ok.mp given
  cases isStructured with
  | record isRecord =>
    cases isRecord.shape_eq.symm.trans shaped
    exact outcome_bind_eq_ok.mp given
  | enum isEnum untagged =>
    have enum : declaration.shape = .ok (.enum declaration.type declaration.variants) := by
      rw [Declaration.shape, isEnum]
    cases enum.symm.trans shaped
    obtain ⟨contents, read, given⟩ := outcome_bind_eq_ok.mp given
    rw [mapM_content?_untagged untagged read] at given
    exact outcome_bind_eq_ok.mp given

/-- The response of a structured body has one content. -/
theorem IsStructured.hasOneContent (isStructured : declaration.IsStructured)
    (nothing : GiveNoContentTypes .plain declaration.attributes) {descriptor : ResponseDescriptor}
    (given : declaration.response = .ok descriptor) :
    ∃ schema, declarationSchema declaration = .ok schema ∧
      descriptor.response.HasOneContent schema (nameContentType declaration.type.name) := by
  obtain ⟨schema, described, created⟩ := isStructured.response_eq given
  obtain ⟨said, merged, -⟩ := outcome_bind_eq_ok.mp created
  rw [createResponse_eq merged] at created
  cases created
  have noTypes : (said.getD .empty).contentTypes = none := by
    cases said with
    | none => rfl
    | some details => exact nothing.merged merged details rfl
  exact ⟨schema, described, _, rfl, hasOneContent_responseValue noTypes _ schema _⟩

end Declaration

/-- The response of attributes over a schema has one content. -/
theorem hasOneContent_statusResponse {attributes : List Attribute} {location place : Location}
    {value : StatusDetails} {schema : Document} {name description : String}
    {descriptor : ResponseDescriptor} (nothing : GiveNoContentTypes .withStatus attributes)
    (status : requiredStatus attributes location = .ok value)
    (given : statusResponse value description (some (.inr (.schema schema (.path name [])))) place =
      .ok descriptor) :
    descriptor.response.HasOneContent schema (nameContentType (lastSegment name)) := by
  cases given
  obtain ⟨said, merged, required⟩ := outcome_bind_eq_ok.mp status
  cases said with
  | none => cases required
  | some details =>
    cases required
    have noTypes : value.details.contentTypes = none :=
      nothing.merged merged value rfl
    exact ⟨_, rfl, hasOneContent_responseValue noTypes _ schema name⟩

/-- The structured bodies of a declaration are content once, under a content type, unless other
content types are given. -/
structure Declaration.StructuredContent (declaration : Declaration) (contentType : String) :
    Prop where
  /-- A struct or an enum that is one response. -/
  response : declaration.IsStructured → GiveNoContentTypes .plain declaration.attributes →
    ∀ descriptor, declaration.response = .ok descriptor →
      ∃ schema, declarationSchema declaration = .ok schema ∧
        descriptor.response.HasOneContent schema contentType
  /-- A struct that lists its response. -/
  record : declaration.IsRecord → GiveNoContentTypes .withStatus declaration.attributes →
    ∀ responses, declaration.responses = .ok responses →
      ∃ descriptor schema, responses = [descriptor] ∧
        declarationSchema declaration = .ok schema ∧
        descriptor.response.HasOneContent schema contentType
  /-- An enum that lists the responses of its variants. -/
  variants : declaration.kind = .enum → ∀ responses, declaration.responses = .ok responses →
    List.Forall₂ (fun variant descriptor =>
        variant.IsRecord → GiveNoContentTypes .withStatus variant.attributes →
          ∃ schema, recordSchema variant.fields variant.docs = .ok schema ∧
            descriptor.response.HasOneContent schema contentType)
      declaration.variants responses

/-- **The content of structured bodies.**  Without content types in their attributes, structs and
variants with named fields and enums without tags are content once, under the content type that the
name of the declaration suggests: it is a document unless the name is that of a primitive type. -/
theorem structuredContent (declaration : Declaration) :
    declaration.StructuredContent (nameContentType declaration.type.name) where
  response isStructured nothing _ given := isStructured.hasOneContent nothing given
  record := by
    intro isRecord nothing responses given
    rw [Declaration.responses] at given
    obtain ⟨shape, shaped, given⟩ := outcome_bind_eq_ok.mp given
    cases isRecord.shape_eq.symm.trans shaped
    obtain ⟨value, status, given⟩ := outcome_bind_eq_ok.mp given
    obtain ⟨schema, described, given⟩ := outcome_bind_eq_ok.mp given
    obtain ⟨descriptor, answered, done⟩ := outcome_bind_eq_ok.mp given
    cases done
    exact ⟨descriptor, schema, rfl, described, hasOneContent_statusResponse nothing status answered⟩
  variants := by
    intro isEnum responses given
    have each : declaration.responses =
        declaration.variants.mapM (Variant.response declaration.type) := by
      rw [Declaration.responses, Declaration.shape, isEnum]
      rfl
    rw [each, mapM_eq_ok] at given
    -- variant by variant: one that is a record is answered like a struct
    refine given.imp fun variant descriptor answered isRecord nothing => ?_
    rw [Variant.response_eq] at answered
    obtain ⟨value, status, answered⟩ := outcome_bind_eq_ok.mp answered
    obtain ⟨contents, isContents, answered⟩ := outcome_bind_eq_ok.mp answered
    rw [isRecord.contents_eq] at isContents
    obtain ⟨schema, described, rfl⟩ := map_eq_ok.mp isContents
    exact ⟨schema, described, hasOneContent_statusResponse nothing status answered⟩

/-- A struct with a name and a named field. -/
def recordNamed (name : String) (attributes : List Attribute) : Declaration where
  name := name
  kind := .struct
  fields := [⟨some "amount", "i64", .start, [], []⟩]
  isTuple := false
  variants := []
  attributes := attributes
  docs := []
  derives := []
  location := .start

private theorem isRecord_recordNamed (name : String) (attributes : List Attribute) :
    (recordNamed name attributes).IsRecord :=
  ⟨rfl, rfl, List.cons_ne_nil _ _⟩

/-- An attribute that gives a status and nothing else. -/
def statusAttribute : Attribute := ⟨"response", "status = 200", none, .start⟩

private theorem giveNoContentTypes_statusAttribute :
    GiveNoContentTypes .withStatus [statusAttribute] := by
  intro attr listed _ value read
  cases List.mem_singleton.mp listed
  have given : (fun value : StatusDetails => value.details.contentTypes) <$>
      readStatusDetails statusAttribute.location statusAttribute.arguments = .ok none := by
    decide +kernel
  obtain ⟨other, also, nothing⟩ := map_eq_ok.mp given
  cases also.symm.trans read
  exact nothing

/-- An enum with a variant that is a record. -/
def accountEnum : Declaration where
  name := "Lookup"
  kind := .enum
  fields := []
  isTuple := false
  variants := [⟨"Found", (recordNamed "Found" []).fields, false, [statusAttribute], [], .start⟩]
  attributes := []
  docs := []
  derives := []
  location := .start

/-- An account is a document, be it one response, a listed one, or a variant of an enum that lists
responses. -/
theorem structuredContent_account :
    (recordNamed "Account" []).IsStructured ∧ GiveNoContentTypes .plain [] ∧
      GiveNoContentTypes .withStatus [statusAttribute] ∧
      (∃ descriptor schema, (recordNamed "Account" []).response = .ok descriptor ∧
        descriptor.response.HasOneContent schema "application/json") ∧
      (∃ descriptor schema, (recordNamed "Account" [statusAttribute]).responses =
        .ok [descriptor] ∧ descriptor.response.HasOneContent schema "application/json") ∧
      ∃ descriptor schema, accountEnum.responses = .ok [descriptor] ∧
        descriptor.response.HasOneContent schema "application/json" := by
  have isRecord := isRecord_recordNamed "Account"
  have nothing : GiveNoContentTypes .plain [] := fun _ listed => (List.not_mem_nil listed).elim
  have document : nameContentType (recordNamed "Account" []).type.name = "application/json" := by
    decide +kernel
  have documentOfEnum : nameContentType accountEnum.type.name = "application/json" := by
    decide +kernel
  refine ⟨.record (isRecord []), nothing, giveNoContentTypes_statusAttribute, ?_, ?_, ?_⟩
  · obtain ⟨descriptor, given⟩ :
        ∃ descriptor, (recordNamed "Account" []).response = .ok descriptor :=
      exists_of_isOk (by decide +kernel)
    obtain ⟨schema, -, one⟩ := (structuredContent (recordNamed "Account" [])).response
      (.record (isRecord [])) nothing descriptor given
    exact ⟨descriptor, schema, given, document ▸ one⟩
  · obtain ⟨responses, given⟩ :
        ∃ responses, (recordNamed "Account" [statusAttribute]).responses = .ok responses :=
      exists_of_isOk (by decide +kernel)
    obtain ⟨descriptor, schema, rfl, -, one⟩ :=
      (structuredContent (recordNamed "Account" [statusAttribute])).record
        (isRecord [statusAttribute]) giveNoContentTypes_statusAttribute responses given
    exact ⟨descriptor, schema, given, document ▸ one⟩
  · obtain ⟨responses, given⟩ : ∃ responses, accountEnum.responses = .ok responses :=
      exists_of_isOk (by decide +kernel)
    obtain ⟨descriptor, _, each, ⟨⟩, rfl⟩ := List.forall₂_cons_left_iff.mp
      ((structuredContent accountEnum).variants rfl responses given)
    obtain ⟨schema, -, one⟩ :=
      each ⟨rfl, List.cons_ne_nil _ _⟩ giveNoContentTypes_statusAttribute
    exact ⟨descriptor, schema, given, documentOfEnum ▸ one⟩

/-- A structured body need not be a document. -/
theorem response_recordNamedDate :
    ¬ ∀ (declaration : Declaration), declaration.IsStructured →
      GiveNoContentTypes .plain declaration.attributes →
        ∀ descriptor, declaration.response = .ok descriptor →
          ∀ known chain, emitResponse known descriptor.response = .ok chain →
            ∃ media, chain.filter (·.method == "content") =
              [.call "content" [.string "application/json", .chain media]] := by
  intro documents
  have isStructured : (recordNamed "Date" []).IsStructured := .record (isRecord_recordNamed _ _)
  have nothing : GiveNoContentTypes .plain (recordNamed "Date" []).attributes :=
    fun _ listed => (List.not_mem_nil listed).elim
  obtain ⟨chain, done⟩ : ∃ chain, ((recordNamed "Date" []).response >>= fun descriptor =>
      emitResponse [] descriptor.response) = .ok chain := exists_of_isOk (by decide +kernel)
  obtain ⟨descriptor, given, emitted⟩ := outcome_bind_eq_ok.mp done
  obtain ⟨media, document⟩ := documents _ isStructured nothing descriptor given [] chain emitted
  obtain ⟨schema, -, value, isValue, one⟩ := isStructured.hasOneContent nothing given
  have plain : nameContentType (recordNamed "Date" []).type.name = "text/plain" := by
    decide +kernel
  rw [isValue] at emitted
  rw [one.calls [] chain emitted, plain] at document
  simp [Argument.string] at document

end OpenResponse
