import OpenResponse.Proofs.Builder.Meaning
import OpenResponse.Proofs.Declaration.Keys
import OpenResponse.Proofs.Schema.Faults
import OpenResponse.Proofs.Schema.FloatFree
import OpenResponse.Proofs.Source.FieldNames

/-!
# Enums that are one response

An enum is one response.  A variant whose first field is tagged with a content type is content of
that type, with a body of its own; as soon as there is such a variant, nothing else of the enum is
in the response, and an example of the whole enum would belong nowhere.  Only an enum without tagged
variants is the body of its response itself.

The two cases are not told apart where the response is made.  With a single tagged variant the whole
enum is still kept as the body and loses to the content afterwards, when the builder calls are
emitted.  So what is proved about the response of an enum is proved about its calls: whatever number
of variants is tagged, the calls are described by the tagged variants alone if there are any.

The proof goes through the content of variants.  Each variant is read by itself, and a tagged one
gives one content, which is made of its first field and of what its attributes say.  The response is
made of these contents in order, and its calls are made of the response.  Both steps are functions
of the list of contents, so whatever is asked of the calls can be asked of the list.

## Main definitions

* `Field.TaggedWith`, `Declaration.tagged` — tags, and the variants that have one
* `Declaration.ReadableEnum` — enums of which everything can be read
* `Variant.ContentCall`, `EnumContent`, `EnumChain` — the builder calls of an enum
* `ExampleConflict` — the fault over an example of the whole enum

## Main statements

* `Variant.content?_readable` — the content of a variant
* `emitResponse_enum` — the calls of the response of an enum
* `response_enum` — **enums that are one response**

## Hypotheses

`ReadableEnum` asks that attributes, tags and types can be read.  It is what remains of all the ways
to fail when those are excluded that have nothing to do with enums, and the result says that then
one way is left.  It does not ask for names of fields, since every declaration that is extracted
from a source has them.

The keys of the attributes are given as a list with their places, `placed`.  There may be several
examples of the whole enum, in several attributes, and the conflict is placed at the last one.

Calls need schemas of what is known, as a header may be written out.  Without them the calls are
still described whenever they are there.
-/

namespace OpenResponse

open OpenResponse.Parser

/-! ### Tags

A tag is an attribute of the first field.  Its argument is one string, so it is related to the
tokens of its text. -/

/-- A field is tagged with a content type: its attribute is that string and nothing else. -/
def Field.TaggedWith (field : Field) (contentType : String) : Prop :=
  ∃ attr token, findAttribute field.attributes "content" = some attr ∧
    scan attr.location attr.arguments.toList = .ok [token] ∧ token.kind = .string ∧
    token.value = contentType

/-- Whether the first field of a variant is tagged. -/
def Variant.isTagged (variant : Variant) : Bool :=
  variant.fields.head?.any fun field => hasAttribute field.attributes "content"

/-- The tagged variants of a declaration, in their order.  These are the ones that get content of
their own. -/
def Declaration.tagged (declaration : Declaration) : List Variant :=
  declaration.variants.filter Variant.isTagged

/-- The attributes of a variant, the tag of its first field and its fields can be read. -/
structure Variant.IsReadable (variant : Variant) : Prop where
  attributes : Readable readDetails variant.attributes
  tag : ∀ field ∈ variant.fields.head?, hasAttribute field.attributes "content" = true →
    ∃ contentType, field.TaggedWith contentType
  fields : FieldsReadable variant.fields variant.isTuple

/-- An enum of which everything can be read.  It excludes the faults of reading, none of which is
about enums. -/
structure Declaration.ReadableEnum (declaration : Declaration) : Prop where
  isEnum : declaration.kind = .enum
  attributes : Readable readDetails declaration.attributes
  variants : ∀ variant ∈ declaration.variants, variant.IsReadable

/-- An enum of a source can be read if its attributes, its tags and its types can. -/
theorem Declaration.readableEnum_of_extracted {source : String} {declarations : List Declaration}
    (extracted : extractDeclarations source = .ok declarations) {declaration : Declaration}
    (listed : declaration ∈ declarations) (isEnum : declaration.kind = .enum)
    (attributes : Readable readDetails declaration.attributes)
    (variantAttributes : ∀ variant ∈ declaration.variants, Readable readDetails variant.attributes)
    (tags : ∀ variant ∈ declaration.variants, ∀ field ∈ variant.fields.head?,
      hasAttribute field.attributes "content" = true → ∃ contentType, field.TaggedWith contentType)
    (types : ∀ variant ∈ declaration.variants, ∀ field ∈ variant.fields,
      ∃ type, field.type = .ok type) :
    declaration.ReadableEnum where
  isEnum := isEnum
  attributes := attributes
  variants variant isVariant :=
    { attributes := variantAttributes variant isVariant
      tag := tags variant isVariant
      fields := ⟨types variant isVariant, fun notTuple field isField => by
        rw [(extractDeclarations_named extracted _ listed).variants variant isVariant field isField,
          notTuple]
        rfl⟩ }

private theorem readContentTag_eq_ok {origin : Location} {text contentType : String} :
    Parser.contentTag.runOn origin text = .ok contentType ↔
      ∃ token, scan origin text.toList = .ok [token] ∧ token.kind = .string ∧
        token.value = contentType := by
  have whole : Parser.contentTag.runOn origin text =
      ((·.value) <$> expectAs .string "string literal content type").runOnAll origin text := by
    rw [runOnAll, Parser.contentTag]
    simp only [map_eq_pure_bind, bind_assoc, pure_bind]
  have reads (n : Nat) : Reads n closing
      ((·.value) <$> expectAs .string "string literal content type") (Form.token .string) :=
    Reads.expectValue _ (by decide)
  rw [whole, Reads.runOnAll_iff reads rfl]
  constructor
  · rintro ⟨_, scanned, token, rfl, isString, isValue⟩
    exact ⟨token, scanned, isString, isValue⟩
  · rintro ⟨token, scanned, isString, isValue⟩
    exact ⟨_, scanned, token, rfl, isString, isValue⟩

namespace Field

variable {field : Field} {contentType : String}

private theorem contentTag_eq_some :
    field.contentTag = .ok (some contentType) ↔ field.TaggedWith contentType := by
  unfold contentTag TaggedWith
  cases findAttribute field.attributes "content" with
  | none =>
    constructor
    · rintro ⟨⟩
    · rintro ⟨_, _, ⟨⟩, _⟩
  | some attr =>
    constructor
    · intro read
      obtain ⟨_, tag, done⟩ := outcome_bind_eq_ok.mp read
      cases done
      obtain ⟨token, written⟩ := readContentTag_eq_ok.mp tag
      exact ⟨attr, token, rfl, written⟩
    · rintro ⟨_, token, ⟨⟩, written⟩
      exact outcome_bind_eq_ok.mpr ⟨_, readContentTag_eq_ok.mpr ⟨token, written⟩, rfl⟩

/-- A field without the attribute has no tag. -/
theorem contentTag_of_not (absent : hasAttribute field.attributes "content" = false) :
    field.contentTag = .ok none := by
  have nothing : findAttribute field.attributes "content" = none := by
    rw [findAttribute, List.find?_eq_none]
    exact List.any_eq_false.mp absent
  rw [contentTag, nothing]

end Field

/-! ### Content of variants

A variant has at most one content.  It is related to the variant by a relation, because reading its
parts may fail, and the relation holds where it does not. -/

/-- The content of a tagged variant: its first field under the tag, with the examples of the
variant. -/
inductive Variant.HasContent (variant : Variant) : ContentVariant → Prop
  | mk {field : Field} {contentType : String} {type : TypeRef} {said : Option Details}
      (first : variant.fields.head? = some field) (tag : field.TaggedWith contentType)
      (typed : field.type = .ok type) (merged : mergedDetails variant.attributes = .ok said) :
      HasContent variant ⟨contentType, .typed ⟨type, hasAttribute field.attributes "to_schema"⟩,
        (said.getD .empty).sample, (said.getD .empty).examples⟩

/-- The call for the content of a tagged variant: the schema of its first field under the tag, with
the examples of the variant. -/
inductive Variant.ContentCall (known : List Declaration) (variant : Variant) : Instruction → Prop
  | mk {field : Field} {contentType : String} {type : TypeRef} {schema : Document}
      {said : Option Details} (first : variant.fields.head? = some field)
      (tag : field.TaggedWith contentType) (typed : field.type = .ok type)
      (described : schemaOf known ⟨type, hasAttribute field.attributes "to_schema"⟩ = .ok schema)
      (merged : mergedDetails variant.attributes = .ok said) :
      ContentCall known variant (.call "content" [.string contentType,
        .chain (mediaCalls schema (said.getD .empty).sample (said.getD .empty).examples)])

namespace Variant

variable {variant : Variant} {content : ContentVariant} {known : List Declaration}

/-- The content of a variant that can be read: that of its first field, if it is tagged. -/
theorem content?_readable (readable : variant.IsReadable) :
    (variant.isTagged = false ∧ variant.content? = .ok none) ∨
      ∃ content, variant.isTagged = true ∧ variant.content? = .ok (some content) ∧
        variant.HasContent content := by
  obtain ⟨values, readAs⟩ := readable.attributes.exists_readAs
  have merged : mergedDetails variant.attributes = .ok (mergeAll Details.merge values) :=
    readAs.merged_eq
  -- what the attributes say does not matter from here on, only that they could be read
  generalize mergeAll Details.merge values = said at merged
  unfold content? isTagged
  rw [merged]
  cases first : variant.fields.head? with
  | none => exact .inl ⟨rfl, rfl⟩
  | some field =>
    cases tagged : hasAttribute field.attributes "content" with
    | false =>
      refine .inl ⟨tagged, ?_⟩
      show (field.contentTag >>= _) = _
      rw [Field.contentTag_of_not tagged]
      rfl
    | true =>
      obtain ⟨contentType, tag⟩ := readable.tag field first tagged
      obtain ⟨type, typed⟩ := readable.fields.types field (List.mem_of_head? first)
      refine .inr ⟨_, tagged, ?_, .mk first tag typed merged⟩
      show (field.contentTag >>= _) = _
      rw [Field.contentTag_eq_some.mpr tag]
      show (field.body >>= _) = _
      rw [Field.body, typed]
      cases said <;> rfl

/-- A variant has no more than one content. -/
theorem HasContent.unique {other : ContentVariant} (has : variant.HasContent content)
    (also : variant.HasContent other) : content = other := by
  obtain ⟨first, tag, typed, merged⟩ := has
  obtain ⟨first', tag', typed', merged'⟩ := also
  cases first.symm.trans first'
  cases (Field.contentTag_eq_some.mpr tag).symm.trans (Field.contentTag_eq_some.mpr tag')
  cases typed.symm.trans typed'
  cases merged.symm.trans merged'
  rfl

/-- The content of a variant can be emitted among declarations that have schemas. -/
theorem HasContent.exists_namedChain (has : variant.HasContent content)
    (schemas : ∀ other ∈ known, ∃ schema, declarationSchema other = .ok schema) :
    ∃ chain, content.namedChain known = .ok chain := by
  obtain ⟨-, -, -, -⟩ := has
  obtain ⟨schema, described⟩ := exists_schemaOf schemas ⟨_, _⟩
  exact ⟨_, map_eq_ok.mpr ⟨schema, described, rfl⟩⟩

/-- The call for a tagged variant is the call for its content. -/
theorem contentCall_iff (has : variant.HasContent content) {call : Instruction} :
    variant.ContentCall known call ↔
      ∃ chain, content.namedChain known = .ok chain ∧ namedCall "content" chain = call := by
  constructor
  · rintro ⟨first, tag, typed, described, merged⟩
    cases has.unique (.mk first tag typed merged)
    exact ⟨_, map_eq_ok.mpr ⟨_, described, rfl⟩, rfl⟩
  · rintro ⟨chain, named, rfl⟩
    obtain ⟨first, tag, typed, merged⟩ := has
    obtain ⟨schema, described, rfl⟩ := map_eq_ok.mp named
    exact .mk first tag typed described merged

end Variant

/-- The calls for tagged variants are the calls for their content. -/
theorem forall₂_contentCall_iff {known : List Declaration} {variants : List Variant}
    {content : List ContentVariant} (has : List.Forall₂ Variant.HasContent variants content)
    {calls : Chain} :
    List.Forall₂ (Variant.ContentCall known) variants calls ↔
      ∃ chains, content.mapM (ContentVariant.namedChain known) = .ok chains ∧
        chains.map (namedCall "content") = calls := by
  simp only [mapM_eq_ok]
  induction has generalizing calls with
  | nil =>
    simp only [List.forall₂_nil_left_iff]
    constructor
    · rintro rfl
      exact ⟨[], rfl, rfl⟩
    · rintro ⟨_, rfl, rfl⟩
      rfl
  | cons first _ ih =>
    simp only [List.forall₂_cons_left_iff]
    constructor
    · rintro ⟨call, others, isCall, areCalls, rfl⟩
      obtain ⟨chain, named, rfl⟩ := (Variant.contentCall_iff first).mp isCall
      obtain ⟨chains, allNamed, rfl⟩ := ih.mp areCalls
      exact ⟨chain :: chains, ⟨chain, chains, named, allNamed, rfl⟩, rfl⟩
    · rintro ⟨_, ⟨chain, chains, named, allNamed, rfl⟩, rfl⟩
      exact ⟨_, _, (Variant.contentCall_iff first).mpr ⟨chain, named, rfl⟩,
        ih.mpr ⟨chains, allNamed, rfl⟩, rfl⟩

namespace Declaration

variable {declaration : Declaration} {said : Option Details} {body : Option Body}
  {content : List ContentVariant}

/-- The content of the variants of an enum that can be read is that of the tagged ones. -/
theorem ReadableEnum.exists_content (readable : declaration.ReadableEnum) :
    ∃ contents, declaration.variants.mapM Variant.content? = .ok contents ∧
      List.Forall₂ Variant.HasContent declaration.tagged (contents.filterMap id) := by
  unfold tagged
  have variants := readable.variants
  generalize declaration.variants = list at variants
  induction list with
  | nil => exact ⟨[], rfl, .nil⟩
  | cons variant rest ih =>
    rw [List.forall_mem_cons] at variants
    obtain ⟨contents, done, each⟩ := ih variants.2
    -- a variant without a tag is left out of both lists
    rcases Variant.content?_readable variants.1 with ⟨plain, first⟩ | ⟨content, tagged, first, has⟩
    · refine ⟨none :: contents, ?_, ?_⟩
      · rw [List.mapM_cons, first, done]
        rfl
      · rw [List.filter_cons_of_neg (by simp [plain])]
        exact each
    · refine ⟨some content :: contents, ?_, ?_⟩
      · rw [List.mapM_cons, first, done]
        rfl
      · rw [List.filter_cons_of_pos tagged]
        exact .cons has each

/-- An enum that can be read is a response with its content, and with the whole enum as its body
unless several variants are tagged. -/
theorem ReadableEnum.exists_response_eq (readable : declaration.ReadableEnum) :
    ∃ content schema, List.Forall₂ Variant.HasContent declaration.tagged content ∧
      declarationSchema declaration = .ok schema ∧
      declaration.response = createResponse declaration
        (if content.length ≤ 1 then some (.schema schema declaration.type) else none) content := by
  obtain ⟨contents, done, each⟩ := readable.exists_content
  obtain ⟨schema, described⟩ := exists_enumSchema
    (fun variant listed => (readable.variants variant listed).fields) declaration.docs
  have isSchema : declarationSchema declaration = .ok schema := by
    rw [declarationSchema, readable.isEnum, described]
  have shaped : declaration.shape = .ok (.enum declaration.type declaration.variants) := by
    rw [shape, readable.isEnum]
  refine ⟨contents.filterMap id, schema, each, isSchema, ?_⟩
  rw [response, shaped]
  show (declaration.variants.mapM Variant.content? >>= _) = _
  rw [done]
  show (if _ then _ else _) = _
  rw [isSchema]
  split <;> rfl

/-- A response is made of what attributes say, unless there is an example beside content. -/
theorem createResponse_eq (merged : mergedDetails declaration.attributes = .ok said) :
    createResponse declaration body content =
      match content.isEmpty, (said.getD .empty).enumExample? with
      | false, some (key, location) => .error ⟨.enumLevelExample key, location⟩
      | _, _ => .ok ⟨none, .value
          ((said.getD .empty).responseValue declaration.description body content)⟩ := by
  rw [createResponse, merged]
  show (if _ then _ else _) = _
  cases content.isEmpty with
  | true => rfl
  | false => cases (said.getD .empty).enumExample? <;> rfl

end Declaration

/-! ### Conflicts

The conflict hints at the key that it is about.  Where both keys for examples were given, it is
about the single example. -/

/-- The key of an example of the whole enum that is complained about: `example` even if there are
`examples` too. -/
def Details.exampleWord (details : Details) : String :=
  if details.sample.isSome then "example" else "examples"

/-- The fault over an example of the whole enum.  It hints at the key of the example and is placed
where that key stands last. -/
structure ExampleConflict (merged : Details) (placed : List (Location × ValueSetting))
    (fault : Fault) : Prop where
  kind : fault.kind = .conflict
  hint : fault.cause.hint? =
    some ("Try defining `" ++ merged.exampleWord ++ "` on the enum variant")
  location : ∃ here, lastPlace placed merged.exampleWord = some here ∧ fault.location = some here

section Conflicts

variable {attributes : List Attribute} {said : Option Details}
  {placed : List (Location × ValueSetting)}

private theorem enumExample?_isSome (details : Details) :
    details.enumExample?.isSome = true ↔
      details.sample.isSome = true ∨ details.examples.isSome = true := by
  unfold Details.enumExample?
  cases details.sample <;> cases details.examples <;> simp

/-- An example of the whole enum is complained about at its key. -/
theorem ExampleConflict.of_enumExample? (merged : mergedDetails attributes = .ok said)
    (sets : AttributesSet attributes placed) {key : ExampleKey} {location : Option Location}
    (given : (said.getD .empty).enumExample? = some (key, location)) :
    ExampleConflict (said.getD .empty) placed ⟨.enumLevelExample key, location⟩ := by
  cases single : (said.getD .empty).sample with
  | some value =>
    have word : (said.getD .empty).exampleWord = "example" := by
      simp [Details.exampleWord, single]
    simp [Details.enumExample?, single] at given
    obtain ⟨rfl, rfl⟩ := given
    refine ⟨rfl, by rw [word]; rfl, ?_⟩
    rw [word]
    exact sampleAt_merged merged sets single
  | none =>
    have word : (said.getD .empty).exampleWord = "examples" := by
      simp [Details.exampleWord, single]
    cases several : (said.getD .empty).examples with
    | none => simp [Details.enumExample?, single, several] at given
    | some entries =>
      simp [Details.enumExample?, single, several] at given
      obtain ⟨rfl, rfl⟩ := given
      refine ⟨rfl, by rw [word]; rfl, ?_⟩
      rw [word]
      exact examplesAt_merged merged sets several

end Conflicts

/-! ### The calls of an enum

The calls are given by relations with two cases, content of tagged variants or of the whole enum.
Without tags the list of contents is empty and the body takes its place. -/

/-- A header can be emitted among declarations that have schemas. -/
theorem Header.exists_namedChain (header : Header) {known : List Declaration}
    (schemas : ∀ other ∈ known, ∃ schema, declarationSchema other = .ok schema) :
    ∃ chain, header.namedChain known = .ok chain := by
  have described : ∃ schema, header.schemaDocument known = .ok schema := by
    unfold schemaDocument
    cases header.type with
    | none => exact ⟨_, rfl⟩
    | some type => exact exists_schemaOf schemas type
  obtain ⟨schema, isSchema⟩ := described
  exact ⟨_, map_eq_ok.mpr ⟨schema, isSchema, rfl⟩⟩

section Calls

variable (known : List Declaration) (declaration : Declaration) (merged : Details)

/-- The calls for the content of an enum: those of the tagged variants, one for each and in their
order, or else the whole enum, once for each of its content types or for the one that its type
suggests. -/
inductive EnumContent : Chain → Prop
  | tagged {calls : Chain} (some : declaration.tagged ≠ [])
      (each : List.Forall₂ (Variant.ContentCall known) declaration.tagged calls) :
      EnumContent calls
  | whole {schema : Document} (none : declaration.tagged = [])
      (described : declarationSchema declaration = .ok schema) :
      EnumContent ((merged.contentTypes.getD [defaultContentType declaration.type]).map
        fun contentType => .call "content" [.string contentType,
          .chain (mediaCalls schema merged.sample merged.examples)])

/-- The calls of an enum: its description, its content and its headers. -/
inductive EnumChain : Chain → Prop
  | mk {calls : Chain} {headers : List (String × Chain)}
      (content : EnumContent known declaration merged calls)
      (named : merged.headers.mapM (Header.namedChain known) = .ok headers) :
      EnumChain ([.new, .call "description" [.string (if merged.description.isEmpty then
        declaration.description else merged.description)]] ++ calls ++
          headers.map (namedCall "header") ++ [.build])

/-- What is emitted for the response of an enum. -/
structure EmitsEnum (response : Response) : Prop where
  /-- The calls are those of the enum. -/
  chain_iff : ∀ chain,
    emitResponse known response = .ok chain ↔ EnumChain known declaration merged chain
  /-- No other calls among them add content. -/
  content : ∀ chain, emitResponse known response = .ok chain →
    EnumContent known declaration merged (chain.filter (·.method == "content"))
  /-- They are there if the declarations that are known have schemas. -/
  emits : (∀ other ∈ known, ∃ schema, declarationSchema other = .ok schema) →
    ∃ chain, emitResponse known response = .ok chain

variable {known declaration merged}

private theorem EnumContent.method {calls : Chain}
    (isContent : EnumContent known declaration merged calls) :
    ∀ call ∈ calls, call.method = "content" := by
  cases isContent with
  | tagged _ each =>
    intro call listed
    obtain ⟨variant, -, isCall⟩ := (mem_of_forall₂ each).2 call listed
    cases isCall
    rfl
  | whole => simp [Instruction.method]

/-- The calls for content are those that the content of an enum consists of. -/
theorem EnumChain.contentCalls {chain : Chain}
    (isChain : EnumChain known declaration merged chain) :
    EnumContent known declaration merged (chain.filter (·.method == "content")) := by
  obtain ⟨isContent, -⟩ := isChain
  rw [filter_content isContent.method]
  exact isContent

section Content

variable {content : List ContentVariant} {schema : Document} {description : String}

/-- The response of an enum: its content, with the whole enum as the body unless several variants
are tagged. -/
def enumValue (declaration : Declaration) (merged : Details) (schema : Document)
    (content : List ContentVariant) : ResponseValue :=
  merged.responseValue declaration.description
    (if content.length ≤ 1 then some (.schema schema declaration.type) else none) content

/-- The content of an enum is that of the tagged variants if there are any.  The body of the enum,
which is there for a single tagged variant, does not count then. -/
theorem enumContent_iff (has : List.Forall₂ Variant.HasContent declaration.tagged content)
    (described : declarationSchema declaration = .ok schema) {calls : Chain} :
    EnumContent known declaration merged calls ↔
      ∃ chains, (enumValue declaration merged schema content).contentChains known = .ok chains ∧
        chains.map (namedCall "content") = calls := by
  cases content with
  | nil =>
    -- without content the body is there, as no more than one variant is tagged
    have untagged := List.forall₂_nil_right_iff.mp has
    have chains : (enumValue declaration merged schema []).contentChains known =
        .ok ((merged.contentTypes.getD [defaultContentType declaration.type]).map
          fun contentType => (contentType, mediaCalls schema merged.sample merged.examples)) := rfl
    rw [chains]
    constructor
    · rintro (⟨tagged, -⟩ | ⟨-, isSchema⟩)
      · exact absurd untagged tagged
      · cases described.symm.trans isSchema
        refine ⟨_, rfl, ?_⟩
        rw [List.map_map]
        rfl
    · rintro ⟨_, ⟨⟩, rfl⟩
      rw [List.map_map]
      exact .whole untagged described
  | cons first rest =>
    have tagged : declaration.tagged ≠ [] := by
      intro untagged
      rw [untagged] at has
      cases has
    have chains : (enumValue declaration merged schema (first :: rest)).contentChains known =
        (first :: rest).mapM (ContentVariant.namedChain known) := rfl
    rw [chains, ← forall₂_contentCall_iff has]
    constructor
    · rintro (⟨-, each⟩ | ⟨untagged, -⟩)
      · exact each
      · exact absurd untagged tagged
    · exact .tagged tagged

/-- **The calls of an enum** whose response can be made.  The schema of the whole enum is in it only
if no variant is tagged. -/
theorem emitResponse_enum (has : List.Forall₂ Variant.HasContent declaration.tagged content)
    (described : declarationSchema declaration = .ok schema) :
    EmitsEnum known declaration merged (.value (enumValue declaration merged schema content)) := by
  have chain_iff : ∀ chain,
      emitResponse known (.value (enumValue declaration merged schema content)) = .ok chain ↔
        EnumChain known declaration merged chain := by
    intro chain
    rw [emitResponse, emitValue_eq]
    constructor
    · intro done
      obtain ⟨chains, isContent, done⟩ := outcome_bind_eq_ok.mp done
      obtain ⟨headers, named, done⟩ := outcome_bind_eq_ok.mp done
      cases done
      exact .mk ((enumContent_iff has described).mpr ⟨chains, isContent, rfl⟩) named
    · rintro ⟨isContent, named⟩
      obtain ⟨chains, made, rfl⟩ := (enumContent_iff has described).mp isContent
      refine outcome_bind_eq_ok.mpr ⟨chains, made, outcome_bind_eq_ok.mpr ⟨_, named, rfl⟩⟩
  refine ⟨chain_iff, fun chain done => ((chain_iff chain).mp done).contentCalls, ?_⟩
  -- where all schemas can be made, every content and every header has its chain
  intro schemas
  obtain ⟨chains, made⟩ : ∃ chains,
      (enumValue declaration merged schema content).contentChains known = .ok chains := by
    cases content with
    | nil => exact ⟨_, rfl⟩
    | cons first rest =>
      refine exists_mapM_eq_ok.mpr fun inner listed => ?_
      obtain ⟨variant, -, isContent⟩ := (mem_of_forall₂ has).2 inner listed
      exact isContent.exists_namedChain schemas
  obtain ⟨headers, named⟩ : ∃ headers,
      (enumValue declaration merged schema content).headers.mapM (Header.namedChain known) =
        .ok headers :=
    exists_mapM_eq_ok.mpr fun header _ => header.exists_namedChain schemas
  exact ⟨_, (chain_iff _).mpr (.mk ((enumContent_iff has described).mpr ⟨chains, made, rfl⟩) named)⟩

end Content

end Calls

/-! ### Enums

An example of the whole enum is looked for after all variants have been read. -/

/-- An example of the whole enum stands beside tagged variants. -/
def ExampleBesideTags (declaration : Declaration) (merged : Details) : Prop :=
  declaration.tagged ≠ [] ∧ (merged.sample.isSome = true ∨ merged.examples.isSome = true)

/-- An enum is one response with the content of its tagged variants, or with the whole enum for its
content if there are none. -/
structure EnumResponse (declaration : Declaration) (merged : Details)
    (placed : List (Location × ValueSetting)) : Prop where
  /-- An example of the whole enum conflicts with tagged variants. -/
  conflict_iff : (∃ fault, declaration.response = .error fault ∧ fault.kind = .conflict) ↔
    ExampleBesideTags declaration merged
  /-- Nothing else is wrong. -/
  conflict : ∀ fault, declaration.response = .error fault → ExampleConflict merged placed fault
  /-- Without a conflict there is a response. -/
  emitted : ¬ ExampleBesideTags declaration merged →
    ∃ descriptor, declaration.response = .ok descriptor ∧
      ∀ known, EmitsEnum known declaration merged descriptor.response

/-- **Enums that are one response.**  If everything can be read, the only fault is an example of the
whole enum beside tagged variants.  Otherwise the calls of the response have one content for each
tagged variant, in their order, with the type of its first field and with the examples of the
variant; only if no variant is tagged, the whole enum is the content, with its own examples. -/
theorem response_enum {declaration : Declaration} (readable : declaration.ReadableEnum) :
    ∃ said, mergedDetails declaration.attributes = .ok said ∧
      (∃ placed, AttributesSet declaration.attributes placed) ∧
      ∀ placed, AttributesSet declaration.attributes placed →
        EnumResponse declaration (said.getD .empty) placed := by
  obtain ⟨values, readAs⟩ := readable.attributes.exists_readAs
  have merged : mergedDetails declaration.attributes = .ok (mergeAll Details.merge values) :=
    readAs.merged_eq
  generalize mergeAll Details.merge values = said at merged
  refine ⟨said, merged, readable.attributes.exists_sets, fun placed sets => ?_⟩
  obtain ⟨content, schema, has, described, response⟩ := readable.exists_response_eq
  rw [Declaration.createResponse_eq merged] at response
  have tagged_iff : declaration.tagged ≠ [] ↔ content.isEmpty = false := by
    rw [← List.length_pos_iff, has.length_eq, List.length_pos_iff, List.isEmpty_eq_false_iff]
  have beside_iff : ExampleBesideTags declaration (said.getD .empty) ↔
      content.isEmpty = false ∧ (said.getD .empty).enumExample?.isSome = true := by
    rw [ExampleBesideTags, tagged_iff, enumExample?_isSome]
  -- the response is a fault exactly if an example stands beside tags
  by_cases beside : ExampleBesideTags declaration (said.getD .empty)
  · obtain ⟨notEmpty, isExample⟩ := beside_iff.mp beside
    obtain ⟨⟨key, location⟩, given⟩ := Option.isSome_iff_exists.mp isExample
    rw [notEmpty, given] at response
    have conflict := ExampleConflict.of_enumExample? merged sets given
    refine ⟨⟨fun _ => beside, fun _ => ⟨_, response, conflict.kind⟩⟩, ?_, absurd beside⟩
    intro fault failed
    cases response.symm.trans failed
    exact conflict
  · have answered : declaration.response =
        .ok ⟨none, .value (enumValue declaration (said.getD .empty) schema content)⟩ := by
      rw [response]
      split
      next notEmpty given =>
        exact absurd (beside_iff.mpr ⟨notEmpty, by rw [given]; rfl⟩) beside
      next => rfl
    have nothing (fault : Fault) : declaration.response ≠ .error fault := by
      rw [answered]
      nofun
    refine ⟨⟨?_, fun conflicts => absurd conflicts beside⟩, ?_, fun _ => ⟨_, answered, ?_⟩⟩
    · rintro ⟨fault, failed, -⟩
      exact absurd failed (nothing fault)
    · intro fault failed
      exact absurd failed (nothing fault)
    · exact fun known => emitResponse_enum has described

/-- An enum with a tagged variant, and with examples of the whole in two of its attributes. -/
def replySource : String :=
  "#[response(examples(), example = 1)]\n#[response(example = 2)]\nenum Reply \x7b\n" ++
  "    #[response(example = \"a,b\")]\n    Table(#[content(\"text/csv\")] String),\n" ++
  "    Gone,\n\x7d\n"

/-- The declaration in `replySource`. -/
def replyEnum : Declaration where
  name := "Reply"
  kind := .enum
  fields := []
  isTuple := false
  variants := [
    ⟨"Table", [⟨none, "String", ⟨5, 34⟩, [⟨"content", "\"text/csv\"", none, ⟨5, 21⟩⟩], []⟩], true,
      [⟨"response", "example = \"a,b\"", none, ⟨4, 16⟩⟩], [], ⟨5, 5⟩⟩,
    ⟨"Gone", [], false, [], [], ⟨6, 5⟩⟩]
  attributes := [⟨"response", "examples(), example = 1", none, ⟨1, 12⟩⟩,
    ⟨"response", "example = 2", none, ⟨2, 12⟩⟩]
  docs := []
  derives := []
  location := ⟨3, 6⟩

/-- An example of the whole enum in `replySource` conflicts with its tagged variant. -/
theorem response_enum_reply :
    extractDeclarations replySource = .ok [replyEnum] ∧ replyEnum.ReadableEnum ∧
      ∃ merged placed fault, AttributesSet replyEnum.attributes placed ∧
        replyEnum.response = .error fault ∧ ExampleConflict merged placed fault := by
  have extracted : extractDeclarations replySource = .ok [replyEnum] := by decide +kernel
  have readable : replyEnum.ReadableEnum := by
    have attributes : ∀ attr ∈ replyEnum.attributes ++ replyEnum.variants.flatMap (·.attributes),
        (readDetails attr.location attr.arguments).isOk = true := by decide +kernel
    have types : ∀ variant ∈ replyEnum.variants, ∀ field ∈ variant.fields,
        field.type.isOk = true := by decide +kernel
    have tags : ∀ variant ∈ replyEnum.variants, ∀ field ∈ variant.fields.head?,
        field.contentTag = .ok (some "text/csv") := by decide +kernel
    have listed : replyEnum ∈ [replyEnum] := List.mem_singleton_self _
    refine Declaration.readableEnum_of_extracted extracted listed rfl ?_ ?_ ?_ ?_
    · exact fun attr listed _ => exists_of_isOk (attributes attr (List.mem_append_left _ listed))
    · intro variant isVariant attr listed _
      exact exists_of_isOk (attributes attr
        (List.mem_append_right _ (List.mem_flatMap.mpr ⟨variant, isVariant, listed⟩)))
    · intro variant isVariant field first _
      exact ⟨_, Field.contentTag_eq_some.mp (tags variant isVariant field first)⟩
    · exact fun variant isVariant field listed =>
        exists_of_isOk (types variant isVariant field listed)
  obtain ⟨said, isMerged, ⟨placed, sets⟩, holds⟩ := response_enum readable
  have sample : (fun said : Option Details => (said.getD .empty).sample.isSome) <$>
      mergedDetails replyEnum.attributes = .ok true := by decide +kernel
  rw [isMerged] at sample
  have beside : ExampleBesideTags replyEnum (said.getD .empty) :=
    ⟨by decide, .inl (Except.ok.inj sample)⟩
  obtain ⟨fault, failed, -⟩ := (holds placed sets).conflict_iff.mpr beside
  refine ⟨extracted, readable, said.getD .empty, placed, fault, sets, failed, ?_⟩
  exact (holds placed sets).conflict fault failed

end OpenResponse
