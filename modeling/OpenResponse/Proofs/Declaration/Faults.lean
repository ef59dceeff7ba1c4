import OpenResponse.Declaration.Response
import OpenResponse.Proofs.Builder.Meaning
import OpenResponse.Proofs.Response.Relocation
import OpenResponse.Proofs.Schema.Faults
import OpenResponse.Proofs.Token.Origin

/-!
# The faults of declarations

Turning a declaration into responses, and responses into builder calls, can fail only over what is
written: over the text of a type or of an attribute, or over the shape of the declaration.  Nothing
is looked up, so no fault says that something is missing or goes round in a circle.

One cause is kept apart, that of a field without a name.  It arises in schemas alone, so what is
shown here holds with it and without it, as long as it does for the schemas.

The property that an outcome fails with no other than given causes passes through sequences, lists
and choices, so it is proved of each function by following it.  At the bottom stand the readers,
which fail over their text, and the few places at which a shape is refused.

## Main definitions

* `Cause.isOfDeclaration` — the causes that the text of a declaration can have
* `FailsWithin` — outcomes that fail with no other than the given causes
* `CoversDeclarations` — causes that are those of declarations, but perhaps for nameless fields
* `Declaration.SchemasWithin`, `DescribedWithin` — declarations whose schemas fail within causes

## Main statements

* `FailsWithin.response`, `FailsWithin.responses` — turning a declaration into responses
* `FailsWithin.emitResponse`, `FailsWithin.emitResponses` — turning responses into builder calls

## Hypotheses

`allowed` is any set of causes that covers those of declarations.  It is a parameter so that one
pass over the functions serves twice: for declarations in general, where a field without a name is
an allowed cause, and for those that were extracted from a source, where it is not unless a tuple
struct with several fields is among them.

What is asked of schemas is asked of those that the functions make: the schema of the declaration
itself, those of variants with named fields, and those of the declarations that names are looked up
in.
-/

namespace OpenResponse

/-- Whether a cause lies in the text or in the shape of a declaration. -/
def Cause.isOfDeclaration : Cause → Bool
  | .unionShape | .emptyTupleShape | .wideTupleShape | .namelessField | .enumLevelExample _
  | .statusAttributeMissing => true
  | cause => cause.isLocated || cause.isRange

/-- An outcome that fails, if it does, with one of the allowed causes. -/
def FailsWithin {α : Type} (allowed : Cause → Bool) (outcome : Except Fault α) : Prop :=
  ∀ fault, outcome = .error fault → allowed fault.cause = true

namespace FailsWithin

variable {α β : Type} {allowed : Cause → Bool}

/-- A value is no failure. -/
theorem ok {value : α} : FailsWithin allowed (.ok value) := fun _ failed => by cases failed

/-- A fault with an allowed cause. -/
theorem error {fault : Fault} (cause : allowed fault.cause = true) :
    FailsWithin allowed (.error fault : Except Fault α) :=
  fun _ failed => Except.error.inj failed ▸ cause

/-- An outcome that fails with fewer causes. -/
theorem mono {more : Cause → Bool} {outcome : Except Fault α} (within : FailsWithin allowed outcome)
    (weaker : ∀ cause, allowed cause = true → more cause = true) : FailsWithin more outcome :=
  fun fault failed => weaker _ (within fault failed)

/-- A sequence of two steps, the second of which is taken with a value of the first. -/
theorem bind_of_ok {first : Except Fault α} {second : α → Except Fault β}
    (firstWithin : FailsWithin allowed first)
    (secondWithin : ∀ value, first = .ok value → FailsWithin allowed (second value)) :
    FailsWithin allowed (first >>= second) := by
  intro fault failed
  cases first with
  | error other =>
    cases failed
    exact firstWithin fault rfl
  | ok value => exact secondWithin value rfl fault failed

/-- A sequence fails as its steps do. -/
theorem bind {first : Except Fault α} {second : α → Except Fault β}
    (firstWithin : FailsWithin allowed first)
    (secondWithin : ∀ value, FailsWithin allowed (second value)) :
    FailsWithin allowed (first >>= second) :=
  firstWithin.bind_of_ok fun value _ => secondWithin value

/-- What is made of a value fails as the value does. -/
theorem map {outcome : Except Fault α} {change : α → β} (within : FailsWithin allowed outcome) :
    FailsWithin allowed (change <$> outcome) :=
  fun fault failed => within fault (map_eq_error.mp failed)

/-- So does a list of steps. -/
theorem mapM {step : α → Except Fault β} {inputs : List α}
    (within : ∀ input ∈ inputs, FailsWithin allowed (step input)) :
    FailsWithin allowed (inputs.mapM step) := by
  intro fault failed
  obtain ⟨input, listed, isFault⟩ := exists_of_mapM_eq_error failed
  exact within input listed fault isFault

/-- So do steps that are taken one after the other from a state. -/
theorem foldlM {step : β → α → Except Fault β}
    (within : ∀ state input, FailsWithin allowed (step state input)) (inputs : List α)
    (state : β) : FailsWithin allowed (inputs.foldlM step state) := by
  induction inputs generalizing state with
  | nil => exact ok
  | cons input rest ih =>
    rw [List.foldlM_cons]
    exact (within state input).bind ih

/-- So does a choice between two outcomes. -/
theorem ite {condition : Prop} [Decidable condition] {yes no : Except Fault α}
    (yesWithin : FailsWithin allowed yes) (noWithin : FailsWithin allowed no) :
    FailsWithin allowed (if condition then yes else no) := by
  split
  · exact yesWithin
  · exact noWithin

end FailsWithin

/-- Causes among which are all that the text of a declaration can have, but perhaps for that of a
field without a name. -/
def CoversDeclarations (allowed : Cause → Bool) : Prop :=
  ∀ cause, cause.isOfDeclaration = true → cause ≠ .namelessField → allowed cause = true

/-- A declaration of which every schema that its responses need fails within the allowed causes.  A
tuple struct with several fields needs none. -/
structure Declaration.SchemasWithin (allowed : Cause → Bool) (declaration : Declaration) :
    Prop where
  whole : ¬ declaration.IsWideTuple → FailsWithin allowed (declarationSchema declaration)
  variants : ∀ variant ∈ declaration.variants, variant.isTuple = false →
    FailsWithin allowed (recordSchema variant.fields variant.docs)

/-- Declarations that can be written out within the allowed causes.  It is asked of every
declaration that can be found, since it is not known which of them a type will lead to. -/
def DescribedWithin (allowed : Cause → Bool) (known : List Declaration) : Prop :=
  ∀ name declaration, findDeclaration known name = some declaration →
    FailsWithin allowed (declarationSchema declaration)

/-- A tuple struct with several fields has no shape. -/
theorem Declaration.not_isWideTuple_of_shape {declaration : Declaration} {shape : Shape}
    (given : declaration.shape = .ok shape) : ¬ declaration.IsWideTuple := by
  rintro ⟨isStruct, isTuple, several⟩
  match fields : declaration.fields with
  | [] | [_] =>
    rw [fields] at several
    simp at several
  | _ :: _ :: _ => simp [Declaration.shape, isStruct, isTuple, fields] at given

/-- The shape of an enum holds its variants. -/
theorem Declaration.variants_of_shape {declaration : Declaration} {type : TypeRef}
    {variants : List Variant} (given : declaration.shape = .ok (.enum type variants)) :
    variants = declaration.variants := by
  unfold Declaration.shape at given
  split at given
  next => cases given
  next =>
    cases given
    rfl
  next =>
    split at given
    next =>
      split at given
      next => cases given
      next =>
        obtain ⟨_, -, same⟩ := outcome_bind_eq_ok.mp given
        cases same
      next => cases given
    next =>
      split at given
      next => cases given
      next => cases given

namespace FailsWithin

variable {α β : Type} {allowed : Cause → Bool}

section Texts

variable (covers : CoversDeclarations allowed)

include covers

/-- Reading a text fails over the text. -/
theorem runOn {V : α → α → Prop} {parser : Parser α} (origin : Location) (text : String)
    (respects : parser.Respects (fun _ _ => True) V parser) :
    FailsWithin allowed (parser.runOn origin text) := by
  intro fault failed
  have found := Parser.cause_of_runOn respects failed
  refine covers _ ?_ fun nameless => ?_
  · unfold Cause.isOfDeclaration
    split <;> first | rfl | simpa using found
  · rw [nameless] at found
    rcases found with located | range
    · cases located
    · cases range

theorem fieldType (field : Field) : FailsWithin allowed field.type :=
  runOn covers _ _ (Parser.Respects.typeRef.bindEq fun _ =>
    Parser.Respects.expectEnd.bindEq fun _ => Parser.Respects.pure rfl)

end Texts

/-! ### Emission

Turning a response into calls needs schemas of types and nothing else that could fail. -/

section Emission

variable {known : List Declaration} (described : DescribedWithin allowed known)

include described

private theorem schemaOf (type : InlineType) : FailsWithin allowed (schemaOf known type) := by
  intro fault failed
  obtain ⟨-, name, declaration, -, found, failed⟩ := schemaOf_eq_error.mp failed
  exact described name declaration found fault failed

private theorem schemaDocument (body : Body) : FailsWithin allowed (body.schemaDocument known) := by
  cases body with
  | reference target => exact ok
  | typed type => exact schemaOf described type
  | schema document type => exact ok

private theorem headerChain (header : Header) : FailsWithin allowed (header.namedChain known) := by
  refine map ?_
  unfold Header.schemaDocument
  split
  · exact schemaOf described _
  · exact ok

private theorem contentChains (value : ResponseValue) :
    FailsWithin allowed (value.contentChains known) := by
  unfold ResponseValue.contentChains
  split
  · exact ok
  · exact (schemaDocument described _).map
  · exact mapM fun variant _ => (schemaDocument described _).map

private theorem emitValue (value : ResponseValue) :
    FailsWithin allowed (emitValue known value) := by
  rw [emitValue_eq]
  refine (contentChains described value).bind fun _ => ?_
  exact (mapM fun header _ => headerChain described header).bind fun _ => ok

/-- Nothing is emitted with another fault than that of a schema. -/
theorem emitResponse (response : Response) :
    FailsWithin allowed (emitResponse known response) := by
  unfold OpenResponse.emitResponse
  split
  · exact ok
  · exact ok
  · exact emitValue described _

/-- Every entry is emitted by itself, so lists bring no faults of their own. -/
theorem emitResponses (entries : List ResponseEntry) :
    FailsWithin allowed (emitResponses known entries) := by
  refine (mapM fun entry _ => ?_).bind fun _ => ok
  cases entry with
  | allOf path => exact ok
  | single descriptor => exact (emitResponse described _).bind fun _ => ok

end Emission

/-! ### Declarations

Attributes, fields, shapes and statuses, in the order in which a declaration is taken apart. -/

private theorem foldAttributes {read : Location → String → Except Fault α} {merge : α → α → α}
    (within : ∀ location text, FailsWithin allowed (read location text))
    (attributes : List Attribute) : FailsWithin allowed (foldAttributes read merge attributes) := by
  refine (mapM fun attr _ => within _ _).bind fun values => ?_
  cases values with
  | nil => exact ok
  | cons first rest => exact ok

section Declarations

variable (covers : CoversDeclarations allowed)

include covers

private theorem faultOfDeclaration
    {fault : Fault} (ofDeclaration : fault.cause.isOfDeclaration = true)
    (notNameless : fault.cause ≠ .namelessField) :
    FailsWithin allowed (.error fault : Except Fault α) :=
  error (covers _ ofDeclaration notNameless)

private theorem mergedDetails (attributes : List Attribute) :
    FailsWithin allowed (mergedDetails attributes) :=
  foldAttributes (fun _ _ => runOn covers _ _ Parser.Respects.details) attributes

private theorem mergedStatusDetails (attributes : List Attribute) :
    FailsWithin allowed (mergedStatusDetails attributes) :=
  foldAttributes (fun _ _ => runOn covers _ _ Parser.Respects.statusDetails) attributes

private theorem fieldBody (field : Field) : FailsWithin allowed field.body :=
  (fieldType covers field).bind fun _ => ok

private theorem contentTag (field : Field) : FailsWithin allowed field.contentTag := by
  unfold Field.contentTag
  split
  · exact ok
  · refine (runOn (V := Eq) covers _ _ ?_).bind fun _ => ok
    refine (Parser.Respects.expectAs _ _).bind fun token token' same => ?_
    rw [same.value]
    exact Parser.Respects.expectEnd.bindEq fun _ => Parser.Respects.pure rfl

private theorem variantContent (variant : Variant) : FailsWithin allowed variant.content? := by
  refine (mergedDetails covers _).bind fun details => ?_
  split
  · exact ok
  · refine (contentTag covers _).bind fun tag => ?_
    split
    · exact ok
    · exact (fieldBody covers _).bind fun _ => ok

private theorem createResponse (declaration : Declaration) (body : Option Body)
    (content : List ContentVariant) :
    FailsWithin allowed (createResponse declaration body content) := by
  refine (mergedDetails covers _).bind fun details => ?_
  dsimp only
  refine ite ?_ ok
  split
  · exact bind (faultOfDeclaration covers rfl nofun) fun _ => ok
  · exact ok

private theorem shape (declaration : Declaration) : FailsWithin allowed declaration.shape := by
  unfold Declaration.shape
  split
  · exact faultOfDeclaration covers rfl nofun
  · exact ok
  · refine ite ?_ (ite ok ok)
    split
    · exact faultOfDeclaration covers rfl nofun
    · exact (fieldType covers _).bind fun _ => ok
    · exact faultOfDeclaration covers rfl nofun

private theorem responseBody (field : Field) : FailsWithin allowed field.responseBody :=
  ite ((fieldType covers _).bind fun _ => ok)
    (ite ((fieldType covers _).bind fun _ => ok) ((fieldBody covers _).bind fun _ => ok))

private theorem statusResponse (value : StatusDetails) (description : String)
    (contents : Option (InlineType ⊕ Body)) (location : Location) :
    FailsWithin allowed (statusResponse value description contents location) := by
  unfold OpenResponse.statusResponse
  split
  · exact ite (faultOfDeclaration covers rfl nofun) ok
  · exact ok
  · exact ok

private theorem requiredStatus (attributes : List Attribute) (location : Location) :
    FailsWithin allowed (requiredStatus attributes location) := by
  refine (mergedStatusDetails covers _).bind fun merged => ?_
  split
  · exact ok
  · exact faultOfDeclaration covers rfl nofun

private theorem variantResponse (type : TypeRef) {variant : Variant}
    (record : variant.isTuple = false →
      FailsWithin allowed (recordSchema variant.fields variant.docs)) :
    FailsWithin allowed (variant.response type) := by
  refine (requiredStatus covers _ _).bind fun _ => ?_
  dsimp only
  split
  · exact ok.bind fun _ => statusResponse covers _ _ _ _
  · exact (responseBody covers _).map.bind fun _ => statusResponse covers _ _ _ _
  · exact bind (faultOfDeclaration covers rfl nofun) fun _ => statusResponse covers _ _ _ _
  next notTuple _ =>
    exact (record notTuple).bind fun _ => ok.bind fun _ => statusResponse covers _ _ _ _

variable {declaration : Declaration} (schemas : declaration.SchemasWithin allowed)

include schemas

/-- Turning a declaration into a response fails over its text or its shape. -/
theorem response : FailsWithin allowed declaration.response := by
  refine (shape covers declaration).bind_of_ok fun shape given => ?_
  have whole := schemas.whole (Declaration.not_isWideTuple_of_shape given)
  cases shape with
  | newtype type attributes => exact createResponse covers _ _ _
  | record type fields => exact whole.bind fun _ => createResponse covers _ _ _
  | unit => exact createResponse covers _ _ _
  | «enum» type variants =>
    refine (mapM fun variant _ => variantContent covers variant).bind fun content => ?_
    exact ite (whole.bind fun _ => createResponse covers _ _ _) (createResponse covers _ _ _)

/-- Turning a declaration into the responses that it lists fails over its text or its shape. -/
theorem responses : FailsWithin allowed declaration.responses := by
  refine (shape covers declaration).bind_of_ok fun shape given => ?_
  have whole := schemas.whole (Declaration.not_isWideTuple_of_shape given)
  cases shape with
  | «enum» type variants =>
    rw [Declaration.variants_of_shape given]
    exact mapM fun variant listed => variantResponse covers _ (schemas.variants variant listed)
  | newtype type attributes =>
    refine (requiredStatus covers _ _).bind fun _ => bind ?_ fun _ =>
      (statusResponse covers _ _ _ _).bind fun _ => ok
    cases declaration.fields.head? with
    | none => exact ok
    | some field => exact (responseBody covers field).map
  | record type fields =>
    exact (requiredStatus covers _ _).bind fun _ => whole.bind fun _ =>
      (statusResponse covers _ _ _ _).bind fun _ => ok
  | unit =>
    exact (requiredStatus covers _ _).bind fun _ =>
      (statusResponse covers _ _ _ _).bind fun _ => ok

end Declarations

end FailsWithin

/-! ### Any declarations

With the cause of a nameless field among those allowed, all schemas are covered. -/

/-- An outcome that fails, if it does, over the text or the shape of a declaration. -/
abbrev Plain {α : Type} (outcome : Except Fault α) : Prop :=
  FailsWithin Cause.isOfDeclaration outcome

namespace Plain

open FailsWithin

private theorem covers :
    CoversDeclarations Cause.isOfDeclaration := fun _ ofDeclaration _ => ofDeclaration

private theorem fieldSchema (field : Field) : Plain (fieldSchema field) := by
  unfold OpenResponse.fieldSchema
  split
  · exact error rfl
  · exact (fieldType covers field).bind fun _ => ok

theorem recordSchema (fields : List Field) (docs : List String) :
    Plain (recordSchema fields docs) :=
  (mapM fun field _ => fieldSchema field).bind fun _ => ok

private theorem payloadSchema (variant : Variant) : Plain (payloadSchema variant) := by
  unfold OpenResponse.payloadSchema
  refine ite (recordSchema _ _) ?_
  split
  · exact (fieldType covers _).bind fun _ => ok
  · exact (mapM fun field _ => fieldType covers field).bind fun _ => ok

private theorem variantSchema (variant : Variant) : Plain (variantSchema variant) :=
  ite ok ((payloadSchema variant).bind fun _ => ok)

theorem declarationSchema (declaration : Declaration) :
    Plain (declarationSchema declaration) := by
  unfold OpenResponse.declarationSchema
  split
  · exact ite ok ((mapM fun variant _ => variantSchema variant).bind fun _ => ok)
  · exact (fieldType covers _).bind fun _ => ok
  · exact ok
  · exact recordSchema _ _

end Plain

end OpenResponse
