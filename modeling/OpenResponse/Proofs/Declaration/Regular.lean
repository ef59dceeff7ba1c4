import OpenResponse.Proofs.Declaration.Agreement
import OpenResponse.Proofs.Declaration.Variants
import OpenResponse.Proofs.Response.Entries
import OpenResponse.Proofs.Response.Sequence
import OpenResponse.Proofs.Schema.FloatFree
import OpenResponse.Proofs.TypeRef.Names

/-!
# Responses that are given

A response comes from a tuple, from a list of responses or from a declaration.  What is known of it,
wherever it comes from, is said here: a response that it refers to has the name of a type that was
read, in which there is no space, and a body with a schema of its own has that of a declaration.

Neither is a matter of luck.  A reference is written in a text, so its name is made of tokens, and
no token of a name holds a space; a schema is stored in a body only where a declaration is turned
into a response, and schemas of declarations hold no floating point numbers.  So the two facts are
followed from where they come from through everything that is built: tuples key by key, and
declarations case by case.

## Main definitions

* `ResponseDescriptor.Given` — responses that are read from a text or derived from a declaration
* `Response.Regular` — names without spaces, and schemas without floating point numbers

## Main statements

* `ResponseDescriptor.Given.regular` — responses that are given are regular

## Hypotheses

`Given` lists all the ways in which a response comes about.  Nothing is asked in any of them but
that it succeeded.

Where a fact is about names in a text it is asked of the tokens of the text, `PlainNames`.  The
invariants of lists are therefore stated for items that are written with some of the tokens.
-/

namespace OpenResponse

/-- A response that is read from a text or derived from a declaration. -/
inductive ResponseDescriptor.Given : ResponseDescriptor → Prop
  /-- A tuple that is a text of its own. -/
  | tuple {origin : Location} {text : String} {descriptor : ResponseDescriptor}
      (read : readResponseTuple origin text = .ok descriptor) : descriptor.Given
  /-- A tuple in a list of responses. -/
  | listed {origin : Location} {text : String} {entries : List ResponseEntry}
      {descriptor : ResponseDescriptor} (read : readResponses origin text = .ok entries)
      (isEntry : .single descriptor ∈ entries) : descriptor.Given
  /-- The response that a declaration is. -/
  | derived {declaration : Declaration} {descriptor : ResponseDescriptor}
      (derives : declaration.response = .ok descriptor) : descriptor.Given
  /-- One of the responses that a declaration lists. -/
  | derivedAmong {declaration : Declaration} {descriptors : List ResponseDescriptor}
      {descriptor : ResponseDescriptor} (derives : declaration.responses = .ok descriptors)
      (isListed : descriptor ∈ descriptors) : descriptor.Given

/-- A body whose schema, if it has one of its own, holds no floating point numbers. -/
def Body.Regular : Body → Prop
  | .schema document _ => document.FloatFree
  | _ => True

/-- A response whose bodies are regular.  Nothing is asked of headers, whose types are described and
not named. -/
def ResponseValue.Regular (value : ResponseValue) : Prop :=
  (∀ body ∈ value.body, body.Regular) ∧ ∀ variant ∈ value.content, variant.body.Regular

/-- A response that names another one without a space, or whose bodies are regular. -/
def Response.Regular : Response → Prop
  | .reference type => ' ' ∉ type.type.name.toList
  | .value said => said.Regular

/-- What a field stands for: a name without spaces, or a body that is regular. -/
def ContentsRegular : InlineType ⊕ Body → Prop
  | .inl type => ' ' ∉ type.type.name.toList
  | .inr body => body.Regular

/-! ### Lists

What every entry keeps is kept by a list of them, from the state at the beginning to the one at the
end. -/

/-- What holds of every item that can be written with some of the tokens of a list holds of the
items of the list. -/
theorem CommaList.forall_mem_of_subset {α : Type} {item : List Token → α → Prop} {P : α → Prop}
    {tokens : List Token} {values : List α} (list : CommaList item tokens values)
    (holds : ∀ inner value, inner ⊆ tokens → item inner value → P value) :
    ∀ value ∈ values, P value := by
  induction list with
  | nil =>
    intro value listed
    cases listed
  | last written =>
    exact List.forall_mem_singleton.mpr (holds _ _ (List.Subset.refl _) written)
  | cons written _ _ ih =>
    refine List.forall_mem_cons.mpr ⟨holds _ _ (List.subset_append_left _ _) written, ?_⟩
    refine ih fun inner value inside => holds inner value ?_
    exact List.subset_append_of_subset_right _ (List.subset_cons_of_subset _ inside)

/-- What every entry of a list of keys keeps is kept by all of them. -/
theorem applyAll_invariant {ε σ : Type} {apply : Location → ε → σ → Option σ} {P : σ → Prop}
    {placed : List (Location × ε)}
    (keeps : ∀ entry ∈ placed, ∀ state later,
      apply entry.1 entry.2 state = some later → P state → P later) {state later : σ}
    (applied : applyAll apply placed state = some later) (holds : P state) : P later := by
  induction placed generalizing state with
  | nil =>
    cases applied
    exact holds
  | cons entry placed ih =>
    obtain ⟨firstKeeps, othersKeep⟩ := List.forall_mem_cons.mp keeps
    obtain ⟨middle, first, others⟩ := Option.bind_eq_some_iff.mp applied
    exact ih othersKeep others (firstKeeps state middle first holds)

/-- What every key of a table keeps, if it is written with some of the tokens of a list, is kept by
the list. -/
theorem keysForm_invariant {ε σ : Type} {table : List (String × Form ε)}
    {apply : Location → ε → σ → Option σ} {P : σ → Prop} {tokens : List Token} {state later : σ}
    (written : keysForm table apply state tokens later)
    (keeps : ∀ line ∈ table, ∀ inner entry, inner ⊆ tokens → line.2 inner entry →
      ∀ here state later, apply here entry state = some later → P state → P later)
    (holds : P state) : P later := by
  obtain ⟨placed, list, applied⟩ := written
  have each : ∀ entry ∈ placed.map Prod.snd, ∀ here state later,
      apply here entry state = some later → P state → P later := by
    refine list.commaList.forall_mem_of_subset fun inner entry inside item => ?_
    obtain ⟨key, back, rfl, -, form, found, written⟩ := Form.token_bind_iff.mp item
    exact keeps _ (mem_of_lookup found) back entry
      (fun _ listed => inside (List.mem_cons_of_mem key listed)) written
  exact applyAll_invariant (fun entry listed =>
    each entry.2 (List.mem_map_of_mem listed) entry.1) applied holds

/-! ### Responses that are read

A body that is read is a type or a reference, never a schema.  So only names have to be looked at.
-/

/-- A body that is read is found elsewhere. -/
theorem bodyForm_regular {tokens : List Token} {body : Body} (written : bodyForm tokens body) :
    body.Regular := by
  rcases written with reference | ⟨_, _, type, -, -, -, rfl⟩
  · obtain ⟨_, _, -, -, opened⟩ := Form.word_bind_iff.mp reference
    obtain ⟨_, _, -, -, named⟩ := Form.token_bind_iff.mp opened
    obtain ⟨_, _, -, -, closed⟩ := Form.token_bind_iff.mp named
    obtain ⟨_, _, -, -, -, rfl⟩ := Form.token_bind_iff.mp closed
    trivial
  · trivial

private theorem contentVariantForm_regular {tokens : List Token} {variant : ContentVariant}
    (written : contentVariantForm tokens variant) : variant.body.Regular := by
  obtain ⟨_, _, -, -, named⟩ := Form.token_bind_iff.mp written
  obtain ⟨_, _, -, -, assigned⟩ := Form.token_bind_iff.mp named
  obtain ⟨_, _, -, -, _, _, body, -, isBody, described⟩ := Form.token_bind_iff.mp assigned
  obtain ⟨_, _, more, -, -, _, _, _, -, keys, closed⟩ := described
  obtain ⟨_, _, -, -, -, rfl⟩ := Form.token_bind_iff.mp closed
  have regular := bodyForm_regular isBody
  cases more with
  | false =>
    obtain ⟨-, rfl⟩ := keys
    exact regular
  | true =>
    -- no key of a variant touches the body
    refine keysForm_invariant (P := fun variant => variant.body.Regular) keys ?_ regular
    simp only [variantTable, List.forall_mem_cons, List.not_mem_nil, false_imp_iff, implies_true,
      and_true]
    constructor
    all_goals
      rintro inner _ - set here state _ ⟨⟩ holds
      obtain ⟨value, -, rfl⟩ := Form.map_iff.mp set
      exact holds

/-- The bodies of content that is read. -/
theorem contentForm_regular {tokens : List Token} {variants : List ContentVariant}
    (written : contentForm tokens variants) : ∀ variant ∈ variants, variant.body.Regular := by
  have group {tokens : List Token} (written : groupForm contentVariantForm tokens variants) :
      ∀ variant ∈ variants, variant.body.Regular := by
    obtain ⟨_, _, -, -, _, _, -, -, list⟩ := Form.token_bind_iff.mp written
    exact list.forall_mem fun _ _ => contentVariantForm_regular
  rcases Form.optional_bind_iff.mp written with ⟨_, _, -, -, behind⟩ | written
  · exact group behind
  · exact group written

/-- A setting of a name without spaces, or of bodies that are regular. -/
def Setting.Regular : Setting → Prop
  | .reference type => ' ' ∉ type.type.name.toList
  | .value (.body body) => body.Regular
  | .value (.content variants) => ∀ variant ∈ variants, variant.body.Regular
  | _ => True

/-- The keys of a tuple set what is regular. -/
theorem regular_of_mem_tupleTable {line : String × Form Setting} (isLine : line ∈ tupleTable)
    {tokens : List Token} {setting : Setting} (written : line.2 tokens setting)
    (plain : PlainNames tokens) : setting.Regular := by
  simp only [tupleTable, List.mem_cons, List.not_mem_nil, or_false] at isLine
  rcases isLine with rfl | rfl | rfl | rfl | rfl | rfl | rfl | rfl | rfl <;>
    obtain ⟨value, isValue, rfl⟩ := Form.map_iff.mp written
  -- only the keys of the body, of the content and of a reference bear on it
  case inr.inr.inl =>
    obtain ⟨_, _, -, -, isBody⟩ := Form.token_bind_iff.mp isValue
    exact bodyForm_regular isBody
  case inr.inr.inr.inr.inr.inr.inr.inl => exact contentForm_regular isValue
  case inr.inr.inr.inr.inr.inr.inr.inr =>
    obtain ⟨equals, back, rfl, -, isType⟩ := Form.token_bind_iff.mp isValue
    exact inlineTypeForm_space_not_mem_name isType (plain.mono (List.subset_cons_self _ _))
  all_goals trivial

/-- A draft of a response that is regular.  A reference in it has no blank in its name, and a value
is regular as it stands. -/
def TupleDraft.Regular (draft : TupleDraft) : Prop :=
  (∀ type ∈ draft.reference, ' ' ∉ type.type.name.toList) ∧ ∀ value ∈ draft.value, value.Regular

private theorem ResponseValue.regular_empty : ResponseValue.empty.Regular :=
  ⟨fun _ => nofun, fun _ => nofun⟩

/-- The value that a draft is described by, which is empty at first. -/
theorem TupleDraft.Regular.value {draft : TupleDraft} (regular : draft.Regular) :
    (draft.value.getD .empty).Regular := by
  cases described : draft.value with
  | none => exact ResponseValue.regular_empty
  | some value => exact regular.2 value described

private theorem TupleDraft.Regular.onDraft
    {draft later : TupleDraft} {setting : Setting} {here : Location}
    (regular : draft.Regular) (sets : setting.Regular)
    (made : setting.onDraft here draft = some later) : later.Regular := by
  cases setting with
  | status text =>
    cases made
    exact regular
  | reference type =>
    simp only [Setting.onDraft, Option.ite_none_left_eq_some, Option.some.injEq] at made
    obtain ⟨-, rfl⟩ := made
    refine ⟨?_, regular.2⟩
    rintro _ ⟨⟩
    exact sets
  | value setting =>
    simp only [Setting.onDraft, Option.ite_none_left_eq_some, Option.some.injEq] at made
    obtain ⟨-, rfl⟩ := made
    refine ⟨regular.1, ?_⟩
    rintro _ ⟨⟩
    cases setting with
    | body said =>
      refine ⟨?_, regular.value.2⟩
      rintro _ ⟨⟩
      exact sets
    | content variants => exact ⟨regular.value.1, sets⟩
    | _ => exact regular.value

/-- A tuple of which the names hold no space is regular. -/
theorem tupleForm_regular {tokens : List Token} {descriptor : ResponseDescriptor}
    (written : tupleForm tokens descriptor) (plain : PlainNames tokens) :
    descriptor.response.Regular := by
  obtain ⟨opening, _, rfl, -, inner, _, draft, rfl, keys, ended⟩ := Form.token_bind_iff.mp written
  obtain ⟨_, _, -, -, -, -, rfl⟩ := Form.token_bind_iff.mp ended
  have regular : draft.Regular := by
    refine keysForm_invariant keys (fun line isLine inside setting listed set here state later
      made holds => holds.onDraft ?_ made) ⟨fun _ => nofun, fun _ => nofun⟩
    refine regular_of_mem_tupleTable isLine set (plain.mono fun token isToken => ?_)
    exact List.mem_cons_of_mem _ (List.mem_append_left _ (listed isToken))
  rw [TupleDraft.descriptor]
  split
  next type refers => exact regular.1 type refers
  next => exact regular.value

/-! ### Responses that are derived

A response that is derived refers to the type of a field, or its body is the schema of the
declaration or of a variant. -/

/-- There is no space in the name of the type of a field. -/
theorem Field.space_not_mem_name {field : Field} {type : TypeRef} (typed : field.type = .ok type) :
    ' ' ∉ type.name.toList := by
  obtain ⟨tokens, scanned, written⟩ := readTypeRef_eq_ok.mp typed
  exact TypeForm.space_not_mem_name written (scan_plainNames scanned)

/-- A field that is a body has no schema of its own. -/
theorem Field.regular_body {field : Field} {body : Body} (given : field.body = .ok body) :
    body.Regular := by
  obtain ⟨type, -, done⟩ := outcome_bind_eq_ok.mp given
  cases done
  trivial

/-- What a field stands for is regular, be it another response or a body. -/
theorem Field.regular_responseBody {field : Field} {contents : InlineType ⊕ Body}
    (given : field.responseBody = .ok contents) :
    ContentsRegular contents := by
  unfold Field.responseBody at given
  split at given
  next =>
    obtain ⟨type, typed, done⟩ := outcome_bind_eq_ok.mp given
    cases done
    exact Field.space_not_mem_name typed
  next =>
    split at given
    next =>
      obtain ⟨type, typed, done⟩ := outcome_bind_eq_ok.mp given
      cases done
      exact Field.space_not_mem_name typed
    next =>
      obtain ⟨body, isBody, done⟩ := outcome_bind_eq_ok.mp given
      cases done
      exact Field.regular_body isBody

private theorem regular_statusResponse {value : StatusDetails} {description : String}
    {contents : Option (InlineType ⊕ Body)} {location : Location} {descriptor : ResponseDescriptor}
    (given : statusResponse value description contents location = .ok descriptor)
    (regular : ∀ inner ∈ contents, ContentsRegular inner) :
    descriptor.response.Regular := by
  unfold statusResponse at given
  split at given
  next type =>
    split at given
    next => cases given
    next =>
      cases given
      exact regular _ rfl
  next body =>
    cases given
    refine ⟨?_, fun _ => nofun⟩
    rintro _ ⟨⟩
    exact regular _ rfl
  next =>
    cases given
    exact ⟨fun _ => nofun, fun _ => nofun⟩

private theorem Variant.regular_contents {type : TypeRef} {variant : Variant}
    {contents : Option (InlineType ⊕ Body)} (given : variant.contents type = .ok contents) :
    ∀ inner ∈ contents, ContentsRegular inner := by
  unfold Variant.contents at given
  split at given
  next =>
    cases given
    exact fun _ => nofun
  next field _ =>
    obtain ⟨inner, isInner, rfl⟩ := map_eq_ok.mp given
    rintro _ ⟨⟩
    exact Field.regular_responseBody isInner
  next => cases given
  next =>
    obtain ⟨schema, isSchema, done⟩ := outcome_bind_eq_ok.mp given
    cases done
    rintro _ ⟨⟩
    exact floatFree_recordSchema isSchema

private theorem Variant.regular_response {type : TypeRef} {variant : Variant}
    {descriptor : ResponseDescriptor} (given : variant.response type = .ok descriptor) :
    descriptor.response.Regular := by
  rw [response_eq] at given
  obtain ⟨value, -, given⟩ := outcome_bind_eq_ok.mp given
  obtain ⟨contents, isContents, given⟩ := outcome_bind_eq_ok.mp given
  exact regular_statusResponse given (regular_contents isContents)

private theorem Declaration.regular_responses {declaration : Declaration}
    {descriptors : List ResponseDescriptor} (given : declaration.responses = .ok descriptors) :
    ∀ descriptor ∈ descriptors, descriptor.response.Regular := by
  obtain ⟨shape, -, given⟩ := outcome_bind_eq_ok.mp given
  cases shape with
  | enum type variants =>
    intro descriptor listed
    obtain ⟨variant, -, isResponse⟩ := (mem_of_forall₂ (mapM_eq_ok.mp given)).2 descriptor listed
    exact Variant.regular_response isResponse
  | newtype type attributes =>
    obtain ⟨value, -, given⟩ := outcome_bind_eq_ok.mp given
    obtain ⟨contents, isContents, given⟩ := outcome_bind_eq_ok.mp given
    obtain ⟨descriptor, isResponse, done⟩ := outcome_bind_eq_ok.mp given
    cases done
    refine List.forall_mem_singleton.mpr (regular_statusResponse isResponse ?_)
    cases first : declaration.fields.head? with
    | none =>
      rw [first] at isContents
      cases isContents
      exact fun _ => nofun
    | some field =>
      rw [first] at isContents
      obtain ⟨inner, isInner, rfl⟩ := map_eq_ok.mp isContents
      rintro _ ⟨⟩
      exact Field.regular_responseBody isInner
  | record type fields =>
    obtain ⟨value, -, given⟩ := outcome_bind_eq_ok.mp given
    obtain ⟨schema, isSchema, given⟩ := outcome_bind_eq_ok.mp given
    obtain ⟨descriptor, isResponse, done⟩ := outcome_bind_eq_ok.mp given
    cases done
    refine List.forall_mem_singleton.mpr (regular_statusResponse isResponse ?_)
    -- the only body is a schema that was made of the declaration
    rintro _ ⟨⟩
    exact floatFree_declarationSchema isSchema
  | unit =>
    obtain ⟨value, -, given⟩ := outcome_bind_eq_ok.mp given
    obtain ⟨descriptor, isResponse, done⟩ := outcome_bind_eq_ok.mp given
    cases done
    exact List.forall_mem_singleton.mpr (regular_statusResponse isResponse fun _ => nofun)

/-- The content of a variant has no schema of its own. -/
theorem Variant.regular_content {variant : Variant} {content : ContentVariant}
    (given : variant.content? = .ok (some content)) : content.body.Regular := by
  obtain ⟨details, -, given⟩ := outcome_bind_eq_ok.mp given
  split at given
  next => cases given
  next field _ =>
    obtain ⟨tag, -, given⟩ := outcome_bind_eq_ok.mp given
    split at given
    next => cases given
    next contentType _ =>
      obtain ⟨body, isBody, done⟩ := outcome_bind_eq_ok.mp given
      cases done
      exact Field.regular_body isBody

private theorem regular_createResponse {declaration : Declaration} {body : Option Body}
    {content : List ContentVariant} {descriptor : ResponseDescriptor}
    (given : createResponse declaration body content = .ok descriptor)
    (bodyRegular : ∀ inner ∈ body, inner.Regular)
    (contentRegular : ∀ variant ∈ content, variant.body.Regular) :
    descriptor.response.Regular := by
  obtain ⟨details, -, given⟩ := outcome_bind_eq_ok.mp given
  dsimp only at given
  split at given
  · split at given
    · cases given
    · cases given
      exact ⟨bodyRegular, contentRegular⟩
  · cases given
    exact ⟨bodyRegular, contentRegular⟩

private theorem Declaration.regular_response
    {declaration : Declaration} {descriptor : ResponseDescriptor}
    (given : declaration.response = .ok descriptor) : descriptor.response.Regular := by
  have schemaBody {schema : Document} {type : TypeRef}
      (isSchema : declarationSchema declaration = .ok schema) :
      ∀ body ∈ some (Body.schema schema type), body.Regular := by
    rintro _ ⟨⟩
    exact floatFree_declarationSchema isSchema
  obtain ⟨shape, -, given⟩ := outcome_bind_eq_ok.mp given
  cases shape with
  | newtype type attributes =>
    refine regular_createResponse given ?_ fun _ => nofun
    rintro _ ⟨⟩
    trivial
  | record type fields =>
    obtain ⟨schema, isSchema, given⟩ := outcome_bind_eq_ok.mp given
    exact regular_createResponse given (schemaBody isSchema) fun _ => nofun
  | unit => exact regular_createResponse given (fun _ => nofun) fun _ => nofun
  | enum type variants =>
    obtain ⟨content, isContent, given⟩ := outcome_bind_eq_ok.mp given
    have regular : ∀ variant ∈ content.filterMap id, variant.body.Regular := by
      intro variant listed
      obtain ⟨_, isListed, rfl⟩ := List.mem_filterMap.mp listed
      obtain ⟨source, -, isSource⟩ := (mem_of_forall₂ (mapM_eq_ok.mp isContent)).2 _ isListed
      exact Variant.regular_content isSource
    dsimp only at given
    split at given
    next =>
      obtain ⟨schema, isSchema, given⟩ := outcome_bind_eq_ok.mp given
      exact regular_createResponse given (schemaBody isSchema) regular
    next => exact regular_createResponse given (fun _ => nofun) regular

/-- **Responses that are given are regular**, wherever they come from.  So the laws about regular
responses hold for everything that is compiled, and the condition is never one on what people write.
-/
theorem ResponseDescriptor.Given.regular {descriptor : ResponseDescriptor}
    (given : descriptor.Given) : descriptor.response.Regular := by
  cases given with
  | tuple read =>
    obtain ⟨tokens, scanned, written⟩ := readResponseTuple_eq_ok.mp read
    exact tupleForm_regular written (scan_plainNames scanned)
  | @listed _ _ entries _ read isEntry =>
    obtain ⟨tokens, scanned, list⟩ := readResponses_eq_ok.mp read
    have each : ∀ entry ∈ entries, ∀ descriptor, entry = .single descriptor →
        descriptor.response.Regular := by
      refine list.forall_mem_of_subset fun inner entry inside written => ?_
      rcases responseEntryForm_iff.mp written with ⟨_, tuple, rfl⟩ | ⟨_, -, rfl⟩
      · rintro _ ⟨⟩
        exact tupleForm_regular tuple ((scan_plainNames scanned).mono inside)
      · rintro _ ⟨⟩
    exact each _ isEntry _ rfl
  | derived derives => exact Declaration.regular_response derives
  | derivedAmong derives isListed => exact Declaration.regular_responses derives _ isListed

end OpenResponse
