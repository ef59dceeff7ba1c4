import OpenResponse.Declaration.Response
import OpenResponse.Proofs.Outcome

/-!
# Variants that list responses

An enum lists one response for each of its variants.  Variants are not looked at in the way structs
are: their fields are told apart without a shape, their schema is made of the fields and not of a
declaration, and what is wrong with them is found in another order.  Still the response of a variant
is the only one that a struct with its fields, attributes and documentation lists, unless the
variant is written with empty parentheses, which a struct may not be.

No describer is mentioned, because the schema of a declaration does not depend on one.

Both computations are brought into the same form: a status first, then what the fields contain, then
the response.  The struct differs in one step, that it finds out its shape before anything else, and
this step can fail only if finding out the contents fails as well.  So the two succeed together and
with the same response, although where both fail their faults may differ.

## Main definitions

* `Variant.asStruct` — the struct that a variant could be

## Main statements

* `Variant.responses_asStruct` — a variant and its struct give the same response, or both fail
* `responses_variants` — an enum lists what the structs of its variants list

## Hypotheses

No variant may be written with empty parentheses.  A struct that is written so has no shape and is
refused, while a variant is treated like one without fields.

The struct of a variant is given any name.  Only the schema is kept under it, and the same name is
used for both sides.
-/

namespace OpenResponse

/-- The struct with a name that has the fields, attributes and documentation of a variant. -/
def Variant.asStruct (variant : Variant) (name : String) : Declaration where
  name := name
  kind := .struct
  fields := variant.fields
  isTuple := variant.isTuple
  variants := []
  attributes := variant.attributes
  docs := variant.docs
  derives := []
  location := variant.location

/-- What a variant contains: nothing, what its only field stands for, or an object. -/
def Variant.contents (variant : Variant) (type : TypeRef) :
    Except Fault (Option (InlineType ⊕ Body)) :=
  match variant.isTuple, variant.fields with
  | _, [] => pure none
  | true, [field] => some <$> field.responseBody
  | true, _ => throw (.found variant.location .wideTupleShape)
  | false, fields => do
    let schema ← recordSchema fields variant.docs
    pure (some (.inr (.schema schema type)))

/-- A field that stands for something has a type. -/
theorem Field.exists_type {field : Field} {body : InlineType ⊕ Body}
    (stands : field.responseBody = .ok body) : ∃ type, field.type = .ok type := by
  rw [Field.responseBody, Field.body] at stands
  cases typed : field.type with
  | ok type => exact ⟨type, rfl⟩
  | error fault =>
    rw [typed] at stands
    split at stands
    · cases stands
    · split at stands <;> cases stands

namespace Variant

variable {variant : Variant} {name : String}

/-- A variant needs a status first, and then its contents. -/
theorem response_eq (variant : Variant) (type : TypeRef) :
    variant.response type = (do
      let value ← requiredStatus variant.attributes variant.location
      let contents ← variant.contents type
      statusResponse value (joinLines variant.docs) contents variant.location) := by
  rw [Variant.response]
  congr 1
  funext value
  obtain ⟨label, fields, isTuple, attributes, docs, location⟩ := variant
  cases isTuple with
  | false => cases fields <;> simp only [contents, bind_assoc, pure_bind]
  | true => rcases fields with _ | ⟨field, _ | ⟨second, rest⟩⟩ <;> rfl

/-- A struct needs a shape before anything else, and then what a variant needs. -/
theorem responses_asStruct_eq (notEmpty : variant.isTuple = true → variant.fields ≠ []) :
    (variant.asStruct name).responses = (do
      let _ ← (variant.asStruct name).shape
      let value ← requiredStatus variant.attributes variant.location
      let contents ← variant.contents (.path name [])
      return [← statusResponse value (joinLines variant.docs) contents variant.location]) := by
  obtain ⟨label, fields, isTuple, attributes, docs, location⟩ := variant
  cases isTuple with
  | false =>
    cases fields with
    | nil => rfl
    | cons field rest =>
      have written : declarationSchema (asStruct ⟨label, field :: rest, false, attributes, docs,
          location⟩ name) = recordSchema (field :: rest) docs := rfl
      have shaped : (asStruct ⟨label, field :: rest, false, attributes, docs,
          location⟩ name).shape = .ok (.record (.path name []) (field :: rest)) := rfl
      rw [Declaration.responses, shaped]
      simp only [contents, bind_assoc, pure_bind, written]
      rfl
  | true =>
    rcases fields with _ | ⟨field, _ | ⟨second, rest⟩⟩
    · exact absurd rfl (notEmpty rfl)
    · show ((do return Shape.newtype (← field.type) field.attributes) >>= _) =
        ((do return Shape.newtype (← field.type) field.attributes) >>= _)
      cases field.type <;> rfl
    · rfl

/-- A variant that contains something could be a struct. -/
theorem exists_shape {contents : Option (InlineType ⊕ Body)}
    (notEmpty : variant.isTuple = true → variant.fields ≠ [])
    (given : variant.contents (.path name []) = .ok contents) :
    ∃ shape, (variant.asStruct name).shape = .ok shape := by
  obtain ⟨label, fields, isTuple, attributes, docs, location⟩ := variant
  cases isTuple with
  | false =>
    cases fields with
    | nil => exact ⟨_, rfl⟩
    | cons field rest => exact ⟨_, rfl⟩
  | true =>
    rcases fields with _ | ⟨field, _ | ⟨second, rest⟩⟩
    · exact absurd rfl (notEmpty rfl)
    · obtain ⟨body, stands, -⟩ := map_eq_ok.mp given
      obtain ⟨type, typed⟩ := field.exists_type stands
      refine ⟨.newtype type field.attributes, ?_⟩
      rw [Declaration.shape]
      show (do return Shape.newtype (← field.type) field.attributes) = _
      rw [typed]
      rfl
    · cases given

/-- A struct lists the response of its variant and nothing else, and fails if the variant does. -/
theorem responses_asStruct (notEmpty : variant.isTuple = true → variant.fields ≠ [])
    {responses : List ResponseDescriptor} :
    (variant.asStruct name).responses = .ok responses ↔
      ∃ response, variant.response (.path name []) = .ok response ∧ responses = [response] := by
  rw [responses_asStruct_eq notEmpty, response_eq]
  simp only [outcome_bind_eq_ok]
  constructor
  · rintro ⟨_, -, value, status, contents, given, response, done, same⟩
    cases same
    exact ⟨response, ⟨value, status, contents, given, done⟩, rfl⟩
  · rintro ⟨response, ⟨value, status, contents, given, done⟩, rfl⟩
    obtain ⟨shape, shaped⟩ := exists_shape notEmpty given
    exact ⟨shape, shaped, value, status, contents, given, response, done, rfl⟩

end Variant

/-- **Variants list what their structs list.**  An enum none of whose variants is written with empty
parentheses lists responses exactly if the struct of every variant does.  It then lists one response
for each variant, in their order, which is the only one that the struct of the variant lists. -/
theorem responses_variants {declaration : Declaration} (isEnum : declaration.kind = .enum)
    (notEmpty : ∀ variant ∈ declaration.variants,
      variant.isTuple = true → variant.fields ≠ []) :
    ((∃ responses, declaration.responses = .ok responses) ↔
      ∀ variant ∈ declaration.variants,
        ∃ responses, (variant.asStruct declaration.name).responses = .ok responses) ∧
    ∀ responses, declaration.responses = .ok responses →
      ∃ lists, declaration.variants.mapM
          (fun variant => (variant.asStruct declaration.name).responses) = .ok lists ∧
        (∀ list ∈ lists, list.length = 1) ∧ responses = lists.flatten := by
  have each : declaration.responses =
      declaration.variants.mapM (Variant.response declaration.type) := by
    rw [Declaration.responses, Declaration.shape, isEnum]
    rfl
  rw [each]
  constructor
  · rw [exists_mapM_eq_ok]
    refine forall₂_congr fun variant listed => ?_
    simp only [Variant.responses_asStruct (notEmpty variant listed)]
    constructor
    · rintro ⟨response, given⟩
      exact ⟨[response], response, given, rfl⟩
    · rintro ⟨_, response, given, -⟩
      exact ⟨response, given⟩
  · intro responses given
    have alone : ∀ variant ∈ declaration.variants,
        (variant.asStruct declaration.name).responses =
          ([·]) <$> variant.response declaration.type := by
      intro variant listed
      obtain ⟨response, done⟩ := exists_mapM_eq_ok.mp ⟨responses, given⟩ variant listed
      rw [(Variant.responses_asStruct (notEmpty variant listed)).mpr ⟨response, done, rfl⟩, done]
      rfl
    refine ⟨responses.map ([·]), ?_, ?_, ?_⟩
    · rw [mapM_congr alone, mapM_map_outcome, given]
      rfl
    · simp only [List.forall_mem_map, List.length_singleton, implies_true]
    · rw [← List.flatMap_def, List.flatMap_singleton']

/-- An enum with a variant of each form: without fields, with a named field, and with one that
stands for another response. -/
theorem responses_variants_forms :
    let status := fun text => Attribute.mk "response" text none .start
    let field := fun name type attributes => Field.mk name type .start attributes []
    let declaration : Declaration := ⟨"Reply", .enum, [], false,
      [⟨"Gone", [], false, [status "status = 410"], ["Gone."], .start⟩,
        ⟨"Found", [field (some "id") "u64" []], false, [status "status = 200"], [], .start⟩,
        ⟨"Other", [field none "Problem" [⟨"ref_response", "", none, .start⟩]], true,
          [status "status = 500"], [], .start⟩], [], [], [], .start⟩
    declaration.kind = .enum ∧
      (∀ variant ∈ declaration.variants, variant.isTuple = true → variant.fields ≠ []) ∧
      ∃ responses lists, declaration.responses = .ok responses ∧ responses.length = 3 ∧
        declaration.variants.mapM
          (fun variant => (variant.asStruct declaration.name).responses) = .ok lists ∧
        responses = lists.flatten := by
  intro status field declaration
  have isEnum : declaration.kind = .enum := rfl
  have notEmpty : ∀ variant ∈ declaration.variants,
      variant.isTuple = true → variant.fields ≠ [] := by decide
  have three : (declaration.responses.toOption.map List.length) = some 3 := by decide +kernel
  refine ⟨isEnum, notEmpty, ?_⟩
  obtain ⟨responses, given, size⟩ : ∃ responses, declaration.responses = .ok responses ∧
      responses.length = 3 := by
    cases given : declaration.responses with
    | error fault => rw [given] at three; cases three
    | ok responses => rw [given] at three; exact ⟨responses, rfl, Option.some.inj three⟩
  obtain ⟨lists, listed, -, joined⟩ := (responses_variants isEnum notEmpty).2 responses given
  exact ⟨responses, lists, given, size, listed, joined⟩

end OpenResponse
