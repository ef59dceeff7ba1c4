import OpenResponse.Proofs.Builder.Meaning
import OpenResponse.Proofs.Builder.Separation
import OpenResponse.Proofs.Declaration.Regular

/-!
# The text of a chain loses nothing

A chain is written without marks that would tell its parts apart: the text of a document stands
directly in front of the text of a chain, a missing description leaves no gap, and a string may hold
whatever the calls around it look like.  Still two chains that are emitted have different texts if
they differ anywhere, because every part of the text can be told from what is written behind it.

Floating point numbers are left out, as they are written in a form of their own.  They get into a
chain through examples alone, because schemas hold none.

The text of a chain determines the chain if the chain is legible, and that is a property of chains
alone.  So what remains is to see that every chain which is emitted is legible: its calls are of the
known methods, the documents in them hold no floating point numbers, and a name that is inlined has
no space in it.  The calls are put together in the order in which a response is emitted, and
legibility is put together in the same order.

## Main definitions

* `Response.FloatFree` — responses whose examples hold no floating point numbers
* `Emitted` — the chains of responses, and of lists of responses, that are given

## Main statements

* `Emitted.legible` — every chain that is emitted is legible
* `chainText_lossless` — **chains that are emitted are told apart by their texts**

## Hypotheses

What `Emitted` asks of a response is that it was given, by a tuple or by a declaration, and that its
examples hold no floating point numbers.  That it was given is needed for two reasons.  A name with
a space could end the text of an inlined response early, and a schema that is stored in a body could
hold any numbers; of responses that are given neither is the case.

The two chains have the same builder, since its name is a part of the text.  The builder may have
any name, also one that looks like the beginning of a reference.
-/

namespace OpenResponse

/-! ### Examples

Where examples are asked about they come in two forms, a single one and named ones. -/

/-- An example and named examples that hold no floating point numbers. -/
def ExamplesFree (sample : Option Document) (examples : Option (List Example)) : Prop :=
  (∀ shown ∈ sample, shown.FloatFree) ∧ ∀ entries ∈ examples, ∀ entry ∈ entries, entry.FloatFree

instance (sample : Option Document) (examples : Option (List Example)) :
    Decidable (ExamplesFree sample examples) :=
  inferInstanceAs (Decidable (_ ∧ _))

/-- A response whose examples, those of its content variants included, hold no floating point
numbers. -/
def ResponseValue.FloatFree (value : ResponseValue) : Prop :=
  ExamplesFree value.sample value.examples ∧
    ∀ variant ∈ value.content, ExamplesFree variant.sample variant.examples

instance (value : ResponseValue) : Decidable value.FloatFree := inferInstanceAs (Decidable (_ ∧ _))

/-- A response that refers to another one, or whose examples hold no floating point numbers. -/
def Response.FloatFree : Response → Prop
  | .reference _ => True
  | .value said => said.FloatFree

instance : (response : Response) → Decidable response.FloatFree
  | .reference _ => inferInstanceAs (Decidable True)
  | .value said => inferInstanceAs (Decidable said.FloatFree)

/-! ### The parts of a response

Schemas are free of floating point numbers whatever is declared, so only examples have to be asked
about. -/

section Parts

variable {known : List Declaration}

/-- The schema of a body holds no floating point numbers, be it referred to, described or given. -/
theorem Body.floatFree_schemaDocument {body : Body} (regular : body.Regular) {schema : Document}
    (given : body.schemaDocument known = .ok schema) : schema.FloatFree := by
  cases body with
  | reference target =>
    cases given
    simp
  | typed type => exact floatFree_schemaOf given
  | schema document type =>
    cases given
    exact regular

/-- The chain of a body with its examples. -/
theorem legible_mediaCalls {schema : Document} (schemaFree : schema.FloatFree)
    {sample : Option Document} {examples : Option (List Example)}
    (free : ExamplesFree sample examples) : Legible false (mediaCalls schema sample examples) := by
  have named : Legible true ((examples.map fun entries => Instruction.call "examples_from_iter"
      [.examples (entries.map fun entry => (entry.name, entry))]).toList ++ [.build]) := by
    cases examples with
    | none => exact .build
    | some entries =>
      refine .examples (fun entry listed => ?_) .build
      obtain ⟨entry, isEntry, rfl⟩ := List.mem_map.mp listed
      exact ⟨rfl, free.2 entries rfl entry isEntry⟩
  rw [mediaCalls, List.append_assoc, List.append_assoc]
  exact .built (.inl rfl) (.document (by decide) schemaFree (.optional (by decide) free.1 named))

/-- The chain of a header. -/
theorem Header.legible_namedChain {header : Header} {entry : String × Chain}
    (given : header.namedChain known = .ok entry) : Legible false entry.2 := by
  obtain ⟨schema, isSchema, rfl⟩ := map_eq_ok.mp given
  obtain ⟨name, type, description⟩ := header
  have described : Legible true ((description.map fun text =>
      Instruction.call "description" [.string text]).toList ++ [.build]) := by
    cases description with
    | none => exact .build
    | some text => exact .document (by decide) (.string text) .build
  cases type with
  | none => exact .built (.inr rfl) described
  | some type =>
    exact .built (.inl rfl) (.document (by decide) (floatFree_schemaOf isSchema) described)

/-- The chains that are added under `content`. -/
theorem ResponseValue.legible_contentChains {value : ResponseValue} (regular : value.Regular)
    (free : value.FloatFree) {entries : List (String × Chain)}
    (given : value.contentChains known = .ok entries) :
    ∀ entry ∈ entries, Legible false entry.2 := by
  unfold contentChains at given
  split at given
  next =>
    cases given
    exact fun _ => nofun
  next body _ isBody =>
    obtain ⟨schema, isSchema, rfl⟩ := map_eq_ok.mp given
    refine List.forall_mem_map.mpr fun contentType _ => ?_
    exact legible_mediaCalls (body.floatFree_schemaDocument (regular.1 body isBody) isSchema) free.1
  next =>
    intro entry listed
    obtain ⟨variant, isVariant, made⟩ := (mem_of_forall₂ (mapM_eq_ok.mp given)).2 entry listed
    obtain ⟨schema, isSchema, rfl⟩ := map_eq_ok.mp made
    exact legible_mediaCalls (variant.body.floatFree_schemaDocument
      (regular.2 variant isVariant) isSchema) (free.2 variant isVariant)

/-- Chains that are added under names. -/
theorem legible_namedCalls {method : String} (isKnown : method ∈ documentMethods)
    {entries : List (String × Chain)} (each : ∀ entry ∈ entries, Legible false entry.2)
    {calls : Chain} (rest : Legible true calls) :
    Legible true (entries.map (namedCall method) ++ calls) := by
  induction entries with
  | nil => exact rest
  | cons entry entries ih =>
    obtain ⟨first, others⟩ := List.forall_mem_cons.mp each
    exact .nested isKnown (.string entry.1) first (ih others)

end Parts

/-! ### Responses

A response is emitted alone or as an entry of a list.  The calls for entries hold the chains of
their responses. -/

section Responses

variable {known : List Declaration} {chain : Chain}

private theorem legible_emitValue
    {value : ResponseValue} (regular : value.Regular) (free : value.FloatFree)
    (emits : emitValue known value = .ok chain) : Legible false chain := by
  rw [emitValue_eq] at emits
  obtain ⟨content, isContent, emits⟩ := outcome_bind_eq_ok.mp emits
  obtain ⟨headers, isHeaders, done⟩ := outcome_bind_eq_ok.mp emits
  cases done
  have headersLegible : ∀ entry ∈ headers, Legible false entry.2 := fun entry listed => by
    obtain ⟨header, -, made⟩ := (mem_of_forall₂ (mapM_eq_ok.mp isHeaders)).2 entry listed
    exact header.legible_namedChain made
  have contentLegible := value.legible_contentChains regular free isContent
  rw [List.append_assoc, List.append_assoc]
  exact .built (.inl rfl) (.document (by decide) (.string _)
    (legible_namedCalls (by decide) contentLegible
      (legible_namedCalls (by decide) headersLegible .build)))

/-- The chain of a response that is regular. -/
theorem legible_emitResponse {response : Response} (regular : response.Regular)
    (free : response.FloatFree) (emits : emitResponse known response = .ok chain) :
    Legible false chain := by
  cases response with
  | value said => exact legible_emitValue regular free emits
  | reference target =>
    obtain ⟨type, isInline⟩ := target
    cases isInline with
    | false =>
      cases emits
      exact .reference type.name
    | true =>
      cases emits
      exact .inlined regular

private theorem floatFree_status (status : Option String) :
    ((status.map Document.string).getD .null).FloatFree := by
  cases status with
  | none => exact .null
  | some text => exact .string text

/-- An entry whose response is regular and has no floating point numbers in its examples. -/
def ResponseEntry.IsClear (entry : ResponseEntry) : Prop :=
  ∀ descriptor, entry = .single descriptor →
    descriptor.response.Regular ∧ descriptor.response.FloatFree

/-- The call for an entry, in front of others. -/
theorem legible_entryCall {entry : ResponseEntry} (clear : entry.IsClear)
    {instruction : Instruction} (emits : entryCall known entry = .ok instruction) {calls : Chain}
    (rest : Legible true calls) : Legible true (instruction :: calls) := by
  cases entry with
  | allOf path =>
    cases emits
    exact .document (by decide) (.string path) rest
  | single descriptor =>
    obtain ⟨regular, free⟩ := clear descriptor rfl
    obtain ⟨inner, isInner, done⟩ := outcome_bind_eq_ok.mp emits
    cases done
    exact .nested (by decide) (floatFree_status _) (legible_emitResponse regular free isInner) rest

/-- The calls for the entries of a list. -/
theorem legible_entryCalls {entries : List ResponseEntry} {calls : Chain}
    (emits : List.Forall₂ (fun entry instruction => entryCall known entry = .ok instruction)
      entries calls) (clear : ∀ entry ∈ entries, entry.IsClear) :
    Legible true (calls ++ [.build]) := by
  induction emits with
  | nil => exact .build
  | cons first _ ih =>
    obtain ⟨firstClear, othersClear⟩ := List.forall_mem_cons.mp clear
    exact legible_entryCall firstClear first (ih othersClear)

/-- The chain of a list of responses. -/
theorem legible_emitResponses {entries : List ResponseEntry}
    (clear : ∀ entry ∈ entries, entry.IsClear) (emits : emitResponses known entries = .ok chain) :
    Legible false chain := by
  obtain ⟨calls, isCalls, done⟩ := outcome_bind_eq_ok.mp emits
  cases done
  exact .built (.inl rfl) (legible_entryCalls (mapM_eq_ok.mp isCalls) clear)

end Responses

/-! ### Chains that are emitted

Both constructors bring what their chain was made of, and the result speaks about chains only. -/

/-- The chain of a response that is given, or of a list of them.  Their examples hold no floating
point numbers. -/
inductive Emitted : Chain → Prop
  | response {known : List Declaration} {descriptor : ResponseDescriptor} {chain : Chain}
      (given : descriptor.Given) (free : descriptor.response.FloatFree)
      (emits : emitResponse known descriptor.response = .ok chain) : Emitted chain
  | responses {known : List Declaration} {entries : List ResponseEntry} {chain : Chain}
      (given : ∀ descriptor, .single descriptor ∈ entries →
        descriptor.Given ∧ descriptor.response.FloatFree)
      (emits : emitResponses known entries = .ok chain) : Emitted chain

/-- Every chain that is emitted is legible.  So every text that is shown can be read back, which is
what makes it determine its chain. -/
theorem Emitted.legible {chain : Chain} (emitted : Emitted chain) : Legible false chain := by
  cases emitted with
  | response given free emits => exact legible_emitResponse given.regular free emits
  | responses given emits =>
    refine legible_emitResponses (fun entry listed descriptor same => ?_) emits
    obtain ⟨isGiven, free⟩ := given descriptor (same ▸ listed)
    exact ⟨isGiven.regular, free⟩

/-- **Chains that are emitted are told apart by their texts.**  If they have the same text with some
builder, they are the same chain: the same calls in the same order, with the same documents, named
examples and chains for arguments. -/
theorem chainText_lossless {builder text : String} {first second : Chain} (emitted : Emitted first)
    (emittedToo : Emitted second) (isText : chainText builder first = .ok text)
    (isTextToo : chainText builder second = .ok text) : first = second :=
  emitted.legible.chainText_inj emittedToo.legible (isText.trans isTextToo.symm)

/-- Two tuples with another status and another order, and a description that looks like a call. -/
theorem chainText_lossless_reordered :
    ∃ first second text, Emitted first ∧ Emitted second ∧
      chainText "ResponseBuilder" first = .ok text ∧
      chainText "ResponseBuilder" second = .ok text ∧ first = second := by
  have emitted {tuple text : String}
      (free : ∀ descriptor ∈ (readResponseTuple .start tuple).toOption,
        descriptor.response.FloatFree)
      (written : (readResponseTuple .start tuple >>= fun descriptor =>
        emitResponse [] descriptor.response >>= chainText "ResponseBuilder") = .ok text) :
      ∃ chain, Emitted chain ∧ chainText "ResponseBuilder" chain = .ok text := by
    obtain ⟨descriptor, read, written⟩ := outcome_bind_eq_ok.mp written
    obtain ⟨chain, emits, isText⟩ := outcome_bind_eq_ok.mp written
    rw [read] at free
    exact ⟨chain, .response (.tuple read) (free descriptor rfl) emits, isText⟩
  let text := "ResponseBuilder::new().description(\"ok\\\").build()\")" ++
    ".header(\"x\", HeaderBuilder::from(Header::default()).build()).build()"
  obtain ⟨first, firstEmitted, firstText⟩ := @emitted
    "(status = 200, description = \"ok\\\").build()\", headers((\"x\")))" text
    (by decide +kernel) (by decide +kernel)
  obtain ⟨second, secondEmitted, secondText⟩ := @emitted
    "(headers = ((\"x\",)), status = 404, description = \"ok\\\").build()\")" text
    (by decide +kernel) (by decide +kernel)
  exact ⟨first, second, text, firstEmitted, secondEmitted, firstText, secondText,
    chainText_lossless firstEmitted secondEmitted firstText secondText⟩

end OpenResponse
