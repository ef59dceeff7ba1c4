import OpenResponse.Builder.Emission
import OpenResponse.Builder.Interpretation
import OpenResponse.Proofs.Document.Ordered
import OpenResponse.Proofs.Outcome

/-!
# What a response means

A response is turned into builder calls, and the calls are read back into an object.  Between the
two stages there is nothing but a list of calls with untyped arguments, so nothing in the types says
that the second stage understands the first.  Here the object of a response is written down
directly, without any calls, and the two stages together are shown to produce it.

The calls are described twice.  They are made of named chains, one for each content and header, and
the entries of the object are what these chains mean; so the two lists correspond one to one, and a
failing schema fails in the same place in both.  What is left is that reading a list of named calls
assigns the entries one after the other, which leaves each name at its first place with its last
value, as the object says.

## Main definitions

* `ResponseValue.contentEntries`, `ResponseValue.headerEntries` — what stands under `content` and
  under `headers`, in the order in which it is written
* `ResponseValue.object` — the object of a response described by its value
* `Response.meaning` — the object of any response, given how responses to be inlined are looked up

## Main statements

* `responseObject_emitValue` — emitting and interpreting a value yields its object
* `responseObject_emitResponse` — emitting and interpreting a response yields its meaning, and fails
  where the meaning does

## Hypotheses

The result is an equation between outcomes, so it holds for responses whose schemas cannot be made
too.  Nothing is asked of the response, of what is declared, or of how responses to be inlined are
looked up; `resolve` may live in any monad that has faults, as it does where look-ups are
remembered.
-/

namespace OpenResponse

open Ordered

/-! ### The object of a response, written down directly

These definitions follow the description of responses rather than the way in which they are made.
They mention neither chains nor calls. -/

/-- The object of a body: its schema, its example and its named examples. -/
def mediaObject (schema : Document) (sample : Option Document) (examples : Option (List Example)) :
    Document :=
  .object (("schema", schema) :: (sample.map fun value => ("example", value)).toList ++
    (examples.map fun entries =>
      ("examples", Document.object (latest (entries.map fun entry => (entry.name, entry.object))))
    ).toList)

namespace ContentVariant

/-- The entry of a content variant: its object under its content type. -/
def entry (known : List Declaration) (variant : ContentVariant) :
    Except Fault (String × Document) := do
  let schema ← variant.body.schemaDocument known
  return (variant.contentType, mediaObject schema variant.sample variant.examples)

end ContentVariant

namespace Header

/-- The schema of a header.  A header without a type is a plain string. -/
def schemaDocument (known : List Declaration) (header : Header) : Except Fault Document :=
  match header.type with
  | some type => schemaOf known type
  | none => .ok (.object [("type", .string "string")])

/-- The entry of a header: its schema and its description under its name. -/
def entry (known : List Declaration) (header : Header) : Except Fault (String × Document) := do
  let schema ← header.schemaDocument known
  return (header.name, .object (("schema", schema) ::
    (header.description.map fun text => ("description", Document.string text)).toList))

end Header

namespace ResponseValue

/-- What stands under `content`: the content variants if there are any, and otherwise the body once
for each of its content types, or once for the one that its type suggests. -/
def contentEntries (known : List Declaration) (value : ResponseValue) :
    Except Fault (List (String × Document)) :=
  match value.content, value.body with
  | [], none => .ok []
  | [], some body => do
    let schema ← body.schemaDocument known
    let contentTypes := value.contentTypes.getD [body.defaultContentType]
    return contentTypes.map fun contentType =>
      (contentType, mediaObject schema value.sample value.examples)
  | variants, _ => variants.mapM (ContentVariant.entry known)

/-- What stands under `headers`.  They are in the order in which headers are given, with names that
may repeat. -/
def headerEntries (known : List Declaration) (value : ResponseValue) :
    Except Fault (List (String × Document)) :=
  value.headers.mapM (Header.entry known)

end ResponseValue

/-- A member that holds entries under their names, unless there are none.  A repeated name keeps its
first place and has its last value. -/
def entriesMember (key : String) (entries : List (String × Document)) : Members :=
  if entries.isEmpty then [] else [(key, .object (latest entries))]

/-- The object of a response described by its value.  This is what is meant, in terms of the
response alone; no chain and no builder occurs in it. -/
def ResponseValue.object (known : List Declaration) (value : ResponseValue) :
    Except Fault Document := do
  let content ← value.contentEntries known
  let headers ← value.headerEntries known
  return .object (("description", .string value.description) ::
    (entriesMember "content" content ++ entriesMember "headers" headers))

/-- The object of a response: a reference, what the look-up gives for a response to be inlined, or
the object of its value. -/
def Response.meaning {m : Type → Type} [Monad m] (known : List Declaration)
    (resolve : String → m Document) : Response → Except Fault (m Document)
  | .reference ⟨type, false⟩ =>
    .ok (pure (.object [("$ref", .string ("#/components/responses/" ++ type.name))]))
  | .reference ⟨type, true⟩ => .ok (resolve type.name)
  | .value said => pure <$> said.object known

/-! ### The calls of a response

A chain of calls for a body or a header, as a list, with everything that may be missing in it. -/

section Calls

variable (known : List Declaration)

/-- The calls between the opening and the closing call of a content chain. -/
def mediaCalls (schema : Document) (sample : Option Document) (examples : Option (List Example)) :
    Chain :=
  [.new, .call "schema" [.document schema]] ++
    (sample.map fun value => Instruction.call "example" [.document value]).toList ++
    (examples.map fun entries => Instruction.call "examples_from_iter"
      [.examples (entries.map fun entry => (entry.name, entry))]).toList ++ [.build]

/-- A content chain depends on its body through the schema alone. -/
theorem contentChain_eq (body : Body) (sample : Option Document)
    (examples : Option (List Example)) :
    contentChain known body sample examples =
      (fun schema => mediaCalls schema sample examples) <$> body.schemaDocument known := by
  rw [contentChain]
  cases body.schemaDocument known <;> rfl

/-- A content chain means the object of its body. -/
theorem contentObject_mediaCalls (schema : Document) (sample : Option Document)
    (examples : Option (List Example)) :
    contentObject (mediaCalls schema sample examples) = mediaObject schema sample examples := by
  have entries (list : List Example) :
      examplesObject (list.map fun entry => (entry.name, entry)) =
        .object (latest (list.map fun entry => (entry.name, entry.object))) := by
    rw [examplesObject, Document.ofMembers, ofList_eq_latest, List.map_map]
    rfl
  cases sample <;> cases examples <;>
    simp [contentObject, mediaCalls, mediaObject, contentMember, Instruction.new,
      Instruction.build, assign, entries]

/-- The calls of a header chain whose schema is known. -/
def headerCalls (header : Header) (schema : Document) : Chain :=
  (match header.type with
    | some _ => [.new, .call "schema" [.document schema]]
    | none => [.call "default" []]) ++
    (header.description.map fun text => Instruction.call "description" [.string text]).toList ++
      [.build]

private theorem headerChain_eq (header : Header) :
    headerChain known header = headerCalls header <$> header.schemaDocument known := by
  obtain ⟨name, type, description⟩ := header
  cases type with
  | none => rfl
  | some type =>
    rw [headerChain, Header.schemaDocument]
    cases schemaOf known type <;> rfl

/-- A header chain means the schema and the description of its header. -/
theorem headerObject_headerCalls (header : Header) {schema : Document}
    (given : header.schemaDocument known = .ok schema) :
    headerObject (headerCalls header schema) = .object (("schema", schema) ::
      (header.description.map fun text => ("description", Document.string text)).toList) := by
  obtain ⟨name, type, description⟩ := header
  cases type with
  | some type =>
    cases description <;>
      simp [headerObject, headerCalls, headerMember, Instruction.new, Instruction.build, assign,
        Argument.string]
  | none =>
    cases given
    cases description <;>
      simp [headerObject, headerCalls, headerMember, Instruction.build, assign, Argument.string]

/-! ### The chain of a response described by its value

Emission is brought into the form of a sequence of three parts: the description, the named calls for
content, and those for headers. -/

/-- The call that adds a chain under a name. -/
def namedCall (method : String) (entry : String × Chain) : Instruction :=
  .call method [.string entry.1, .chain entry.2]

/-- The chain of a header under its name. -/
def Header.namedChain (header : Header) : Except Fault (String × Chain) :=
  (fun schema => (header.name, headerCalls header schema)) <$> header.schemaDocument known

/-- The chain of a content variant under its content type. -/
def ContentVariant.namedChain (variant : ContentVariant) : Except Fault (String × Chain) :=
  (fun schema => (variant.contentType, mediaCalls schema variant.sample variant.examples)) <$>
    variant.body.schemaDocument known

/-- The chains of a body, one for each of its content types. -/
def ResponseValue.bodyChains (value : ResponseValue) (body : Body) :
    Except Fault (List (String × Chain)) :=
  (fun schema => (value.contentTypes.getD [body.defaultContentType]).map fun contentType =>
    (contentType, mediaCalls schema value.sample value.examples)) <$> body.schemaDocument known

/-- The chains that are added under `content`. -/
def ResponseValue.contentChains (value : ResponseValue) : Except Fault (List (String × Chain)) :=
  match value.content, value.body with
  | [], none => .ok []
  | [], some body => value.bodyChains known body
  | variants, _ => variants.mapM (ContentVariant.namedChain known)

private theorem variantCall_eq (variant : ContentVariant) :
    variantCall known variant = namedCall "content" <$> variant.namedChain known := by
  rw [variantCall, contentChain_eq, ContentVariant.namedChain]
  cases variant.body.schemaDocument known <;> rfl

private theorem ContentVariant.entry_eq (variant : ContentVariant) :
    variant.entry known = Prod.map id contentObject <$> variant.namedChain known := by
  rw [ContentVariant.entry, ContentVariant.namedChain]
  cases variant.body.schemaDocument known with
  | error fault => rfl
  | ok schema =>
    show Except.ok _ = Except.ok (variant.contentType, contentObject (mediaCalls schema _ _))
    rw [contentObject_mediaCalls]

private theorem headerCall_eq (header : Header) :
    headerCall known header = namedCall "header" <$> header.namedChain known := by
  rw [headerCall, headerChain_eq, Header.namedChain]
  cases header.schemaDocument known <;> rfl

private theorem Header.entry_eq (header : Header) :
    header.entry known = Prod.map id headerObject <$> header.namedChain known := by
  rw [Header.entry, Header.namedChain]
  cases given : header.schemaDocument known with
  | error fault => rfl
  | ok schema =>
    show Except.ok _ = Except.ok (header.name, headerObject (headerCalls header schema))
    rw [headerObject_headerCalls known header given]

private theorem variantCalls_eq (variants : List ContentVariant) :
    variants.mapM (variantCall known) =
      List.map (namedCall "content") <$> variants.mapM (ContentVariant.namedChain known) := by
  rw [← mapM_map_outcome]
  exact congrArg (List.mapM · _) (funext (variantCall_eq known))

private theorem headerCalls_eq (headers : List Header) :
    headers.mapM (headerCall known) =
      List.map (namedCall "header") <$> headers.mapM (Header.namedChain known) := by
  rw [← mapM_map_outcome]
  exact congrArg (List.mapM · _) (funext (headerCall_eq known))

private theorem bodyCalls_eq (value : ResponseValue) (body : Body) :
    bodyCalls known value body =
      List.map (namedCall "content") <$> value.bodyChains known body := by
  rw [bodyCalls, contentChain_eq, ResponseValue.bodyChains]
  cases body.schemaDocument known with
  | error fault => rfl
  | ok schema =>
    show Except.ok _ = Except.ok (List.map _ (List.map _ _))
    rw [List.map_map]
    rfl

/-- The calls of a response are those of its content and those of its headers. -/
theorem emitValue_eq (value : ResponseValue) :
    emitValue known value = (do
      let content ← value.contentChains known
      let headers ← value.headers.mapM (Header.namedChain known)
      return [.new, .call "description" [.string value.description]] ++
        content.map (namedCall "content") ++ headers.map (namedCall "header") ++ [.build]) := by
  rw [emitValue, headerCalls_eq, ResponseValue.contentChains]
  -- the body counts only where no content variant is given
  rcases value.body with _ | body <;> rcases value.content with _ | ⟨variant, rest⟩
  · cases value.headers.mapM (Header.namedChain known) <;> rfl
  · simp only [variantCalls_eq]
    cases (variant :: rest).mapM (ContentVariant.namedChain known) with
    | error fault => rfl
    | ok content => cases value.headers.mapM (Header.namedChain known) <;> rfl
  · simp only [bodyCalls_eq]
    cases value.bodyChains known body with
    | error fault => rfl
    | ok content => cases value.headers.mapM (Header.namedChain known) <;> rfl
  · simp only [variantCalls_eq]
    cases (variant :: rest).mapM (ContentVariant.namedChain known) with
    | error fault => rfl
    | ok content => cases value.headers.mapM (Header.namedChain known) <;> rfl

/-- Among the calls of a response those for content are the ones between its description and its
headers. -/
theorem filter_content {calls : Chain} (isContent : ∀ call ∈ calls, call.method = "content")
    (description : String) (headers : List (String × Chain)) :
    ([.new, .call "description" [.string description]] ++ calls ++
      headers.map (namedCall "header") ++ [.build] : Chain).filter (·.method == "content") =
        calls := by
  have opening : ([.new, .call "description" [.string description]] : Chain).filter
      (·.method == "content") = [] := rfl
  have closing : ([.build] : Chain).filter (·.method == "content") = [] := rfl
  have others : (headers.map (namedCall "header")).filter (·.method == "content") = [] := by
    simp [List.filter_map, Function.comp_def, namedCall, Instruction.method]
  have all : calls.filter (·.method == "content") = calls :=
    List.filter_eq_self.mpr fun call listed => beq_iff_eq.mpr (isContent call listed)
  rw [List.filter_append, List.filter_append, List.filter_append, opening, closing, others, all,
    List.nil_append, List.append_nil, List.append_nil]

/-- The entries of content are what the chains of content mean. -/
theorem ResponseValue.contentEntries_eq (value : ResponseValue) :
    value.contentEntries known =
      List.map (Prod.map id contentObject) <$> value.contentChains known := by
  rw [ResponseValue.contentEntries, ResponseValue.contentChains]
  have variants (list : List ContentVariant) : list.mapM (ContentVariant.entry known) =
      List.map (Prod.map id contentObject) <$> list.mapM (ContentVariant.namedChain known) := by
    rw [← mapM_map_outcome]
    exact congrArg (List.mapM · _) (funext (ContentVariant.entry_eq known))
  rcases value.body with _ | body <;> rcases value.content with _ | ⟨variant, rest⟩
  · rfl
  · exact variants _
  · simp only [ResponseValue.bodyChains]
    cases body.schemaDocument known with
    | error fault => rfl
    | ok schema =>
      show Except.ok _ = Except.ok (List.map _ (List.map _ _))
      rw [List.map_map]
      simp only [Function.comp_def, Prod.map, contentObject_mediaCalls]
      rfl
  · exact variants _

private theorem ResponseValue.headerEntries_eq (value : ResponseValue) :
    value.headerEntries known =
      List.map (Prod.map id headerObject) <$> value.headers.mapM (Header.namedChain known) := by
  rw [ResponseValue.headerEntries, ← mapM_map_outcome]
  exact congrArg (List.mapM · _) (funext (Header.entry_eq known))

end Calls

/-! ### Reading the calls

Each call changes the object at one key.  Calls with the same method follow each other, so what they
change is one member that is filled entry by entry. -/

/-- Adding entries one by one under a key that is not there yet adds one member with all of them. -/
theorem foldl_assignWithin {before : Members} {key : String}
    (absent : key ∉ before.map (·.1)) (entries : List (String × Document)) :
    entries.foldl (fun object entry => assignWithin object key entry.1 entry.2) before =
      before ++ entriesMember key entries := by
  -- once the member is there, every further entry is assigned inside it
  have within (inner : Members) (rest : List (String × Document)) :
      rest.foldl (fun object entry => assignWithin object key entry.1 entry.2)
        (before ++ [(key, .object inner)]) = before ++ [(key, .object (update inner rest))] := by
    induction rest generalizing inner with
    | nil => rfl
    | cons entry rest ih =>
      rw [List.foldl_cons, assignWithin, get?_append_self absent, Option.map_some,
        Option.getD_some, assign_append_self absent]
      exact ih _
  cases entries with
  | nil => simp [entriesMember]
  | cons entry rest =>
    rw [List.foldl_cons, assignWithin, get?_eq_none absent, Option.map_none, Option.getD_none,
      assign_of_not_mem absent, within, entriesMember, if_neg (by simp), ← ofList_eq_latest]
    rfl

/-- The object of the calls of a response. -/
theorem foldl_responseMember (description : String) (content headers : List (String × Chain)) :
    List.foldl responseMember [] ([.new, .call "description" [.string description]] ++
        content.map (namedCall "content") ++ headers.map (namedCall "header") ++ [.build]) =
      ("description", .string description) ::
        (entriesMember "content" (content.map (Prod.map id contentObject)) ++
          entriesMember "headers" (headers.map (Prod.map id headerObject))) := by
  have described : ([.new, .call "description" [.string description]] : Chain).foldl
      responseMember [] = [("description", .string description)] := rfl
  -- either kind of call assigns to one member of the response, whatever stands there already
  have assigned {method member : String} {objectOf : Chain → Document}
      (sets : ∀ object entry, responseMember object (namedCall method entry) =
        assignWithin object member entry.1 (objectOf entry.2))
      (entries : List (String × Chain)) (object : Members) :
      (entries.map (namedCall method)).foldl responseMember object =
        (entries.map (Prod.map id objectOf)).foldl
          (fun object entry => assignWithin object member entry.1 entry.2) object := by
    rw [List.foldl_map, List.foldl_map]
    simp only [sets, Prod.map_fst, Prod.map_snd, id_eq]
  rw [List.foldl_append, List.foldl_append, List.foldl_append, described,
    assigned (fun _ _ => rfl) content, foldl_assignWithin (by simp),
    assigned (fun _ _ => rfl) headers, foldl_assignWithin]
  · rfl
  · -- neither the description nor the content stands under `headers`
    rw [entriesMember]
    split <;> simp

/-- The calls that a value is turned into mean its object, however responses are looked up.  The
faults are the same too: both sides describe the content before the headers. -/
theorem responseObject_emitValue {m : Type → Type} [Monad m] [MonadExcept Fault m]
    (known : List Declaration) (resolve : String → m Document) (value : ResponseValue) :
    responseObject resolve <$> emitValue known value = pure <$> value.object known := by
  rw [emitValue_eq, ResponseValue.object, ResponseValue.contentEntries_eq,
    ResponseValue.headerEntries_eq]
  cases value.contentChains known with
  | error fault => rfl
  | ok content =>
    cases value.headers.mapM (Header.namedChain known) with
    | error fault => rfl
    | ok headers =>
      exact congrArg (fun members => Except.ok (pure (Document.object members)))
        (foldl_responseMember value.description content headers)

end OpenResponse
