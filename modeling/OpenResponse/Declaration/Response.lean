import OpenResponse.Declaration.Shape
import OpenResponse.Response.Details
import OpenResponse.Schema

/-!
# Responses of declarations

A declaration can be one response, or one response for each of its variants.  Its shape gives the
body, its documentation the description, and its attributes everything else; what an attribute
says goes before what the declaration itself suggests.

Both kinds of responses are put together from the same parts.  Where they differ is in what is
missing: a declaration that is one response may be without attributes, while each response of a list
must have a status, and hence an attribute.

## Main definitions

* `foldAttributes`: the attributes of a response, merged.
* `Declaration.response`: the response that a declaration is.
* `Declaration.responses`: the responses that a declaration lists, each with its status.

## Design notes

The order in which faults are found is part of what is written here.  For a single response the
shape comes first, then the attributes of variants, and the attributes of the declaration itself at
the end, since the response is created when the body is known.  For a list the attributes of each
response come before its fields.

A response of a list may be a reference to another response.  It can have a status then and nothing
else; an empty description and an empty group of headers count as nothing given.
-/

namespace OpenResponse

/-! ### Merging attributes

All attributes are read before any are merged, so the first one that cannot be read is the fault,
whatever the others say. -/

/-- Read every response attribute and merge them from left to right. -/
def foldAttributes {α : Type} (read : Location → String → Except Fault α) (merge : α → α → α)
    (attributes : List Attribute) : Except Fault (Option α) := do
  let values ← (attributes.filter (·.name == "response")).mapM fun attr =>
    read attr.location attr.arguments
  match values with
  | [] => return none
  | first :: rest => return some (rest.foldl merge first)

/-- What attributes say of a response. -/
def mergedDetails (attributes : List Attribute) : Except Fault (Option Details) :=
  foldAttributes readDetails Details.merge attributes

/-- What attributes say of a response, with its status. -/
def mergedStatusDetails (attributes : List Attribute) :
    Except Fault (Option StatusDetails) :=
  foldAttributes readStatusDetails StatusDetails.merge attributes

/-- The value of a response with a body, a description unless the attribute gives one, and content
of its own. -/
def Details.responseValue (details : Details) (description : String) (body : Option Body)
    (content : List ContentVariant) : ResponseValue where
  description := if details.description.isEmpty then description else details.description
  body := body
  contentTypes := details.contentTypes
  headers := details.headers
  sample := details.sample
  examples := details.examples
  content := content

/-! ### Declarations that are one response

A variant contributes content if its first field is tagged with a content type.  With two or more
such variants the enum as a whole has no schema. -/

namespace Parser

/-- A content type and nothing else. -/
def contentTag : Parser String := do
  let contentType ← expectAs .string "string literal content type"
  expectEnd
  return contentType.value

end Parser

/-- The content type that a field is tagged with. -/
def Field.contentTag (field : Field) : Except Fault (Option String) :=
  match findAttribute field.attributes "content" with
  | none => .ok none
  | some attr => do
    return some (← Parser.contentTag.runOn attr.location attr.arguments)

/-- The body of a field that stands for the whole. -/
def Field.body (field : Field) : Except Fault Body := do
  return .typed ⟨← field.type, hasAttribute field.attributes "to_schema"⟩

/-- The content of a variant whose first field is tagged.  Its attributes are read in any case. -/
def Variant.content? (variant : Variant) : Except Fault (Option ContentVariant) := do
  let details ← mergedDetails variant.attributes
  match variant.fields.head? with
  | none => return none
  | some field =>
    match ← field.contentTag with
    | none => return none
    | some contentType =>
      let body ← field.body
      return some ⟨contentType, body, details.bind (·.sample), details.bind (·.examples)⟩

/-- The example that a whole enum may not have when its variants have content, and where it is. -/
def Details.enumExample? (details : Details) : Option (ExampleKey × Option Location) :=
  if details.sample.isSome then some (.single, details.sampleAt)
  else if details.examples.isSome then some (.several, details.examplesAt)
  else none

/-- The response of a declaration with a body and content of its own. -/
def createResponse (declaration : Declaration) (body : Option Body)
    (content : List ContentVariant) : Except Fault ResponseDescriptor := do
  let details := (← mergedDetails declaration.attributes).getD .empty
  if !content.isEmpty then
    if let some (key, location) := details.enumExample? then
      throw ⟨.enumLevelExample key, location⟩
  return ⟨none, .value (details.responseValue declaration.description body content)⟩

/-- The response that a declaration is.  An enum with several tagged variants has their content
only; any other has the schema of the whole as its body. -/
def Declaration.response (declaration : Declaration) : Except Fault ResponseDescriptor := do
  match ← declaration.shape with
  | .newtype type attributes =>
    createResponse declaration (some (.typed ⟨type, hasAttribute attributes "to_schema"⟩)) []
  | .record type _ =>
    let schema ← declarationSchema declaration
    createResponse declaration (some (.schema schema type)) []
  | .unit => createResponse declaration none []
  | .enum type variants =>
    let content := (← variants.mapM Variant.content?).filterMap id
    if content.length ≤ 1 then
      let schema ← declarationSchema declaration
      createResponse declaration (some (.schema schema type)) content
    else createResponse declaration none content

/-! ### Declarations that list responses

A variant is a response by its own attributes and fields.  What stands for the whole is a field of a
tuple, or the object of named fields. -/

/-- The response that a field stands for: another response, or a body. -/
def Field.responseBody (field : Field) : Except Fault (InlineType ⊕ Body) := do
  if hasAttribute field.attributes "ref_response" then
    return .inl ⟨← field.type, false⟩
  else if hasAttribute field.attributes "to_response" then
    return .inl ⟨← field.type, true⟩
  else
    return .inr (← field.body)

/-- Whether an attribute describes a value: it gives something that is not empty. -/
def Details.describesValue (details : Details) : Bool :=
  !details.description.isEmpty || !details.headers.isEmpty ||
    details.contentTypes.isSome || details.sample.isSome || details.examples.isSome

/-- The response of attributes over what a declaration or variant at `location` contains. -/
def statusResponse (value : StatusDetails) (description : String)
    (contents : Option (InlineType ⊕ Body)) (location : Location) :
    Except Fault ResponseDescriptor :=
  match contents with
  | some (.inl type) =>
    if value.details.describesValue then .error (.found location .referenceWithValue)
    else .ok ⟨some value.status, .reference type⟩
  | some (.inr body) =>
    .ok ⟨some value.status, .value (value.details.responseValue description (some body) [])⟩
  | none =>
    .ok ⟨some value.status, .value (value.details.responseValue description none [])⟩

/-- The attributes of a response that must have a status. -/
def requiredStatus (attributes : List Attribute) (location : Location) :
    Except Fault StatusDetails := do
  match ← mergedStatusDetails attributes with
  | some value => return value
  | none => throw (.found location .statusAttributeMissing)

/-- The response of one variant. -/
def Variant.response (type : TypeRef) (variant : Variant) : Except Fault ResponseDescriptor := do
  let value ← requiredStatus variant.attributes variant.location
  let contents ←
    match variant.isTuple, variant.fields with
    | _, [] => pure none
    | true, [field] => some <$> field.responseBody
    | true, _ => throw (.found variant.location .wideTupleShape)
    | false, fields => do
      let schema ← recordSchema fields variant.docs
      pure (some (.inr (.schema schema type)))
  statusResponse value (joinLines variant.docs) contents variant.location

/-- The responses that a declaration lists: those of its variants, or its only one. -/
def Declaration.responses (declaration : Declaration) :
    Except Fault (List ResponseDescriptor) := do
  match ← declaration.shape with
  | .enum _ variants => variants.mapM (Variant.response declaration.type)
  | .newtype _ _ =>
    let value ← requiredStatus declaration.attributes declaration.location
    let contents ← declaration.fields.head?.mapM Field.responseBody
    return [← statusResponse value declaration.description contents declaration.location]
  | .record type _ =>
    let value ← requiredStatus declaration.attributes declaration.location
    let schema ← declarationSchema declaration
    return [← statusResponse value declaration.description (some (.inr (.schema schema type)))
      declaration.location]
  | .unit =>
    let value ← requiredStatus declaration.attributes declaration.location
    return [← statusResponse value declaration.description none declaration.location]

end OpenResponse
