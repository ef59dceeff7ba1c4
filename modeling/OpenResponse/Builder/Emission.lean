import OpenResponse.Builder
import OpenResponse.Schema

/-!
# Emission

A response becomes a chain of builder calls: the description, one call for each content type, one
for each header.  Content given type by type takes the place of the body.  A response by reference
is a single call.

Emission decides everything that depends on types: which schema a body has, and under which content
type it stands if none is given.  The order of the calls is fixed, and so is their number: a content
type that is given twice gives two calls, and no call is left out because a later one will take its
place.

## Main definitions

* `emitResponse`: the chain of a response.
* `emitResponses`: the chain of a list of responses.

## Design notes

A body and content of its own are not both emitted.  Content goes first, also if it is a single
variant, and the body then does not matter; an empty list of variants is the same as none.

The declarations that are known come in as a list and are only looked at for types that are to be
written out.  So a chain does not depend on them if no type is marked.
-/

namespace OpenResponse

/-- The content type of a body that can only be looked up. -/
def referenceContentType : String := "application/json"

namespace Body

/-- The schema of a body. -/
def schemaDocument (known : List Declaration) : Body → Except Fault Document
  | .reference target => .ok (.object [("$ref", .string target)])
  | .typed type => schemaOf known type
  | .schema document _ => .ok document

/-- The content type of a body for which none is given. -/
def defaultContentType : Body → String
  | .reference _ => referenceContentType
  | .typed type => OpenResponse.defaultContentType type.type
  | .schema _ type => OpenResponse.defaultContentType type

end Body

/-- The chain of a body with its examples. -/
def contentChain (known : List Declaration) (body : Body) (sample : Option Document)
    (examples : Option (List Example)) : Except Fault Chain := do
  let schema ← body.schemaDocument known
  let sampleCall := sample.map fun value => Instruction.call "example" [.document value]
  let examplesCall := examples.map fun entries =>
    Instruction.call "examples_from_iter" [.examples (entries.map fun entry => (entry.name, entry))]
  return [.new, .call "schema" [.document schema]] ++ sampleCall.toList ++ examplesCall.toList ++
    [.build]

/-- The chain of a header. -/
def headerChain (known : List Declaration) (header : Header) : Except Fault Chain := do
  let opening ←
    match header.type with
    | some type => do
      let schema ← schemaOf known type
      pure [Instruction.new, .call "schema" [.document schema]]
    | none => pure [.call "default" []]
  let description :=
    header.description.map fun text => Instruction.call "description" [.string text]
  return opening ++ description.toList ++ [.build]

/-- The calls for the body of a response: the same content once for each content type. -/
def bodyCalls (known : List Declaration) (value : ResponseValue) (body : Body) :
    Except Fault Chain := do
  let content ← contentChain known body value.sample value.examples
  let contentTypes := value.contentTypes.getD [body.defaultContentType]
  return contentTypes.map fun contentType => .call "content" [.string contentType, .chain content]

/-- The call for one content variant. -/
def variantCall (known : List Declaration) (variant : ContentVariant) :
    Except Fault Instruction := do
  let content ← contentChain known variant.body variant.sample variant.examples
  return .call "content" [.string variant.contentType, .chain content]

/-- The call for one header. -/
def headerCall (known : List Declaration) (header : Header) : Except Fault Instruction := do
  return .call "header" [.string header.name, .chain (← headerChain known header)]

/-- The chain of a response described by its value. -/
def emitValue (known : List Declaration) (value : ResponseValue) : Except Fault Chain := do
  let content ←
    match value.body, value.content with
    | some body, [] => bodyCalls known value body
    | _, variants => variants.mapM (variantCall known)
  let headers ← value.headers.mapM (headerCall known)
  return [.new, .call "description" [.string value.description]] ++ content ++ headers ++ [.build]

/-- The chain of a response.  A reference is a single call with the name of its type; the arguments
and the path of the type do not matter. -/
def emitResponse (known : List Declaration) (response : Response) : Except Fault Chain :=
  match response with
  | .reference ⟨type, true⟩ => .ok [.call "inline_response" [.string type.name]]
  | .reference ⟨type, false⟩ => .ok [.call "ref_from_response_name" [.string type.name]]
  | .value value => emitValue known value

/-- A status as an argument.  A response that is not in a list may be without one. -/
def statusArgument (status : Option String) : Argument :=
  .document ((status.map Document.string).getD .null)

/-- The call for an entry of a list of responses. -/
def entryCall (known : List Declaration) : ResponseEntry → Except Fault Instruction
  | .allOf path => .ok (.call "responses_from_into_responses" [.string path])
  | .single descriptor => do
    let chain ← emitResponse known descriptor.response
    return .call "response" [statusArgument descriptor.status, .chain chain]

/-- The chain of a list of responses. -/
def emitResponses (known : List Declaration) (entries : List ResponseEntry) :
    Except Fault Chain := do
  return [.new] ++ (← entries.mapM (entryCall known)) ++ [.build]

end OpenResponse
