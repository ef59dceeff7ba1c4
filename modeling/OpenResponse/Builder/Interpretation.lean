import OpenResponse.Builder
import OpenResponse.Fault

/-!
# The meaning of a chain

A chain means a document of the OpenAPI format: a response chain a response object, a chain of
responses a map from statuses to response objects.  Calls without a meaning there are passed over,
and a key that is set twice keeps its first place and takes its last value.  Responses that are to
be inlined and lists that are to be expanded are looked up by the caller.

Interpretation only looks at the chain.  It knows the calls by their methods and the form of their
arguments, and a call that has another form is passed over like an unknown one.  The caller gives
two functions, one for responses that are to be inlined and one for lists that are to be expanded,
and with them the effects that looking up may have.

## Main definitions

* `contentObject`, `headerObject`: the objects of nested chains.
* `responseObject`: the object of a response chain.
* `responsesObject`: the object of a chain of responses.

## Design notes

A chain of responses is interpreted from left to right with the map that was made so far.  Assigning
a status that is there keeps its place, as for all objects, so the order of the map is that of the
first calls.

The monad is a parameter.  Compilation uses one with memory, and the laws about what compilation
comes to use one without.
-/

namespace OpenResponse

/-- The object of a named example. -/
def Example.object (entry : Example) : Document :=
  let texts (key : String) (text : Option String) : Members :=
    (text.map fun text => (key, Document.string text)).toList
  .object (texts "summary" entry.summary ++ texts "description" entry.description ++
    (entry.value.map fun value => ("value", value)).toList ++
    texts "externalValue" entry.externalValue)

/-- The object of named examples; of two with the same name the later one counts. -/
def examplesObject (entries : List (String × Example)) : Document :=
  .ofMembers (entries.map fun (name, entry) => (name, entry.object))

/-- What one call adds to a content object. -/
def contentMember (object : Members) : Instruction → Members
  | .call "schema" (.document schema :: _) => Ordered.assign object "schema" schema
  | .call "example" (.document value :: _) => Ordered.assign object "example" value
  | .call "examples_from_iter" (.examples entries :: _) =>
    Ordered.assign object "examples" (examplesObject entries)
  | _ => object

/-- The object of a content chain. -/
def contentObject (chain : Chain) : Document := .object (chain.foldl contentMember [])

/-- What one call adds to a header object. -/
def headerMember (object : Members) : Instruction → Members
  | .call "schema" (.document schema :: _) => Ordered.assign object "schema" schema
  | .call "default" _ => Ordered.assign object "schema" (.object [("type", .string "string")])
  | .call "description" (.document text :: _) => Ordered.assign object "description" text
  | _ => object

/-- The object of a header chain. -/
def headerObject (chain : Chain) : Document := .object (chain.foldl headerMember [])

/-- Assign a member of the object under a key, which is added if it is missing. -/
def assignWithin (object : Members) (key name : String) (value : Document) : Members :=
  let inner := ((Ordered.get? object key).map Document.members).getD []
  Ordered.assign object key (.object (Ordered.assign inner name value))

/-- What one call adds to a response object. -/
def responseMember (object : Members) : Instruction → Members
  | .call "description" (.document text :: _) => Ordered.assign object "description" text
  | .call "content" [.document (.string contentType), .chain content] =>
    assignWithin object "content" contentType (contentObject content)
  | .call "header" [.document (.string name), .chain header] =>
    assignWithin object "headers" name (headerObject header)
  | _ => object

section

variable {m : Type → Type} [Monad m] [MonadExcept Fault m]

/-- The object of a response chain, given how responses to be inlined are looked up. -/
def responseObject (resolve : String → m Document) (chain : Chain) : m Document :=
  match chain with
  | [] => throw (.nowhere .emptyChain)
  | .call "ref_from_response_name" (.document (.string name) :: _) :: _ =>
    return .object [("$ref", .string ("#/components/responses/" ++ name))]
  | .call "inline_response" (.document (.string name) :: _) :: _ => resolve name
  | instructions => return .object (instructions.foldl responseMember [])

/-- What one call adds to a map of responses. -/
def responsesMember (resolve : String → m Document) (expand : String → m Document)
    (responses : Members) : Instruction → m Members
  | .call "response" [.document (.string status), .chain response] => do
    return Ordered.assign responses status (← responseObject resolve response)
  | .call "responses_from_into_responses" (.document (.string path) :: _) => do
    return Ordered.update responses (← expand path).members
  | _ => return responses

/-- The object of a chain of responses, given how responses to be inlined and lists to be expanded
are looked up. -/
def responsesObject (resolve : String → m Document) (expand : String → m Document)
    (chain : Chain) : m Document := do
  return .object (← chain.foldlM (responsesMember resolve expand) [])

/-- The look-up of responses to be inlined where none are known. -/
def noResponses (name : String) : m Document := throw (.nowhere (.inlineWithoutResolver name))

/-- The look-up of lists to be expanded where none are known. -/
def noLists (path : String) : m Document := throw (.nowhere (.expandWithoutTypes path))

end

end OpenResponse
