import OpenResponse.Document
import OpenResponse.Location
import OpenResponse.TypeRef

/-!
# Responses

A response is described either by its value, with bodies, headers and examples, or by reference to
another response.  What was not written stays apart from what was written empty: an absent list of
content types is not an empty one.

The records hold what was written and what was made of it.  A body, for one, may be a type as it was
written in a tuple, or a schema that has been made from a declaration; from there on both are
treated alike.

## Main definitions

* `Example`, `Header`, `Body`, `ContentVariant`: the parts of a response.
* `ResponseValue`: a response described by its value.
* `Response`, `ResponseDescriptor`: a response of either sort, and one under a status.
* `ResponseEntry`: an entry of a list of responses.
* `Details`, `StatusDetails`: what an attribute of a declaration says of its response.

## Design notes

Some fields that might be one are two, because they are filled by different keys: an example and
named examples do not exclude each other, and neither do a body and content given type by type.
What excludes what is decided where keys are read, so that the records themselves have no invalid
states to be ruled out.

The places of examples are kept in details and nowhere else.  They are needed for one fault that is
found after all attributes have been merged.
-/

namespace OpenResponse

/-- A named example.  Nothing but the name has to be there, and an example may have both a value and
an address. -/
structure Example where
  /-- The name. -/
  name : String
  /-- A short text. -/
  summary : Option String
  /-- A long text. -/
  description : Option String
  /-- The example itself. -/
  value : Option Document
  /-- Where the example can be found instead. -/
  externalValue : Option String
deriving Repr, Inhabited

/-- A header of a response.  One without a type is a plain string. -/
structure Header where
  /-- The name. -/
  name : String
  /-- The type of its value. -/
  type : Option InlineType
  /-- What it is for. -/
  description : Option String
deriving Repr, Inhabited

/-- What a response contains.  Only the last form brings a schema along; for the other two it is
made when the response is emitted. -/
inductive Body
  /-- The schema found at a reference. -/
  | reference (target : String)
  /-- A value of a type. -/
  | typed (type : InlineType)
  /-- A value with a schema of its own, made for the given type. -/
  | schema (document : Document) (type : TypeRef)
deriving Repr, Inhabited

/-- A body for one content type, with examples of its own. -/
structure ContentVariant where
  /-- The content type. -/
  contentType : String
  /-- The body. -/
  body : Body
  /-- An example. -/
  sample : Option Document
  /-- Named examples. -/
  examples : Option (List Example)
deriving Repr, Inhabited

/-- A response described by its value.  Whether something is missing or empty is told apart where
the two are emitted differently. -/
structure ResponseValue where
  /-- What the response means. -/
  description : String
  /-- What it contains, if anything. -/
  body : Option Body
  /-- The content types of the body, if they are given. -/
  contentTypes : Option (List String)
  /-- The headers. -/
  headers : List Header
  /-- An example of the body. -/
  sample : Option Document
  /-- Named examples of the body. -/
  examples : Option (List Example)
  /-- Bodies for content types one by one. -/
  content : List ContentVariant
deriving Repr, Inhabited

/-- A response of which nothing is said. -/
def ResponseValue.empty : ResponseValue := ⟨"", none, none, [], none, none, []⟩

/-- A response by reference or by value.  By reference nothing else can be said, which is why this
form has no fields beside the type. -/
inductive Response
  | reference (type : InlineType)
  | value (value : ResponseValue)
deriving Repr, Inhabited

/-- A response and the status it belongs to, if it is known. -/
structure ResponseDescriptor where
  /-- The status. -/
  status : Option String
  /-- The response. -/
  response : Response
deriving Repr, Inhabited

/-- An entry of a list of responses: a response of its own, or all those of a type. -/
inductive ResponseEntry
  | single (descriptor : ResponseDescriptor)
  | allOf (path : String)
deriving Repr, Inhabited

/-- What an attribute of a declaration or of a variant says of its response. -/
structure Details where
  /-- The content types. -/
  contentTypes : Option (List String)
  /-- The headers. -/
  headers : List Header
  /-- The description. -/
  description : String
  /-- The example. -/
  sample : Option Document
  /-- The named examples. -/
  examples : Option (List Example)
  /-- Where the example is written. -/
  sampleAt : Option Location
  /-- Where the named examples are written. -/
  examplesAt : Option Location
deriving Repr, Inhabited

/-- An attribute that says nothing. -/
def Details.empty : Details := ⟨none, [], "", none, none, none, none⟩

/-- What an attribute says that also gives the status of its response. -/
structure StatusDetails where
  /-- The status. -/
  status : String
  /-- The rest. -/
  details : Details
deriving Repr, Inhabited

end OpenResponse
