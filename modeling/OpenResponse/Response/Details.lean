import OpenResponse.Response.Tuple

/-!
# Response attributes of declarations

A declaration or variant says of its response what its attributes list.  Several attributes are
merged from left to right: a later one overrides what it gives and leaves alone what it does not.

Merging has two halves that look alike.  A field of the later attribute takes the place of that of
the earlier one if it is there, where for some fields being there means not being absent, and for
others not being empty.  The difference comes from how the fields are read: a key always sets
something, but a missing description or a missing group of headers is kept as an empty one.

## Main definitions

* `readDetails`: an attribute of a declaration that is one response.
* `readStatusDetails`: an attribute that also gives the status.
* `Details.merge`, `StatusDetails.merge`: a later attribute over an earlier one.

## Design notes

The keys of an attribute with a status are those of one without, lifted to a pair, and the status.
So a key is described once, and the laws for reading keys are proved once for both.

The status of a merged attribute is that of the later one, as each attribute has one.
-/

namespace OpenResponse

namespace Parser

/-- A handler for a part of a state. -/
def KeyHandler.onPart {σ τ : Type} (get : σ → τ) (set : τ → σ → σ) (handler : KeyHandler τ) :
    KeyHandler σ :=
  fun location state => do return set (← handler location (get state)) state

/-- The keys of an attribute. -/
def detailKeys : List (String × KeyHandler Details) := [
  ("description", fun _ details => do
    return { details with description := ← assignedString }),
  ("content_type", fun _ details => do
    return { details with contentTypes := some (← contentTypes) }),
  ("headers", fun _ details => do return { details with headers := ← headers }),
  ("example", fun location details => do
    return { details with sample := some (← exampleValue), sampleAt := some location }),
  ("examples", fun location details => do
    return { details with examples := some (← examples), examplesAt := some location })]

/-- The keys of an attribute that also gives the status. -/
def statusDetailKeys : List (String × KeyHandler (Option String × Details)) :=
  ("status", fun _ state => do return (some (← assignedStatus), state.2)) ::
    detailKeys.map fun (key, handler) =>
      (key, handler.onPart (·.2) fun details state => (state.1, details))

/-- An attribute up to the end of the input. -/
def details : Parser Details := keyed .endOfInput detailKeys .empty

/-- An attribute that gives the status, up to the end of the input. -/
def statusDetails : Parser StatusDetails := do
  let first ← peek
  let (status, details) ← keyed .endOfInput statusDetailKeys (none, .empty)
  match status with
  | some status => return ⟨status, details⟩
  | none => failAt first .statusMissing

end Parser

/-- What an attribute says. -/
def readDetails (origin : Location) (text : String) : Except Fault Details :=
  Parser.details.runOn origin text

/-- What an attribute says that also gives the status. -/
def readStatusDetails (origin : Location) (text : String) : Except Fault StatusDetails :=
  Parser.statusDetails.runOn origin text

/-- A later attribute over an earlier one.  An absent value and an empty list of headers or
description leave the earlier value in place. -/
def Details.merge (earlier later : Details) : Details where
  contentTypes := later.contentTypes.or earlier.contentTypes
  headers := if later.headers.isEmpty then earlier.headers else later.headers
  description := if later.description.isEmpty then earlier.description else later.description
  sample := later.sample.or earlier.sample
  examples := later.examples.or earlier.examples
  sampleAt := if later.sample.isSome then later.sampleAt else earlier.sampleAt
  examplesAt := if later.examples.isSome then later.examplesAt else earlier.examplesAt

/-- A later attribute over an earlier one; the status is always that of the later one. -/
def StatusDetails.merge (earlier later : StatusDetails) : StatusDetails where
  status := later.status
  details := earlier.details.merge later.details

end OpenResponse
