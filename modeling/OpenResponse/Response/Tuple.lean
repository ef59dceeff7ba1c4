import OpenResponse.Response.Parts

/-!
# Response tuples

A response tuple lists the keys of one response between parentheses.  Its status is required, and a
key that names another response excludes all keys that describe a value.  Keys may come in any order
and be repeated; the last one counts.

The keys of a tuple are a table of handlers.  A handler gets the place of its key and the draft that
was made so far, and may refuse its key because of what is in the draft; so the conflict between a
reference and a value is found at the second of the two keys, whichever it is.

## Main definitions

* `TupleDraft`: what has been read of a tuple.
* `Parser.responseTuple`: a tuple at the front of a stream.
* `readResponseTuple`: a tuple that is a text of its own.
* `readResponses`: the entries of a list of responses.

## Design notes

The draft keeps whether any key of a value was read, not just what it set, because a key that sets
something empty makes a reference as impossible as any other.

The body refuses its key before its value is read and again after it.  The second refusal can never
happen, but the two are one function, which also changes the draft.

A missing status is found at the end of the tuple and reported at its beginning.
-/

namespace OpenResponse

/-- What has been read of a response tuple. -/
structure TupleDraft where
  /-- The status. -/
  status : Option String
  /-- What the keys of a value have set. -/
  value : Option ResponseValue
  /-- The response that is referred to. -/
  reference : Option InlineType
deriving Repr, Inhabited

namespace TupleDraft

/-- The draft of a tuple of which nothing has been read. -/
def empty : TupleDraft := ⟨none, none, none⟩

/-- The descriptor of a draft. -/
def descriptor (draft : TupleDraft) : ResponseDescriptor :=
  match draft.reference with
  | some type => ⟨draft.status, .reference type⟩
  | none => ⟨draft.status, .value (draft.value.getD .empty)⟩

end TupleDraft

namespace Parser

/-- Change the value of a draft, which must not refer to another response.  `location` is that of
the key. -/
def changeValue (location : Location) (draft : TupleDraft)
    (change : ResponseValue → ResponseValue) : Parser TupleDraft := do
  if draft.reference.isSome then throw (.found location .referenceWithValue)
  return { draft with value := some (change (draft.value.getD .empty)) }

/-- A key that reads its value first and then sets it. -/
def valueKey {α : Type} (read : Parser α) (set : α → ResponseValue → ResponseValue) :
    KeyHandler TupleDraft :=
  fun location draft => do changeValue location draft (set (← read))

/-- The body, whose key is refused before its value is read. -/
def bodyKey : KeyHandler TupleDraft := fun location draft => do
  let draft ← changeValue location draft id
  let _ ← expect .equals
  let body ← bodyType
  changeValue location draft fun value => { value with body := some body }

/-- The response that is referred to. -/
def referenceKey : KeyHandler TupleDraft := fun location draft => do
  let _ ← expect .equals
  let type ← inlineType
  if draft.value.isSome then throw (.found location .referenceWithValue)
  return { draft with reference := some type }

/-- A status behind an equals sign. -/
def assignedStatus : Parser String := do
  let _ ← expect .equals
  status

/-- The keys of a response tuple. -/
def tupleKeys : List (String × KeyHandler TupleDraft) := [
  ("status", fun _ draft => do return { draft with status := some (← assignedStatus) }),
  ("description", valueKey assignedString fun text value => { value with description := text }),
  ("body", bodyKey),
  ("content_type", valueKey contentTypes fun types value =>
    { value with contentTypes := some types }),
  ("headers", valueKey headers fun headers value => { value with headers := headers }),
  ("example", valueKey exampleValue fun sample value => { value with sample := some sample }),
  ("examples", valueKey examples fun examples value =>
    { value with examples := some examples }),
  ("content", valueKey content fun content value => { value with content := content }),
  ("response", referenceKey)]

/-- A response tuple. -/
def responseTuple : Parser ResponseDescriptor := do
  let opening ← expectAs .openParen "`(` opening response tuple"
  let draft ← keyed .closeParen tupleKeys .empty
  if draft.status.isNone then failAt opening .statusMissing
  let _ ← expect .closeParen
  return draft.descriptor

/-- An entry of a list of responses. -/
def responseEntry : Parser ResponseEntry := do
  if (← peek).kind == .openParen then return .single (← responseTuple)
  else return .allOf (← typeRef).text

/-- The entries up to the end of the input, with a budget of tokens. -/
def responseEntriesWithin : Nat → Parser (List ResponseEntry)
  | 0 => return []
  | budget + 1 => do
    if ← atEnd then return []
    let entry ← responseEntry
    unless ← atEnd do
      let _ ← expectAs .comma "`,` or end of input"
    return entry :: (← responseEntriesWithin budget)

/-- The entries up to the end of the input. -/
def responseEntries : Parser (List ResponseEntry) := do
  responseEntriesWithin (← remaining)

end Parser

/-- A response tuple that is a text of its own. -/
def readResponseTuple (origin : Location) (text : String) : Except Fault ResponseDescriptor :=
  Parser.responseTuple.runOnAll origin text

/-- The entries of a list of responses that is a text of its own. -/
def readResponses (origin : Location) (text : String) : Except Fault (List ResponseEntry) :=
  Parser.responseEntries.runOn origin text

end OpenResponse
