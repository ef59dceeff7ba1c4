import OpenResponse.Document.Literal
import OpenResponse.Response
import OpenResponse.TypeRef.Parser

/-!
# Reading the parts of a response

The parts that response tuples and attributes of declarations have in common: content types, bodies,
headers, named examples and content by content type.  An equals sign in front of a group in
parentheses is optional.

Every part is read by the elementary readers for lists and keys, so that a part is given by its
brackets, its keys and what each key sets.  A key that is repeated sets its field again; the keys of
a part are a table, and the message for a key that is not in it lists the table.

## Main definitions

* `Parser.contentTypes`, `Parser.bodyType`, `Parser.headers`, `Parser.examples`, `Parser.content`.

## Design notes

A reference in the place of a body is `ref(..)` with a string.  A type of that name is not shadowed
by it, because the parenthesis belongs to the mark: a word without one is a type.

What a part is without some of its keys is not the same as what it is with empty ones, so the fields
that a key sets are optional wherever the difference can be seen later.
-/

namespace OpenResponse

namespace Parser

/-- A body: a reference, or a type that may be marked to be written out. -/
def bodyType : Parser Body := do
  if ← atWordBefore "ref" .openParen then
    let _ ← next
    let _ ← next
    let target ← expectAs .string "string literal reference"
    let _ ← expectAs .closeParen "`)` closing `ref(`"
    return .reference target.value
  else
    return .typed (← inlineType)

/-- One content type or a list of them, behind an equals sign. -/
def contentTypes : Parser (List String) := do
  let _ ← expect .equals
  let token ← peek
  match token.kind with
  | .string =>
    let _ ← next
    return [token.value]
  | .openBracket =>
    let _ ← next
    separated .closeBracket "`,` or `]`" (do return (← expect .string).value)
  | _ => failExpected "string literal or `[`"

/-- The description of a header, if a key follows. -/
def headerDescription : Parser (Option String) := do
  if (← eat .comma).isSome then
    if (← peek).kind == .identifier then
      let key ← next
      unless key.value == "description" do failAt key (.unknownHeaderKey key.value)
      let description ← assignedString
      let _ ← eat .comma
      return some description
  return none

/-- A header between parentheses. -/
def header : Parser Header := do
  let _ ← expect .openParen
  let name ← expectAs .string "string literal header name"
  let type ← if (← eat .equals).isSome then some <$> inlineType else pure none
  let description ← headerDescription
  let _ ← expectAs .closeParen "`)` closing header"
  return ⟨name.value, type, description⟩

/-- A group of headers. -/
def headers : Parser (List Header) := do
  let _ ← eat .equals
  group header

/-- What the keys of a named example set. -/
def exampleKeys : List (String × KeyHandler Example) := [
  ("summary", fun _ entry => do return { entry with summary := some (← assignedString) }),
  ("description", fun _ entry => do
    return { entry with description := some (← assignedString) }),
  ("value", fun _ entry => do return { entry with value := some (← exampleValue) }),
  ("external_value", fun _ entry => do
    return { entry with externalValue := some (← assignedString) })]

/-- A named example between parentheses. -/
def namedExample : Parser Example := do
  let _ ← expect .openParen
  let name ← expectAs .string "string literal example name"
  let _ ← expect .equals
  let _ ← expect .openParen
  let entry ← keyed .closeParen exampleKeys ⟨name.value, none, none, none, none⟩
  let _ ← expect .closeParen
  let _ ← eat .comma
  let _ ← expectAs .closeParen "`)` closing example"
  return entry

/-- A group of named examples. -/
def examples : Parser (List Example) := do
  let _ ← eat .equals
  group namedExample

/-- What the keys of a content variant set. -/
def variantKeys : List (String × KeyHandler ContentVariant) := [
  ("example", fun _ variant => do return { variant with sample := some (← exampleValue) }),
  ("examples", fun _ variant => do return { variant with examples := some (← examples) })]

/-- A content variant between parentheses. -/
def contentVariant : Parser ContentVariant := do
  let _ ← expect .openParen
  let contentType ← expectAs .string "string literal content type"
  let _ ← expect .equals
  let variant : ContentVariant := ⟨contentType.value, ← bodyType, none, none⟩
  let variant ←
    if (← eat .comma).isSome then keyed .closeParen variantKeys variant else pure variant
  let _ ← expectAs .closeParen "`)` closing content"
  return variant

/-- A group of content variants. -/
def content : Parser (List ContentVariant) := do
  let _ ← eat .equals
  group contentVariant

end Parser

end OpenResponse
