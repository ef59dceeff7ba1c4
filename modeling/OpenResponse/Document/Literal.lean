import OpenResponse.Document
import OpenResponse.Number.Decimal
import OpenResponse.Status

/-!
# Documents in attributes

An attribute writes a document with the literals of the language it stands in: integers of any
base, floats with a suffix, all forms of string literals.  Objects and arrays may end in a comma.

Values of examples come in two grammars.  By themselves they are strings, numbers and truth values;
between the delimiters of a `json!` call they are documents, with `null` and everything that can be
nested.  In both, a number may have a minus sign in front.

## Main definitions

* `Parser.document`: a document at the front of a stream.
* `Parser.exampleValue`: the value of an example, which is a plain literal or a document in
  `json!(...)`.

## Design notes

A document is read with a budget of tokens, because the readers of items and members are handed the
reader of documents.  Each level of nesting takes a token, so the budget is enough for every text.

Numbers keep their text up to this point, and what their value is depends on the kind of token: an
integer goes through the suffixes of integer types, a float through those of float types.
-/

namespace OpenResponse

/-- A text without an ending, if it has it. -/
def withoutEnding (ending : String) (text : List Char) : List Char :=
  (withoutSuffix? text ending).getD text

/-- The value of a float literal, if it has one. -/
def readFloat? (text : String) : Option Binary :=
  readDecimal? (withoutEnding "f64" (withoutEnding "f32" (text.toList.filter (· != '_'))))

namespace Parser

/-- A number behind its sign. -/
def numeral (negative : Bool) : Parser Document := do
  let token ← peek
  match token.kind with
  | .integer =>
    let _ ← next
    let value ← integerValue token
    return .integer (if negative then -(value : Int) else value)
  | .float =>
    let _ ← next
    match readFloat? token.value with
    | some value => return .float (if negative then value.negate else value)
    | none => failAt token (.badFloat token.value)
  | _ => failExpected "numeric literal"

/-- A number with an optional minus sign. -/
def number : Parser Document := do
  numeral (← eat .minus).isSome

/-- The document that a word stands for. -/
def wordDocument? : String → Option Document
  | "true" => some (.bool true)
  | "false" => some (.bool false)
  | "null" => some .null
  | _ => none

/-- A member of an object. -/
def member (value : Parser Document) : Parser (String × Document) := do
  let name ← expectAs .string "string literal object key"
  let _ ← expect .colon
  return (name.value, ← value)

/-- A document, with a budget of tokens. -/
def documentWithin : Nat → Parser Document
  | 0 => failExpected "JSON value"
  | budget + 1 => do
    let token ← peek
    match token.kind with
    | .openBrace =>
      let _ ← next
      let members ← separated .closeBrace "`,` or `\x7d`" (member (documentWithin budget))
      return .ofMembers members
    | .openBracket =>
      let _ ← next
      return .array (← separated .closeBracket "`,` or `]`" (documentWithin budget))
    | .string =>
      let _ ← next
      return .string token.value
    | .integer | .float | .minus => number
    | .identifier =>
      match wordDocument? token.value with
      | some document =>
        let _ ← next
        return document
      | none => failExpected "JSON value"
    | _ => failExpected "JSON value"

/-- A document. -/
def document : Parser Document := do documentWithin (← remaining)

/-- The document of a `json!` call whose name and mark are read.  Parentheses stand around the
document; brackets and braces belong to it. -/
def embeddedDocument : Parser Document := do
  match (← peek).kind with
  | .openParen =>
    let _ ← next
    let value ← document
    let _ ← expectAs .closeParen "`)` closing `json!(`"
    return value
  | .openBracket | .openBrace => document
  | _ => failExpected "`(` after `json!`"

/-- The value of an example. -/
def anyValue : Parser Document := do
  let token ← peek
  if token.kind == .string then
    let _ ← next
    return .string token.value
  else if ← atWordBefore "json" .bang then
    let _ ← next
    let _ ← next
    embeddedDocument
  else if token.kind == .integer || token.kind == .float || token.kind == .minus ||
      token.isWord "true" || token.isWord "false" then
    document
  else failExpected "string literal or `json!(...)`"

/-- A string behind an equals sign. -/
def assignedString : Parser String := do
  let _ ← expect .equals
  return (← expect .string).value

/-- The value of an example behind an equals sign. -/
def exampleValue : Parser Document := do
  let _ ← expect .equals
  anyValue

end Parser

end OpenResponse
