import OpenResponse.Token.Parser
import OpenResponse.TypeRef

/-!
# Reading types

References are read through to the type they refer to, whatever their lifetime and mutability;
lifetimes among type arguments and the lengths of arrays are read and forgotten.

A type begins with a token that tells its form, and no form has to be given up once it is begun.  So
the reader never goes back, and the first token that does not fit is the one that the fault is
about.

## Main definitions

* `Parser.typeRef`: a type at the front of a stream.
* `Parser.inlineType`: a type that may be marked to be written out.
* `readTypeRef`: a type that is a text of its own.

## Design notes

The recursion goes by a budget of tokens, since it passes through the reader of lists.  Every form
takes a token before it reads a type inside, and the budget is the number of tokens left, so it is
enough for every text.

A path goes on behind a separator only if a name follows.  Otherwise the separator is left for what
comes next, and will be a fault there.  The word that marks a type to be written out is a mark in
front of a parenthesis and a name elsewhere.
-/

namespace OpenResponse

/-- The names that continue a path, and the tokens behind them. -/
def pathTail : List Token → List String × List Token
  | separator :: word :: rest =>
    if separator.kind == .pathSeparator && word.kind == .identifier then
      let (names, behind) := pathTail rest
      (word.value :: names, behind)
    else ([], separator :: word :: rest)
  | rest => ([], rest)

namespace Parser

/-- The names that continue a path. -/
def pathNames : Parser (List String) :=
  modifyGet fun stream =>
    let (names, behind) := pathTail stream.tokens
    (names, { stream with tokens := behind })

/-- The path of a type, with its separators. -/
def typePath : Parser String := do
  let root ← eat .pathSeparator
  let first ← expectAs .identifier "type"
  let names ← pathNames
  return "::".intercalate ((if root.isSome then [""] else []) ++ first.value :: names)

/-- A type argument: a lifetime, which is forgotten, or a type. -/
def typeArgument (type : Parser TypeRef) : Parser (Option TypeRef) := do
  if (← eat .lifetime).isSome then return none else some <$> type

/-- A type, with a budget of tokens. -/
def typeRefWithin : Nat → Parser TypeRef
  | 0 => do
    let token ← peek
    failAt token (.expectedType token.describe)
  | budget + 1 => do
    let token ← peek
    match token.kind with
    | .ampersand =>
      let _ ← next
      let _ ← eat .lifetime
      if (← peek).isWord "mut" then
        let _ ← next
      typeRefWithin budget
    | .openBracket =>
      let _ ← next
      let item ← typeRefWithin budget
      if (← eat .semicolon).isSome then
        let _ ← expectAs .integer "array length"
      let _ ← expect .closeBracket
      return .slice item
    | .openParen =>
      let _ ← next
      let closing ← peek
      unless closing.kind == .closeParen do failAt closing .tupleType
      let _ ← next
      return .unit
    | .identifier | .pathSeparator =>
      let path ← typePath
      if (← eat .less).isSome then
        let args ← separated .greater "`,` or `>`" (typeArgument (typeRefWithin budget))
        return .path path (args.filterMap id)
      else return .path path []
    | _ => failAt token (.expectedType token.describe)

/-- A type. -/
def typeRef : Parser TypeRef := do typeRefWithin (← remaining)

/-- A type that may be marked to be written out. -/
def inlineType : Parser InlineType := do
  if ← atWordBefore "inline" .openParen then
    let _ ← next
    let _ ← next
    let type ← typeRef
    let _ ← expectAs .closeParen "`)` closing `inline(`"
    return ⟨type, true⟩
  else
    return ⟨← typeRef, false⟩

end Parser

/-- A type that is a text of its own. -/
def readTypeRef (origin : Location) (text : String) : Except Fault TypeRef :=
  Parser.typeRef.runOnAll origin text

end OpenResponse
