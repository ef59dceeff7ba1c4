import OpenResponse.Builder
import OpenResponse.Document.Text
import OpenResponse.Fault

/-!
# The text of a chain

A chain is written as the program text that makes its calls.  Strings and documents are written in
the escaped form of documents, so that the text holds ASCII characters only, the names of inlined
types apart.

The text is put together from the parts of the chain and never looked at again.  The text of a call
does not depend on the calls around it, apart from the builder that the first call names, so the
text of a chain is the texts of its calls one behind the other.

## Main definitions

* `Example.chars`: the text of a named example.
* `chainText`: the text of a chain.

## Design notes

Texts are lists of characters until the last step, since the laws about them are about what stands
where.

A chain that refers to a response, or inlines one, has no calls to show.  It is written in the form
of an expression, wherever it stands, and what comes behind the first call is dropped.  That
decision is `chainCharsWith`, which gets the text of the calls as an argument, so that the recursion
over chains need not be repeated in each branch.
-/

namespace OpenResponse

/-- The text of a builder call with one argument. -/
def callChars (method : String) (argument : List Char) : List Char :=
  '.' :: (method.toList ++ '(' :: (argument ++ [')']))

/-- The text of an optional document, wrapped the way builders take it. -/
def someDocumentChars (value : Document) : List Char :=
  "Some(json!(".toList ++ value.chars ++ "))".toList

/-- The text of a named example, without its name. -/
def Example.chars (entry : Example) : List Char :=
  let part (method : String) (text : Option String) :=
    (text.map fun text => callChars method (quotedText true text)).getD []
  "ExampleBuilder::new()".toList ++ part "summary" entry.summary ++
    part "description" entry.description ++
    (entry.value.map fun value => callChars "value" (someDocumentChars value)).getD [] ++
    part "external_value" entry.externalValue ++ ".build()".toList

/-- The text of a named example with its name. -/
def namedExampleChars (name : String) (entry : Example) : List Char :=
  '(' :: (quotedText true name ++ ',' :: ' ' :: (entry.chars ++ [')']))

/-- The builder of the chain that is an argument of a method. -/
def nestedBuilder (method : String) : String :=
  match method with
  | "content" => "ContentBuilder"
  | "header" => "HeaderBuilder"
  | "response" => "ResponseBuilder"
  | _ => "Builder"

/-- Texts with a comma and a space between two of them. -/
def commaSeparated (texts : List (List Char)) : List Char := [',', ' '].intercalate texts

/-- The characters of a string document; of any other document, those of its text.  The name of an
inlined type is written without quotes. -/
def plainChars : Document → List Char
  | .string text => text.toList
  | other => other.chars

/--
The text of a chain whose calls have the text `calls`.  A chain that begins with a reference to a
response, or with a response to be inlined, is that alone.
-/
def chainCharsWith (chain : Chain) (calls : List Char) : List Char :=
  match chain with
  | .call method (.document name :: _) :: _ =>
    if method = "ref_from_response_name" then
      "Ref::from_response_name(".toList ++ name.chars ++ [')']
    else if method = "inline_response" then
      '<' :: (plainChars name ++ " as ToResponse>::response().1".toList)
    else calls
  | _ => calls

mutual

/-- The text of one call. -/
def Instruction.chars (builder : String) : Instruction → List Char
  | .call method args =>
    let args := commaSeparated (argumentsChars method args)
    if method = "new" then builder.toList ++ "::new()".toList
    else if method = "default" then builder.toList ++ "::from(Header::default())".toList
    else callChars method args

/-- The text of an argument of a method. -/
def Argument.chars (method : String) : Argument → List Char
  | .document value => if method = "example" then someDocumentChars value else value.chars
  | .chain instructions =>
    chainCharsWith instructions (instructionsChars (nestedBuilder method) instructions)
  | .examples entries =>
    '[' :: (commaSeparated (entries.map fun (name, entry) => namedExampleChars name entry) ++ [']'])

/-- The texts of the arguments of a method. -/
def argumentsChars (method : String) : List Argument → List (List Char)
  | [] => []
  | argument :: rest => argument.chars method :: argumentsChars method rest

/-- The text of calls one after the other. -/
def instructionsChars (builder : String) : List Instruction → List Char
  | [] => []
  | instruction :: rest => instruction.chars builder ++ instructionsChars builder rest

end

/-- The text of a chain with a builder.  A chain without calls has none. -/
def chainText (builder : String) (chain : Chain) : Except Fault String :=
  if chain.isEmpty then .error (.nowhere .emptyChain)
  else .ok (String.ofList (chainCharsWith chain (instructionsChars builder chain)))

end OpenResponse
