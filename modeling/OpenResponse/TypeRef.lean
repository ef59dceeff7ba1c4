/-!
# Types

The types of the attribute language, as far as a description of responses needs them: a path with
type arguments, a slice or array of another type, and the unit type.  References, lifetimes and
array lengths leave no trace.

What a type leaves behind is what schemas and names are made of.  The path is kept as a text with
its separators, so a type can be written again, but only its last segment says what the type is.

## Main definitions

* `TypeRef`: the types.
* `lastSegment`: the part of a path behind its last separator.
* `TypeRef.name`: the last segment of the path of a type.
* `TypeRef.text`: the text of a type.
* `InlineType`: a type together with whether its schema is to be written out.

## Design notes

A path without type arguments and one with empty angle brackets are the same type; so are a slice
and an array.

The text of a type is written without blanks, apart from the one behind a comma.  It is read again
as the same type if its names are names.
-/

namespace OpenResponse

/-- A type.  A path is kept with its separators; one that begins at the root begins with one. -/
inductive TypeRef
  | path (path : String) (args : List TypeRef)
  | slice (item : TypeRef)
  | unit
deriving Repr, Inhabited

/-- The characters of a reversed path up to its first separator. -/
def untilSeparator : List Char → List Char
  | [] => []
  | ':' :: ':' :: _ => []
  | c :: rest => c :: untilSeparator rest

/-- The part of a path behind its last separator.  A path without a separator is its own last
segment. -/
def lastSegment (path : String) : String :=
  String.ofList (untilSeparator path.toList.reverse).reverse

namespace TypeRef

/-- The last segment of the path of a type.  A type without a path has no name. -/
def name : TypeRef → String
  | .path full _ => lastSegment full
  | _ => ""

/-- The type arguments of a path. -/
def args : TypeRef → List TypeRef
  | .path _ args => args
  | _ => []

mutual

/-- The characters of the text of a type. -/
def chars : TypeRef → List Char
  | .unit => ['(', ')']
  | .slice item => '[' :: (chars item ++ [']'])
  | .path full [] => full.toList
  | .path full args => full.toList ++ '<' :: (argChars args ++ ['>'])

/-- The characters of type arguments with their separators. -/
def argChars : List TypeRef → List Char
  | [] => []
  | [arg] => chars arg
  | arg :: rest => chars arg ++ ',' :: ' ' :: argChars rest

end

/-- The text of a type.  It is written in one way only, whatever the blanks were in the text it was
read from. -/
def text (type : TypeRef) : String := String.ofList type.chars

end TypeRef

/-- A type, and whether its schema is to be written out where it is used. -/
structure InlineType where
  /-- The type. -/
  type : TypeRef
  /-- Whether the schema is to be written out. -/
  isInline : Bool
deriving Repr, Inhabited

end OpenResponse
