import OpenResponse.TypeRef.Parser

/-!
# Declarations

The declarations of a source, with the attributes and documentation that stand on them, on their
variants and on their fields.  Types and attribute arguments are kept as they are written, together
with the place they are written at, and are read only where they matter.

A declaration is data that has been attached already: what stands in front of it in the source is in
its fields, and the source is not needed any more.  That types and arguments are texts means that an
attribute that is never looked at is never read, so it cannot be at fault.

## Main definitions

* `Attribute`, `Field`, `Variant`, `Declaration`.
* `Field.type`: the type of a field.
* `joinLines`: documentation as one text.

## Design notes

A name is looked for from the end, so that of declarations with one name the last one counts.  It is
the same for schemas and for responses.

Attributes are looked for by their names with their paths, from the beginning; of several attributes
for responses all count, and which of them goes before is decided where they are read.
-/

namespace OpenResponse

/-- An attribute: a name with arguments, or a name with a value. -/
structure Attribute where
  /-- The name, with its path. -/
  name : String
  /-- The text between the delimiters of the arguments. -/
  arguments : String
  /-- The string that the attribute sets its name to, if it sets it to a string literal. -/
  value : Option String
  /-- Where the arguments begin, or else the value, or else the name. -/
  location : Location
deriving DecidableEq, Repr, Inhabited

/-- A field of a struct or of a variant.  Its type is kept as text and read when it is needed, so
that a type that cannot be read is a fault of what needs it and of nothing else. -/
structure Field where
  /-- The name, which the fields of a tuple do not have. -/
  name : Option String
  /-- The type as it is written. -/
  typeText : String
  /-- Where the type is written. -/
  location : Location
  /-- The attributes. -/
  attributes : List Attribute
  /-- The lines of documentation. -/
  docs : List String
deriving DecidableEq, Repr, Inhabited

/-- A variant of an enum.  Its shape follows from its fields and from whether they are those of a
tuple. -/
structure Variant where
  /-- The name. -/
  name : String
  /-- The fields. -/
  fields : List Field
  /-- Whether the fields are those of a tuple. -/
  isTuple : Bool
  /-- The attributes. -/
  attributes : List Attribute
  /-- The lines of documentation. -/
  docs : List String
  /-- Where the name is written. -/
  location : Location
deriving DecidableEq, Repr, Inhabited

/-- The kinds of declarations. -/
inductive DeclarationKind
  | struct
  | enum
  | union
deriving DecidableEq, Repr, Inhabited

/-- A declaration of a type.  One record is for all kinds: a struct has no variants, and an enum has
no fields of its own. -/
structure Declaration where
  /-- The name. -/
  name : String
  /-- The kind. -/
  kind : DeclarationKind
  /-- The fields of a struct. -/
  fields : List Field
  /-- Whether the fields are those of a tuple. -/
  isTuple : Bool
  /-- The variants of an enum. -/
  variants : List Variant
  /-- The attributes. -/
  attributes : List Attribute
  /-- The lines of documentation. -/
  docs : List String
  /-- The names of the traits that are derived. -/
  derives : List String
  /-- Where the name is written. -/
  location : Location
deriving DecidableEq, Repr, Inhabited

/-- The lines of a text, with line breaks between them.  There is none behind the last line. -/
def joinLines (lines : List String) : String := "\n".intercalate lines

/-- The first attribute with a name. -/
def findAttribute (attributes : List Attribute) (name : String) : Option Attribute :=
  attributes.find? (·.name == name)

/-- Whether there is an attribute with a name. -/
def hasAttribute (attributes : List Attribute) (name : String) : Bool :=
  attributes.any (·.name == name)

/-- The type of a field.  The places in the type are those of the source that the field stands in.
-/
def Field.type (field : Field) : Except Fault TypeRef :=
  readTypeRef field.location field.typeText

/-- The type that a declaration declares.  It has no arguments, even if the declaration has
parameters. -/
def Declaration.type (declaration : Declaration) : TypeRef := .path declaration.name []

/-- The description that the documentation of a declaration gives it. -/
def Declaration.description (declaration : Declaration) : String := joinLines declaration.docs

/-- The last declaration with a name. -/
def findDeclaration (declarations : List Declaration) (name : String) : Option Declaration :=
  declarations.reverse.find? (·.name == name)

/-- A declaration that is found is one of those among which it is looked for. -/
theorem mem_of_findDeclaration {declarations : List Declaration} {name : String}
    {declaration : Declaration} (found : findDeclaration declarations name = some declaration) :
    declaration ∈ declarations :=
  List.mem_reverse.mp (List.mem_of_find?_eq_some found)

end OpenResponse
