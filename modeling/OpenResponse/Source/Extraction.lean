import OpenResponse.Declaration
import OpenResponse.Source.Item

/-!
# Declarations of a source

An attribute or a comment belongs to the next declaration, variant or field among its siblings.
Among items anything else that comes between takes it away; among fields and variants nothing does.
Lines of documentation come from comments and from `doc` attributes alike.

What is read of items is kept as it was written, with the attributes and comments in their places;
here they are attached.  Reading the value of an attribute can fail, so extraction can, and the
first fault in the order of the source is the one that is reported.

## Main definitions

* `docLine?`: the documentation in a comment.
* `Pending`: the attributes and documentation that wait for their declaration.
* `collect`: the declarations among siblings.
* `extractDeclarations`: the declarations of a source.

## Design notes

What waits is a state that is passed along, for declarations, variants and fields alike.  It is
dropped in front of anything that is none of these if it waits for a declaration, and kept if it
waits for a variant or a field.

The value of an attribute is cut into tokens to see whether it is a string, whatever the name of the
attribute is.  An expression that is no string is no value, and one that cannot be cut into tokens
is a fault.
-/

namespace OpenResponse

namespace Source

/-! ### Documentation

A comment of documentation has a third mark, and not a fourth.  What it holds is trimmed. -/

/-- A line of a block of documentation, without the star in front of it. -/
def blockLine (line : List Char) : List Char :=
  match trim line with
  | '*' :: rest => trim rest
  | rest => rest

/-- The documentation in a block comment: its lines, less the empty ones. -/
def blockDoc? (text : List Char) : Option String :=
  match text with
  | '/' :: '*' :: '*' :: rest =>
    if rest.head? = some '*' ∨ rest = ['/'] then none
    else
      let lines := ((splitLines (rest.take (rest.length - 2))).map blockLine).filter (· ≠ [])
      some (joinLines (lines.map String.ofList))
  | _ => none

/-- The documentation in a line comment. -/
def lineDoc? (text : List Char) : Option String :=
  match text with
  | '/' :: '/' :: '/' :: rest =>
    if rest.head? = some '/' then none else some (String.ofList (trim rest))
  | _ => none

/-- The documentation in a comment, if it is a comment of documentation. -/
def docLine? (piece : Piece) : Option String :=
  if piece.kind == .blockComment then blockDoc? piece.text else lineDoc? piece.text

/-! ### What waits for a declaration

Attributes and lines of documentation wait apart, each in the order in which they were met. -/

/-- The attributes and the documentation that wait for a declaration. -/
structure Pending where
  /-- The attributes. -/
  attributes : List Attribute
  /-- The lines of documentation. -/
  docs : List String
deriving Repr, Inhabited

namespace Pending

/-- Nothing is waiting. -/
def empty : Pending := ⟨[], []⟩

/-- A comment is met. -/
def addComment (pending : Pending) (piece : Piece) : Pending :=
  { pending with docs := pending.docs ++ (docLine? piece).toList }

/-- An attribute is met.  One that sets the documentation is not kept as an attribute. -/
def addAttribute (pending : Pending) (attr : Attribute) : Pending :=
  match attr.name == "doc", attr.value with
  | true, some text =>
    { pending with docs := pending.docs ++ [String.ofList (trim text.toList)] }
  | _, _ => { pending with attributes := pending.attributes ++ [attr] }

end Pending

/-- The string that a text is, if it is a string literal and nothing else. -/
def stringLiteral? (location : Location) (text : String) : Except Fault (Option String) := do
  let stream ← tokenize location text
  match stream.tokens with
  | [token] => return if token.kind == .string then some token.value else none
  | _ => return none

/-- The attribute that an attribute is. -/
def SourceAttribute.attribute (source : SourceAttribute) : Except Fault Attribute :=
  match source.content with
  | .arguments text => .ok ⟨source.name, text, none, source.location⟩
  | .value text => do
    return ⟨source.name, "", ← stringLiteral? source.location text, source.location⟩
  | .bare => .ok ⟨source.name, "", none, source.location⟩

/-! ### Fields, variants and declarations

The names of traits are read from the text of the arguments, without cutting it into tokens. -/

/-- The entries of a list of siblings, each with what waits for it. -/
def attach {α : Type} (pending : Pending) :
    List (Sibling α) → Except Fault (List (α × Pending))
  | [] => .ok []
  | .attr attr :: rest => do
    attach (pending.addAttribute (← attr.attribute)) rest
  | .comment piece :: rest => attach (pending.addComment piece) rest
  | .entry value :: rest => do
    return (value, pending) :: (← attach .empty rest)
  | .other :: rest => attach pending rest

/-- The fields among siblings. -/
def fieldsAmong (siblings : List (Sibling SourceField)) : Except Fault (List Field) := do
  let fields ← attach .empty siblings
  return fields.map fun (field, pending) =>
    ⟨field.name, field.typeText, field.location, pending.attributes, pending.docs⟩

/-- Fields, and whether they are those of a tuple. -/
def SourceFields.fields : SourceFields → Except Fault (List Field × Bool)
  | .none => .ok ([], false)
  | .tuple siblings => do return (← fieldsAmong siblings, true)
  | .named siblings => do return (← fieldsAmong siblings, false)

/-- The variants among siblings.  The fields of a variant are read before the siblings behind it. -/
def variantsAmong (pending : Pending) :
    List (Sibling SourceVariant) → Except Fault (List Variant)
  | [] => .ok []
  | .attr attr :: rest => do
    variantsAmong (pending.addAttribute (← attr.attribute)) rest
  | .comment piece :: rest => variantsAmong (pending.addComment piece) rest
  | .entry variant :: rest => do
    let (fields, isTuple) ← variant.fields.fields
    let more ← variantsAmong .empty rest
    return ⟨variant.name, fields, isTuple, pending.attributes, pending.docs, variant.location⟩ ::
      more
  | .other :: rest => variantsAmong pending rest

/-- Split a text at its commas. -/
def splitTextFrom (current : List Char) : List Char → List (List Char)
  | [] => [current.reverse]
  | ',' :: rest => current.reverse :: splitTextFrom [] rest
  | c :: rest => splitTextFrom (c :: current) rest

/-- The names of the traits that attributes derive: the last segments of the paths between the
commas. -/
def derivedNames (attributes : List Attribute) : List String :=
  (attributes.filter (·.name == "derive")).flatMap fun attr =>
    ((splitTextFrom [] attr.arguments.toList).map trim |>.filter (· ≠ [])).map
      fun path => lastSegment (String.ofList path)

/-- The declaration with what waited for it. -/
def SourceDeclaration.declaration (source : SourceDeclaration) (pending : Pending) :
    Except Fault Declaration := do
  let make (kind : DeclarationKind) (fields : List Field) (isTuple : Bool)
      (variants : List Variant) : Declaration :=
    ⟨source.name, kind, fields, isTuple, variants, pending.attributes, pending.docs,
      derivedNames pending.attributes, source.location⟩
  match source.body with
  | .struct fields =>
    let (fields, isTuple) ← fields.fields
    return make .struct fields isTuple []
  | .enum variants => return make .enum [] false (← variantsAmong .empty variants)
  | .union => return make .union [] false []

mutual

/-- The declarations among siblings, those of modules included. -/
def collect (pending : Pending) : List (Sibling Item) → Except Fault (List Declaration)
  | [] => .ok []
  | sibling :: rest => do
    let (first, pending) ← collectSibling pending sibling
    return first ++ (← collect pending rest)

/-- The declarations of a sibling, and what waits behind it. -/
def collectSibling (pending : Pending) :
    Sibling Item → Except Fault (List Declaration × Pending)
  | .attr attr => do return ([], pending.addAttribute (← attr.attribute))
  | .comment piece => .ok ([], pending.addComment piece)
  | .entry item => do return (← collectItem pending item, .empty)
  | .other => .ok ([], .empty)

/-- The declarations of an item.  What waits for a module belongs to nothing in it. -/
def collectItem (pending : Pending) : Item → Except Fault (List Declaration)
  | .declaration source => do return [← source.declaration pending]
  | .module inner => collect .empty inner

end

end Source

/-- The declarations of a source, in the order in which they are written. -/
def extractDeclarations (source : String) : Except Fault (List Declaration) :=
  Source.collect .empty (Source.items source)

end OpenResponse
