import OpenResponse.Declaration

/-!
# Shapes

How the fields of a declaration turn into the body of a response: the single field of a tuple is the
body itself, named fields are an object, a declaration without fields has no body, and an enum is
looked at variant by variant.  Unions and tuples of several fields have no body.

The shape is looked at once, for a single response and for a list of responses alike, so both refuse
the same declarations.  A shape holds what the readers of responses need of a declaration: the type
that stands for it, and its fields or variants.

## Main definitions

* `Shape`: the shapes.
* `Declaration.shape`: the shape of a declaration.

## Design notes

A tuple struct without fields is refused while a struct with empty braces is one without fields.
The type of a single field is read here, so a type that cannot be read is a fault of the shape.
-/

namespace OpenResponse

/-- The shapes of declarations. -/
inductive Shape
  /-- A tuple struct with one field, which stands for the whole. -/
  | newtype (type : TypeRef) (attributes : List Attribute)
  /-- A struct with named fields. -/
  | record (type : TypeRef) (fields : List Field)
  /-- A struct without fields. -/
  | unit
  /-- An enum. -/
  | enum (type : TypeRef) (variants : List Variant)
deriving Repr, Inhabited

/-- The shape of a declaration, if it is a supported one. -/
def Declaration.shape (declaration : Declaration) : Except Fault Shape :=
  match declaration.kind with
  | .union => .error (.found declaration.location .unionShape)
  | .enum => .ok (.enum declaration.type declaration.variants)
  | .struct =>
    if declaration.isTuple then
      match declaration.fields with
      | [] => .error (.found declaration.location .emptyTupleShape)
      | [field] => do return .newtype (← field.type) field.attributes
      | _ => .error (.found declaration.location .wideTupleShape)
    else if declaration.fields.isEmpty then .ok .unit
    else .ok (.record declaration.type declaration.fields)

end OpenResponse
