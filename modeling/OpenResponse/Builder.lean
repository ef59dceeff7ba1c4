import OpenResponse.Response

/-!
# Instruction chains

A compiled response is a chain of builder calls.  A call has a method and arguments; an argument is
a document, a chain of its own, or a list of named examples.

Instructions and arguments are defined by one mutual recursion, since an argument may be a chain
again: the content of a response, its headers, the responses in a list.  Methods are kept by their
names.  Both the text of a chain and its meaning are functions of the chain, and neither knows how
the chain was made.

## Main definitions

* `Instruction`, `Argument`: the calls and their arguments.
* `Chain`: a sequence of calls.

## Design notes

A chain is a list and not a type of its own, so that chains can be put together and taken apart with
the functions for lists.  Nothing prevents a chain that makes no sense, one with an unknown method
or without its first call; the text of such a chain is still defined, and its meaning passes over
what it does not know.

Named examples are kept as they were read instead of as chains of their own, because their text is
nested in a call and not in a builder.
-/

namespace OpenResponse

mutual

/-- A call of a builder method.  Methods are named by strings, so a chain can call what no builder
has; what such a call means is decided where chains are interpreted. -/
inductive Instruction
  | call (method : String) (args : List Argument)

/-- An argument of a builder call.  A builder that is passed to a method is a chain of its own,
which makes calls and arguments mutually recursive. -/
inductive Argument
  | document (value : Document)
  | chain (instructions : List Instruction)
  | examples (entries : List (String × Example))

end

deriving instance Repr for Instruction, Argument

instance : Inhabited Instruction := ⟨.call "" []⟩

instance : Inhabited Argument := ⟨.chain []⟩

/-- A sequence of builder calls.  It says nothing about the builder that it begins with; that is
known from what the chain is for. -/
abbrev Chain := List Instruction

namespace Argument

/-- A string as an argument. -/
def string (text : String) : Argument := .document (.string text)

end Argument

namespace Instruction

/-- The method of a call. -/
def method : Instruction → String
  | .call method _ => method

/-- The arguments of a call. -/
def args : Instruction → List Argument
  | .call _ args => args

/-- The call that begins a builder. -/
def new : Instruction := .call "new" []

/-- The call that ends a builder. -/
def build : Instruction := .call "build" []

end Instruction

end OpenResponse
