import OpenResponse.Compilation
import OpenResponse.Response.Tuple
import OpenResponse.Source.Extraction

/-!
# Compiling sources

A source is compiled by way of its declarations.  The first fault ends the compilation.

These are the two ways into the library: a source by itself, for what its declarations derive, and a
list of responses beside a source, for what it refers to.  Both read everything before they compile
anything.  So a source with an unreadable attribute compiles to nothing, even if the attribute
stands on a declaration that nobody asked for, and a list without a source has no declarations to
refer to.

## Main definitions

* `compileSource`: everything that a source derives.
* `compileResponses`: a list of responses, perhaps with the source it refers to.

## Design notes

A list of responses is read from a location of its own, as it is not part of the source beside it.
Faults of the source are found first.
-/

namespace OpenResponse

/-- Everything that the declarations of a source derive, or what those with the given name do. -/
def compileSource (source : String) (name : Option String) : Except Fault (List Compiled) := do
  compileDeclarations (← extractDeclarations source) name

/-- A list of responses, given as a text, that refers to the declarations of a source. -/
def compileResponses (text : String) (source : Option String) : Except Fault Compiled := do
  let declarations ← match source with
    | some source => extractDeclarations source
    | none => .ok []
  compileEntries declarations (← readResponses .start text)

end OpenResponse
