import OpenResponse.Builder.Emission
import OpenResponse.Builder.Interpretation
import OpenResponse.Declaration.Response

/-!
# Compilation

The declarations of a source are compiled together, because one response may inline another and a
list of responses may name a type that lists its own.  Responses to be inlined are compiled once and
kept; while one is being compiled its name is in progress, and asking for it again is a fault.

The state of a compilation is a memory and a guard.  The memory saves work and cannot be seen in the
result; that it cannot is a law and not a part of the definition.  The guard is what makes looking
up end: a name that is in progress is refused, and there are as many names as declarations.

## Main definitions

* `Compiled`: a compiled response or list of responses.
* `Compilation`: what is kept between look-ups.
* `resolve`, `expand`: the look-ups.
* `compileDeclarations`: everything that the declarations of a source derive.
* `compileEntries`: a list of responses that refers to the declarations of a source.

## Design notes

A fault leaves the state as it was when the fault was found, but for the names in progress, which
are taken back on the way out.  So a compilation can go on after a fault, as it does when several
things are asked for one after another.

The budget of `resolveWithin` is one more than the number of declarations.  Each step in depth puts
a new name in progress, and a name that is looked up is that of a declaration, so the budget is
never what ends the recursion; it is there for the recursion to be structural.

Names are looked up among the declarations that derive the trait, and of several with one name the
last one is found.  The names of lists are the last segments of their paths.
-/

namespace OpenResponse

/-- Where a compiled response comes from. -/
inductive Derive
  | toResponse
  | intoResponses
  | responses
deriving DecidableEq, Repr

namespace Derive

/-- The name of a derived trait, or of a list that is given by itself. -/
def name : Derive → String
  | toResponse => "ToResponse"
  | intoResponses => "IntoResponses"
  | responses => "responses"

/-- The builder that the chain begins with. -/
def builder : Derive → String
  | toResponse => "ResponseBuilder"
  | _ => "ResponsesBuilder"

end Derive

/-- Whether a declaration derives a trait. -/
def Declaration.has (declaration : Declaration) (derive : Derive) : Bool :=
  declaration.derives.contains derive.name

/-- A compiled response or list of responses.  The chain and the document are both kept, as it is
decided later which of them is shown. -/
structure Compiled where
  /-- The name of its declaration. -/
  name : String
  /-- What it was compiled for. -/
  derive : Derive
  /-- The builder calls. -/
  chain : Chain
  /-- What the calls mean. -/
  openapi : Document

/-- What is kept between look-ups.  A failing step leaves it behind as well, so that what was
learned before a fault is still known after it. -/
structure Progress where
  /-- The responses that have been compiled. -/
  compiled : Ordered Document
  /-- The names of the responses that are being compiled. -/
  inProgress : List String
deriving Inhabited

/-- Nothing has been compiled yet. -/
def Progress.initial : Progress := ⟨[], []⟩

/-- A step of a compilation.  It can fail, and what it has learned by then is not lost. -/
abbrev Compilation := EStateM Fault Progress

namespace Compilation

/-- Run a step with a name in progress, which it is no more afterwards, whatever the outcome. -/
def during {α : Type} (name : String) (step : Compilation α) : Compilation α := fun state =>
  let leave (state : Progress) : Progress :=
    { state with inProgress := state.inProgress.filter (· != name) }
  match step { state with inProgress := name :: state.inProgress } with
  | .ok value state => .ok value (leave state)
  | .error fault state => .error fault (leave state)

/-- Keep a compiled response. -/
def keep (name : String) (document : Document) : Compilation Unit :=
  modify fun state => { state with compiled := Ordered.assign state.compiled name document }

end Compilation

open Compilation

/-- The last declaration with a name that derives a trait. -/
def findDeriving (declarations : List Declaration) (derive : Derive) (name : String) :
    Option Declaration :=
  findDeclaration (declarations.filter (·.has derive)) name

/-- Compile the response that a declaration is, given how responses to be inlined are looked up. -/
def compileResponse (declarations : List Declaration) (resolve : String → Compilation Document)
    (declaration : Declaration) : Compilation Compiled := do
  let descriptor ← ofExcept declaration.response
  let chain ← ofExcept (emitResponse declarations descriptor.response)
  return ⟨declaration.name, .toResponse, chain, ← responseObject resolve chain⟩

/--
Look up a response to be inlined, with a budget of names that are not in progress.  When none is
left, every known name is in progress.
-/
def resolveWithin (declarations : List Declaration) : Nat → String → Compilation Document
  | budget, name => do
    match Ordered.get? (← get).compiled name with
    | some document => return document
    | none =>
      match findDeriving declarations .toResponse name with
      | none => throw (.nowhere (.inlineUnknown name))
      | some declaration =>
        match budget with
        | 0 => throw (.nowhere (.inlineCycle name))
        | budget + 1 =>
          if (← get).inProgress.contains name then throw (.nowhere (.inlineCycle name))
          let compiled ← during name
            (compileResponse declarations (resolveWithin declarations budget) declaration)
          keep name compiled.openapi
          return compiled.openapi

/-- Look up a response to be inlined.  The budget is one more than the number of declarations, which
no chain of different names uses up. -/
def resolve (declarations : List Declaration) (name : String) : Compilation Document :=
  resolveWithin declarations (declarations.length + 1) name

/-- Compile the response that a declaration is. -/
def compileToResponse (declarations : List Declaration) (declaration : Declaration) :
    Compilation Compiled :=
  compileResponse declarations (resolve declarations) declaration

/-- Compile the responses that a declaration lists.  None of them names another list, so that there
is nothing to be expanded. -/
def compileIntoResponses (declarations : List Declaration) (declaration : Declaration) :
    Compilation Compiled := do
  let descriptors ← ofExcept declaration.responses
  let chain ← ofExcept (emitResponses declarations (descriptors.map .single))
  return ⟨declaration.name, .intoResponses, chain,
    ← responsesObject (resolve declarations) noLists chain⟩

/-- Look up the responses of a type that is given by its path. -/
def expand (declarations : List Declaration) (path : String) : Compilation Document := do
  match findDeriving declarations .intoResponses (lastSegment path) with
  | none => throw (.nowhere (.expandUnknown path))
  | some declaration => return (← compileIntoResponses declarations declaration).openapi

/-- Everything that a declaration derives.  The response comes before the list, which can use what
has been looked up for it. -/
def compileDeclaration (declarations : List Declaration) (declaration : Declaration) :
    Compilation (List Compiled) := do
  let first ←
    if declaration.has .toResponse then
      pure [← compileToResponse declarations declaration]
    else pure []
  let second ←
    if declaration.has .intoResponses then
      pure [← compileIntoResponses declarations declaration]
    else pure []
  return first ++ second

/-- Run the steps of a compilation from the beginning. -/
def Compilation.complete {α : Type} (compilation : Compilation α) : Except Fault α :=
  match compilation.run .initial with
  | .ok value _ => .ok value
  | .error fault _ => .error fault

/-- Everything that declarations derive, or what those with the given name do. -/
def compileDeclarations (declarations : List Declaration) (name : Option String) :
    Except Fault (List Compiled) :=
  let candidates := declarations.filter fun declaration =>
    declaration.has .toResponse || declaration.has .intoResponses
  let targets := match name with
    | some name => candidates.filter (·.name == name)
    | none => candidates
  match name, targets with
  | some name, [] => .error (.nowhere (.noSuchType name))
  | _, _ =>
    Compilation.complete do
      return (← targets.mapM (compileDeclaration declarations)).flatten

/-- A list of responses that refers to declarations.  Only here are the responses of a type listed
in place of its path, which needs both ways to look up a name. -/
def compileEntries (declarations : List Declaration) (entries : List ResponseEntry) :
    Except Fault Compiled :=
  Compilation.complete do
    let chain ← ofExcept (emitResponses declarations entries)
    let openapi ← responsesObject (resolve declarations) (expand declarations) chain
    return ⟨"responses", .responses, chain, openapi⟩

end OpenResponse
