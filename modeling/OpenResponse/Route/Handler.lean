import OpenResponse.Route.Path

/-!
# Handlers of routes

A route is handled by a function that is named for the verb it answers, in a file whose place below
the routes directory names the module.  Module files only gather others and are left out.

What a handler is for and where it is comes from names only.  The text of a file is searched for the
beginning of a definition, and not read as a program, so a handler that is mentioned in a comment is
found, and so is a function whose name goes on behind the verb.

## Main definitions

* `PlacedFile`: a file below a directory.
* `Verb`, `handlerVerbs`: the verbs that a file handles.
* `Handler`: a function that answers a verb, with its name and the path it serves.
* `handlersBelow`, `handlerModules`: the handlers in the files below a routes directory.

## Design notes

Files are told by the end of their names.  A file is left out if its name ends in `mod.rs`, whatever
stands before.

The path of a handler is that of the file that its module names, with the root `routes` in front,
since that is how modules are named.  It need not be the file that the handler was found in.
-/

namespace OpenResponse

/-- A file below a directory. -/
structure PlacedFile where
  /-- The names on the way to the file, the last one its own. -/
  names : List String
  /-- What the file says. -/
  text : String
deriving DecidableEq, Repr

/-- The verbs that a handler may answer. -/
inductive Verb
  | get
  | post
  | delete
  | put
deriving DecidableEq, Repr

namespace Verb

/-- The verbs, in the order in which the handlers of one file are listed. -/
def all : List Verb := [get, post, delete, put]

/-- The name of the function that answers a verb. -/
def word : Verb → String
  | get => "get"
  | post => "post"
  | delete => "delete"
  | put => "put"

/-- What the definition of a handler begins with. -/
def mark (verb : Verb) : String := "async fn " ++ verb.word

theorem mem_all (verb : Verb) : verb ∈ all := by cases verb <;> simp [all]

end Verb

/-- A function that answers a verb. -/
structure Handler where
  /-- The module of the function, with two colons between the names on the way to it. -/
  place : String
  /-- The verb that is answered. -/
  verb : Verb
deriving DecidableEq, Repr

/-- The name of a handler. -/
def Handler.name (handler : Handler) : String := handler.place ++ "::" ++ handler.verb.word

/-- The path that a handler serves.  The file that is meant is the one that its module names. -/
def Handler.path (handler : Handler) : String :=
  let file := replaceAll [':', ':'] ['/'] handler.place.toList ++ handlerSuffix
  servedPath "routes" (String.ofList file)

/-- The verbs whose mark occurs in a text. -/
def handlerVerbs (text : String) : List Verb :=
  Verb.all.filter fun verb => occursIn verb.mark.toList text.toList

/-- A name without its last suffix.  A point at either end of a name begins no suffix. -/
def withoutSuffix (name : String) : String :=
  match name.toList.reverse.span (· != '.') with
  | (_ :: _, '.' :: stem@(_ :: _)) => String.ofList stem.reverse
  | _ => name

/-- The module that a file is, as a path of names. -/
def moduleNames : List String → List String
  | [] => []
  | [name] => [withoutSuffix name]
  | name :: rest => name :: moduleNames rest

namespace PlacedFile

/-- Whether a file only gathers other modules. -/
def isModuleFile (file : PlacedFile) : Bool :=
  match file.names.getLast? with
  | some name => "mod.rs".toList.reverse.isPrefixOf name.toList.reverse
  | none => false

/-- The handlers in a file. -/
def handlers (file : PlacedFile) : List Handler :=
  (handlerVerbs file.text).map (⟨"::".intercalate ("routes" :: moduleNames file.names), ·⟩)

/-- Files are listed by the names on the way to them, compared one after the other. -/
def before (file other : PlacedFile) : Bool := !decide (other.names < file.names)

end PlacedFile

/-- The handlers in the files below a routes directory, in the order of the files. -/
def handlersBelow (files : List PlacedFile) : List Handler :=
  ((files.mergeSort PlacedFile.before).filter (!·.isModuleFile)).flatMap PlacedFile.handlers

/-- The names of the handlers in the files below a routes directory. -/
def handlerModules (files : List PlacedFile) : List String :=
  (handlersBelow files).map Handler.name

end OpenResponse
