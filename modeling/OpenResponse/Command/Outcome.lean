import OpenResponse.Builder.Text
import OpenResponse.Command
import OpenResponse.Compilation.Source
import OpenResponse.Document.Text
import OpenResponse.Status
import OpenResponse.Terminal.Markup
import OpenResponse.Terminal.Table
import OpenResponse.Workspace

/-!
# What commands do

A command reads files through a host and ends with an outcome.  Faults of what it was given are
printed; faults that no message is foreseen for end the program themselves.

An outcome is data, not an effect.  What is printed is a single text that is made before anything is
printed, so that a command that fails prints its fault and nothing else.  Whether a fault is printed
or ends the program is a matter of its kind; the kinds that are printed are those of faults in what
was given.

## Main definitions

* `Outcome`: how a command ends.
* `presented`: compiled responses as they are printed.
* `perform`: what a request does.
* `run`: what a command line does.

## Design notes

Everything that is printed goes through what a terminal shows of it: controls are left out, blanks
beyond the right edge are cut.  Messages and the cells of statuses are escaped, so that a tag in
them is seen as it is written; the names of what is compiled and the handlers of routes are not.
The texts of builders are not escaped and not read for tags, but short names of pictographs in them
are replaced.

A source for a list of responses is read with its line breaks unified, and a source that is compiled
by itself is not.
-/

namespace OpenResponse

/-- How a command ends. -/
inductive Outcome
  /-- With something printed, and an exit code. -/
  | printed (code : Nat) (output : String)
  /-- With the explanation of how it is used. -/
  | explained
  /-- With arguments that are not those of the command. -/
  | misused (fault : UsageFault)
  /-- With a fault that no message is foreseen for. -/
  | failed (fault : Fault)
deriving DecidableEq, Repr

namespace Outcome

/-- The outcome of something that is printed if it does not fail. -/
def ofPrinted (code : Nat) : Except Fault String → Outcome
  | .ok output => .printed code output
  | .error fault => .failed fault

end Outcome

/-- Whether faults of a kind are printed. -/
def FaultKind.isReported : FaultKind → Bool
  | .grammar | .conflict | .resolution | .shape | .absence => true
  | _ => false

/-- What a marked text sends to the terminal. -/
def markedLine (text : String) : Except Fault String := do
  return sentText (← shown text)

/-- The outcome of a fault of what a command was given. -/
def reported (fault : Fault) : Outcome :=
  if fault.kind.isReported then
    .ofPrinted 1 (markedLine ("[red]error:[/red] " ++ escaped fault.message))
  else .failed fault

/-! ### Compiled responses

Of what is compiled either the builders are printed, one after the other, or one document.  In the
document each response stands under its name, unless there is only one. -/

/-- A compiled response as the text of its builder, under its name. -/
def presentedBuilder (compiled : Compiled) : Except Fault String := do
  let title ← markedLine ("[bold]" ++ compiled.name ++ "[/bold] (" ++ compiled.derive.name ++ ")")
  let text ← chainText compiled.derive.builder compiled.chain
  return title ++ sentText (String.ofList (withPictographs text.toList))

/-- The document of compiled responses: that of the only one, or an object with those of all.  Of
two with the same name the later one is in the object. -/
def presentedDocument : List Compiled → Document
  | [compiled] => compiled.openapi
  | many => .ofMembers (many.map fun compiled => (compiled.name, compiled.openapi))

/-- Compiled responses as they are printed. -/
def presented (format : OutputFormat) (compiled : List Compiled) : Except Fault String :=
  match format with
  | .openapi => .ok (sentText (presentedDocument compiled).laidOut)
  | .builder => do
    return String.join (← compiled.mapM presentedBuilder)

/-- The format that is asked for, or else the one that is set. -/
def formatOr (environment : Environment) : Option OutputFormat → Except Fault OutputFormat
  | some format => .ok format
  | none => do return (← Settings.read environment).outputFormat

/-- The outcome of a compilation: something printed, a line if there is nothing to print, or a
fault. -/
def compiledOutcome (format : OutputFormat) : Except Fault (List Compiled) → Outcome
  | .error fault => reported fault
  | .ok compiled =>
    if compiled.isEmpty then .printed 0 (sentText "(0 responses)")
    else .ofPrinted 0 (presented format compiled)

/-- Compile what a file derives. -/
def compileFile (text : Except Cause String) (type : Option String) :
    Except Fault (List Compiled) := do
  compileSource (← text.mapError Fault.nowhere) type

/-! ### Statuses and routes

Both are tables.  A literal that does not resolve is a fault of the whole command. -/

/-- A row of cells that are seen as they are written. -/
def plainRow (cells : List String) : Except Fault (List String) :=
  cells.mapM fun cell => shown (escaped cell)

/-- The outcome of resolving literals. -/
def statusOutcome (literals : List String) : Outcome :=
  match literals.mapM fun literal => do return [literal, ← resolveStatus .start literal] with
  | .error fault => reported fault
  | .ok rows => .ofPrinted 0 do
    return Table.text ⟨["literal", "status"], ← rows.mapM plainRow⟩

/-- The outcome of listing the handlers below a directory. -/
def modulesOutcome (directory : String) : Option (List PlacedFile) → Outcome
  | none =>
    let fault := Fault.nowhere (.noSuchDirectory directory)
    .ofPrinted 1 (markedLine ("[red]" ++ fault.message ++ "[/red]"))
  | some files =>
    let handlers := handlersBelow files
    .ofPrinted 0 do
      let rows ← handlers.mapM fun handler => [handler.name, handler.path].mapM shown
      let count := sentText ("(" ++ toString handlers.length ++ " handlers)")
      return Table.text ⟨["handler", "path"], rows⟩ ++ count

/-- The directory that is asked for, or else the one that is set. -/
def directoryOr (environment : Environment) (directory : Option String) : Except Fault String :=
  match directory with
  | none | some "" => do return (← Settings.read environment).routesDirectory
  | some given => .ok given

/-! ### Running

Only here is the host asked for files. -/

variable {m : Type → Type} [Monad m]

/-- What a request does. -/
def perform (host : Host m) (environment : Environment) : Request → m Outcome
  | .help => return .explained
  | .compile file type format =>
    match formatOr environment format with
    | .error fault => return .failed fault
    | .ok format => do
      return compiledOutcome format (compileFile (← host.content file) type)
  | .responses text source format =>
    match formatOr environment format with
    | .error fault => return .failed fault
    | .ok format => do
      let source ← match source with
        | none => pure (.ok none)
        | some path => do
          let read ← host.content path
          pure (read.map fun text => some (String.ofList (unifyLineBreaks text.toList)))
      return compiledOutcome format do
        let source ← source.mapError Fault.nowhere
        return [← compileResponses text source]
  | .status literals => return statusOutcome literals
  | .modules directory =>
    match directoryOr environment directory with
    | .error fault => return .failed fault
    | .ok directory => do return modulesOutcome directory (← host.filesBelow directory)
  | .path file sourceRoot => do
    let path := servedPath sourceRoot file
    return .printed 0 (sentText (String.ofList (withPictographs path.toList)))

/-- What a command line does.  The settings have to be right even where nothing depends on them,
unless everything is logged anyway. -/
def run (host : Host m) (environment : Environment) (args : List String) : m Outcome :=
  match readCommandLine args with
  | .error fault => return .misused fault
  | .ok ⟨_, none, _⟩ => return .explained
  | .ok ⟨isVerbose, some command, rest⟩ =>
    match Settings.read environment, isVerbose with
    | .error fault, false => return .failed fault
    | _, _ =>
      match readRequest command rest with
      | .error fault => return .misused fault
      | .ok request => perform host environment request

end OpenResponse
