import OpenResponse.Fault
import OpenResponse.Route.Path
import OpenResponse.Text.Casing

/-!
# Settings

Three variables of the environment change what is done when nothing else is asked for: where handler
files are looked for, how much is logged, and how compiled responses are shown.

A variable that is not set is not the same as one that is set to the empty text.  The first leaves
the default in place; the second is a value like any other, and for the output format a wrong one.

## Main definitions

* `OutputFormat`: the two ways to show compiled responses.
* `Environment`: the variables that are looked at.
* `Settings`, `Settings.read`: what the variables say.

## Design notes

The names of the formats are compared in lower case, and the name in the message is the one in lower
case, too.  The level for messages is kept in upper case and not checked against a list, because
nothing here logs.

Reading settings can only fail over the output format.  Commands that show nothing in a format read
them all the same, before they look at their own arguments.
-/

namespace OpenResponse

/-- The ways to show compiled responses.  The first of them is the one that is used when nothing is
said. -/
inductive OutputFormat
  /-- The text of the builder. -/
  | builder
  /-- The document that the builder builds. -/
  | openapi
deriving DecidableEq, Repr

namespace OutputFormat

/-- The formats. -/
def all : List OutputFormat := [builder, openapi]

/-- The name of a format. -/
def name : OutputFormat → String
  | builder => "builder"
  | openapi => "openapi"

/-- The format with a name. -/
def ofName? (name : String) : Option OutputFormat := all.find? (·.name == name)

@[simp]
theorem ofName?_name (format : OutputFormat) : ofName? format.name = some format := by
  cases format <;> decide

end OutputFormat

/-- The variables that are looked at, as far as they are set. -/
structure Environment where
  /-- The directory of handler files. -/
  routesDirectory : Option String
  /-- The level from which on messages are logged. -/
  logLevel : Option String
  /-- The name of the output format. -/
  outputFormat : Option String
deriving Repr

/-- The environment that a way to look up variables gives. -/
def Environment.lookup {m : Type → Type} [Monad m] (find : String → m (Option String)) :
    m Environment := do
  let routesDirectory ← find "RESPDOC_ROUTES_DIR"
  let logLevel ← find "RESPDOC_LOG_LEVEL"
  let outputFormat ← find "RESPDOC_OUTPUT_FORMAT"
  return ⟨routesDirectory, logLevel, outputFormat⟩

/-- What is done when nothing else is asked for.  They are read from the environment; arguments go
before them. -/
structure Settings where
  /-- The directory of handler files. -/
  routesDirectory : String
  /-- The level from which on messages are logged. -/
  logLevel : String
  /-- How compiled responses are shown. -/
  outputFormat : OutputFormat
deriving DecidableEq, Repr

/-- The settings that an environment makes.  The format may be written in any case; every other
value than the name of a format is a fault. -/
def Settings.read (environment : Environment) : Except Fault Settings :=
  let given := lowercase (environment.outputFormat.getD OutputFormat.builder.name)
  match OutputFormat.ofName? given with
  | some format => .ok {
      routesDirectory := environment.routesDirectory.getD defaultRoutesDirectory
      logLevel := uppercase (environment.logLevel.getD "WARNING")
      outputFormat := format }
  | none => .error (.nowhere (.badOutputFormat (OutputFormat.all.map (·.name)) given))

end OpenResponse
