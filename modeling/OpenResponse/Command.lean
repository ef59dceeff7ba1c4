import OpenResponse.Command.Arguments
import OpenResponse.Settings

/-!
# Commands

A command line names a command and gives its operands and options.  It is read in two steps: first
the options that stand before the command, and which command it is, and then what is behind it.
Between the two the settings are looked at.

Reading in two steps is part of what the program does: an option before the command is not known to
the command, wrong settings are reported before wrong arguments, and asking for help in front of the
command is answered whatever stands behind it.  A request holds what was asked for and nothing that
the settings say, so it is a function of the command line alone.

## Main definitions

* `CommandName`: the commands.
* `CommandLine`, `readCommandLine`: the first step.
* `Request`, `readRequest`: the second step.

## Design notes

Options are values, so that the reader of arguments is the same for every command, and a command
names the options it knows.  Asking for help is an option of all of them, and it goes before
everything that is wrong with the operands.

A wrong format is found before a missing operand.
-/

namespace OpenResponse

/-- The commands.  Looking at routes is one command here, and has two commands of its own. -/
inductive CommandName
  /-- Compile what a file derives. -/
  | compile
  /-- Compile a list of responses. -/
  | responses
  /-- Resolve statuses. -/
  | status
  /-- Look at the routes that handler files serve. -/
  | routes
deriving DecidableEq, Repr

namespace CommandName

/-- The commands. -/
def all : List CommandName := [compile, responses, status, routes]

/-- The word for a command. -/
def word : CommandName → String
  | compile => "compile"
  | responses => "responses"
  | status => "status"
  | routes => "routes"

/-- The command that a word is for. -/
def ofWord? (word : String) : Option CommandName := all.find? (·.word == word)

@[simp]
theorem ofWord?_word (name : CommandName) : ofWord? name.word = some name := by
  cases name <;> decide

end CommandName

/-- What is asked for.  Everything is decided here that the arguments decide by themselves.  What
depends on the settings, such as the format when none is asked for, is left open. -/
inductive Request
  /-- How the command is to be used. -/
  | help
  /-- Everything that a file derives, or what the types with a name do. -/
  | compile (file : String) (type : Option String) (format : Option OutputFormat)
  /-- A list of responses, perhaps with a file that declares the types it refers to. -/
  | responses (text : String) (source : Option String) (format : Option OutputFormat)
  /-- Literals that stand for statuses. -/
  | status (literals : List String)
  /-- The handlers below a directory. -/
  | modules (directory : Option String)
  /-- The path that a file serves. -/
  | path (file sourceRoot : String)
deriving DecidableEq, Repr

/-! ### Options

Options that take a value are looked up by their names when all arguments have been read; the last
value counts. -/

/-- Every command explains itself. -/
def helpRule : OptionRule := ⟨"help", some 'h', false⟩

/-- Log everything. -/
def verboseRule : OptionRule := ⟨"verbose", some 'v', false⟩

/-- Only what the types with this name derive. -/
def typeRule : OptionRule := ⟨"type", some 't', true⟩

/-- How compiled responses are shown. -/
def formatRule : OptionRule := ⟨"format", some 'f', true⟩

/-- The file that declares types. -/
def sourceRule : OptionRule := ⟨"source", none, true⟩

/-- What is not part of the served paths. -/
def sourceRootRule : OptionRule := ⟨"source-root", none, true⟩

/-- The format that is asked for, if one is. -/
def readFormat (arguments : Arguments) : Except UsageFault (Option OutputFormat) :=
  match arguments.value? formatRule.name with
  | none => .ok none
  | some given =>
    match OutputFormat.ofName? given with
    | some format => .ok (some format)
    | none => .error (.badChoice formatRule.name given)

/-! ### Operands

A command has one operand, at most one, or any number of them but none. -/

/-- The only operand. -/
def onlyOperand (name : String) : List String → Except UsageFault String
  | [] => .error (.operandMissing name)
  | [operand] => .ok operand
  | _ :: extra :: _ => .error (.operandGiven extra)

/-- The only operand, if there is one. -/
def operandIfAny : List String → Except UsageFault (Option String)
  | [] => .ok none
  | [operand] => .ok (some operand)
  | _ :: extra :: _ => .error (.operandGiven extra)

/-! ### The first step

Options must come first here, as everything behind the command is the business of the command. -/

/-- A command and what stands before and behind it.  What stands behind the command is kept as it
is, to be read by the rules of the command. -/
structure CommandLine where
  /-- Whether everything is logged. -/
  isVerbose : Bool
  /-- The command, unless an explanation is asked for instead. -/
  command : Option CommandName
  /-- The arguments behind the command. -/
  rest : List String
deriving DecidableEq, Repr

/-- Read the options before the command, and which command it is. -/
def readCommandLine (args : List String) : Except UsageFault CommandLine := do
  let arguments ← readArguments [verboseRule, helpRule] true args
  let isVerbose := arguments.has verboseRule.name
  if arguments.has helpRule.name then return ⟨isVerbose, none, []⟩
  match arguments.operands with
  | [] => .error .commandMissing
  | word :: rest =>
    match CommandName.ofWord? word with
    | some command => .ok ⟨isVerbose, some command, rest⟩
    | none => .error (.unknownCommand word)

/-! ### The second step

Behind a command options and operands may be mixed.  The command for routes has commands of its own,
and is read in two steps again. -/

/-- Read the arguments of a command that knows some options besides asking for help. -/
def readWith (rules : List OptionRule) (args : List String)
    (request : Arguments → Except UsageFault Request) : Except UsageFault Request := do
  let arguments ← readArguments (helpRule :: rules) false args
  if arguments.has helpRule.name then return .help
  request arguments

/-- Read the arguments of the command that looks at routes. -/
def readRoutesRequest (args : List String) : Except UsageFault Request := do
  let arguments ← readArguments [helpRule] true args
  if arguments.has helpRule.name then return .help
  match arguments.operands with
  | [] => .error .commandMissing
  | "modules" :: rest =>
    readWith [] rest fun arguments => do
      return .modules (← operandIfAny arguments.operands)
  | "path" :: rest =>
    readWith [sourceRootRule] rest fun arguments => do
      let file ← onlyOperand "FILE" arguments.operands
      return .path file ((arguments.value? sourceRootRule.name).getD defaultRoutesDirectory)
  | word :: _ => .error (.unknownCommand word)

/-- Read the arguments behind a command.  Each command names the options it knows and says what it
makes of the operands, and all but the one for routes are read in one step. -/
def readRequest (command : CommandName) (args : List String) : Except UsageFault Request :=
  match command with
  | .compile =>
    readWith [typeRule, formatRule] args fun arguments => do
      let format ← readFormat arguments
      let file ← onlyOperand "FILE" arguments.operands
      return .compile file (arguments.value? typeRule.name) format
  | .responses =>
    readWith [sourceRule, formatRule] args fun arguments => do
      let format ← readFormat arguments
      let text ← onlyOperand "TEXT" arguments.operands
      return .responses text (arguments.value? sourceRule.name) format
  | .status =>
    readWith [] args fun arguments =>
      if arguments.operands.isEmpty then .error (.operandMissing "LITERALS")
      else .ok (.status arguments.operands)
  | .routes => readRoutesRequest args

end OpenResponse
