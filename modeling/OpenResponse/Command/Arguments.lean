/-!
# Arguments of a command line

The arguments of a command are options, which begin with a hyphen, and operands.  An option may take
a value, which is joined to it or is the next argument, whatever that looks like.  Letters behind a
single hyphen are options of their own; two hyphens alone end the options.

Arguments are read from left to right, with one option at most waiting for its value.  An option
that takes a value takes what comes next, be it an option or two hyphens, so that whether an
argument is an option can only be told from the arguments before it.

## Main definitions

* `OptionRule`: an option that a command knows.
* `UsageFault`: how arguments fail to be those of a command.
* `readArguments`: the options and operands among arguments.

## Design notes

A letter that takes a value takes the rest of its argument as the value, and is the last letter
then.  Names of options have to be written out.

The options that are given are kept as a list with repetitions, in their order.  A command asks for
the last value, and for an option without a value it only asks whether it was given.
-/

namespace OpenResponse

/-- An option that a command knows. -/
structure OptionRule where
  /-- The name of the option, without its two hyphens. -/
  name : String
  /-- The letter that may stand for it behind a single hyphen. -/
  letter : Option Char
  /-- Whether the option takes a value. -/
  takesValue : Bool
deriving DecidableEq, Repr

/-- How arguments fail to be those of a command. -/
inductive UsageFault
  /-- An option that the command does not know. -/
  | unknownOption (text : String)
  /-- An option without its value at the end of the arguments. -/
  | valueMissing (name : String)
  /-- A value for an option that takes none. -/
  | valueGiven (name : String)
  /-- A value that is not among the choices of its option. -/
  | badChoice (name value : String)
  /-- Arguments without a command. -/
  | commandMissing
  /-- A command that is not known. -/
  | unknownCommand (text : String)
  /-- An operand that has to be given. -/
  | operandMissing (name : String)
  /-- An operand that the command has no use for. -/
  | operandGiven (text : String)
deriving DecidableEq, Repr

/-- The wording of a usage fault. -/
def UsageFault.message : UsageFault → String
  | unknownOption text => "No such option: " ++ text
  | valueMissing name => "Option '--" ++ name ++ "' requires an argument."
  | valueGiven name => "Option '--" ++ name ++ "' does not take a value."
  | badChoice name value => "Invalid value for '--" ++ name ++ "': '" ++ value ++ "'."
  | commandMissing => "Missing command."
  | unknownCommand text => "No such command '" ++ text ++ "'."
  | operandMissing name => "Missing argument '" ++ name ++ "'."
  | operandGiven text => "Got unexpected extra argument (" ++ text ++ ")"

/-- The options and operands among arguments. -/
structure Arguments where
  /-- The names of the options that are given, with their values, in the order in which they are
  given; the value of an option that takes none is empty. -/
  options : List (String × String)
  /-- The arguments that are no options. -/
  operands : List String
deriving DecidableEq, Repr

namespace Arguments

/-- The value that was last given to an option. -/
def value? (arguments : Arguments) (name : String) : Option String :=
  (arguments.options.reverse.find? (·.1 == name)).map (·.2)

/-- Whether an option is given. -/
def has (arguments : Arguments) (name : String) : Bool := arguments.options.any (·.1 == name)

end Arguments

/-- The options of one argument, and the option that is still without a value behind it. -/
abbrev OptionArgument := List (String × String) × Option String

/-- Read letters behind a single hyphen. -/
def readLetters (rules : List OptionRule) : List Char → Except UsageFault OptionArgument
  | [] => .ok ([], none)
  | c :: rest =>
    match rules.find? (·.letter == some c) with
    | none => .error (.unknownOption (String.ofList ['-', c]))
    | some rule =>
      if rule.takesValue then
        if rest.isEmpty then .ok ([], some rule.name)
        else .ok ([(rule.name, String.ofList rest)], none)
      else do
        let (options, pending) ← readLetters rules rest
        return ((rule.name, "") :: options, pending)

/-- Read an option by its name, perhaps with its value behind an equals sign. -/
def readNamed (rules : List OptionRule) (text : List Char) : Except UsageFault OptionArgument :=
  let name := String.ofList (text.takeWhile (· != '='))
  let joined := (text.dropWhile (· != '=')).tail?.map String.ofList
  match rules.find? (·.name == name), joined with
  | none, _ => .error (.unknownOption ("--" ++ name))
  | some rule, none => .ok (if rule.takesValue then ([], some name) else ([(name, "")], none))
  | some rule, some value =>
    if rule.takesValue then .ok ([(name, value)], none) else .error (.valueGiven name)

/-- Whether an argument begins with a hyphen and goes on after it. -/
def isOption (arg : List Char) : Bool :=
  match arg with
  | '-' :: _ :: _ => true
  | _ => false

/-- Read an argument that begins with a hyphen. -/
def readOption (rules : List OptionRule) (arg : List Char) : Except UsageFault OptionArgument :=
  match arg with
  | '-' :: '-' :: name => readNamed rules name
  | '-' :: letters => readLetters rules letters
  | other => .error (.unknownOption (String.ofList other))

/--
Read arguments behind those that `read` holds.  `pending` is the option that the next argument is
the value of.  Where the options must come first, the first operand ends them.
-/
def readArgumentsFrom (rules : List OptionRule) (optionsFirst : Bool) (pending : Option String)
    (read : Arguments) : List String → Except UsageFault Arguments
  | [] =>
    match pending with
    | none => .ok read
    | some name => .error (.valueMissing name)
  | arg :: rest =>
    match pending with
    | some name =>
      readArgumentsFrom rules optionsFirst none
        { read with options := read.options ++ [(name, arg)] } rest
    | none =>
      if arg = "--" then .ok { read with operands := read.operands ++ rest }
      else if isOption arg.toList then
        match readOption rules arg.toList with
        | .error fault => .error fault
        | .ok (options, pending) =>
          readArgumentsFrom rules optionsFirst pending
            { read with options := read.options ++ options } rest
      else if optionsFirst then .ok { read with operands := read.operands ++ arg :: rest }
      else
        readArgumentsFrom rules optionsFirst none
          { read with operands := read.operands ++ [arg] } rest

/-- The options and operands among arguments. -/
def readArguments (rules : List OptionRule) (optionsFirst : Bool) (args : List String) :
    Except UsageFault Arguments :=
  readArgumentsFrom rules optionsFirst none ⟨[], []⟩ args

end OpenResponse
