import OpenResponse.Token
import OpenResponse.Text.Printable

/-!
# Faults

Everything that can go wrong is one of the causes below.  A fault is a cause together with the place
it was found at, if it has one.  The wording of a cause is fixed in one function, so that a message
can be read off its cause and never has to be taken apart again.

A cause holds what its message needs and nothing else: the text of the token that was met, the keys
that would have been right.  So two faults with the same cause at the same place are the same, and
the laws about faults can say which cause there is instead of which words are printed.

## Main definitions

* `Cause`: what went wrong.
* `Fault`: a cause with its location.
* `FaultKind`, `Cause.kind`: the families of causes.
* `Fault.message`: the location, the wording and the hint of a fault.

## Design notes

The kind of a fault decides how a command ends.  The kinds that only have one cause are those of
faults that no message is foreseen for; all others are families with a name.

Faults of what is looked up, by name or by path, and those of settings have no place.  A fault of a
text that is read has the place of the token that was met, unless it comes out of a conversion that
does not know of places.
-/

namespace OpenResponse

/-- The families of causes.  A command decides by them whether it ends with a message of its own. -/
inductive FaultKind
  /-- An unexpected or missing token. -/
  | grammar
  /-- Constructs that exclude each other were used together. -/
  | conflict
  /-- A name or a status that is not known. -/
  | resolution
  /-- A declaration of an unsupported shape. -/
  | shape
  /-- A file or directory that does not exist. -/
  | absence
  /-- A directory in the place of a file. -/
  | directoryGiven
  /-- A file in the place of a directory. -/
  | fileAsDirectory
  /-- A setting with a value that is not among its choices. -/
  | setting
  /-- A character escape whose number is too large to be looked at. -/
  | overflow
  /-- A number with more digits than are written. -/
  | numeralLimit
  /-- A field without a name where a name is needed. -/
  | namelessField
  /-- An instruction chain without instructions. -/
  | emptyChain
  /-- Marks in a text for the terminal that do not match. -/
  | markup
deriving DecidableEq, Repr

/-- Which of the two example keys a message is about. -/
inductive ExampleKey
  | single
  | several
deriving DecidableEq, Repr

/-- What went wrong.  Each constructor holds what its wording mentions, so that the wording is a
function of the cause. -/
inductive Cause
  /-- A block comment without an end. -/
  | openComment
  /-- An apostrophe that no name follows. -/
  | lifetimeWithoutName
  /-- A character that begins no token. -/
  | strayCharacter (c : Char)
  /-- A string literal without an end. -/
  | openString
  /-- A numbered escape that denotes no character. -/
  | badUnicodeEscape (digits : String)
  /-- A two-digit escape that denotes no character. -/
  | badHexEscape (digits : String)
  /-- A backslash before something that it does not escape. -/
  | unknownEscape (text : String)
  /-- A numbered escape with a number that does not fit a machine word. -/
  | escapeOverflow
  /-- A number with more digits than are written. -/
  | numeralLimit
  /-- A raw string literal without its opening quote. -/
  | rawStringWithoutQuote
  /-- A raw string literal without an end. -/
  | openRawString
  /-- An integer literal without a value. -/
  | badInteger (text : String)
  /-- A float literal without a value. -/
  | badFloat (text : String)
  /-- Another token than the one that has to stand here. -/
  | expected (what found : String)
  /-- A token that begins no type. -/
  | expectedType (found : String)
  /-- A tuple type. -/
  | tupleType
  /-- A token behind the end of what was to be read. -/
  | trailing (found : String)
  /-- A token other than a key in a list of keys. -/
  | keyExpected (found : String) (keys : List String)
  /-- A key that is not among the keys of its list. -/
  | unknownKey (key : String) (keys : List String)
  /-- A key of a header other than its description. -/
  | unknownHeaderKey (key : String)
  /-- A response without a status. -/
  | statusMissing
  /-- A declaration or variant without an attribute that gives its status. -/
  | statusAttributeMissing
  /-- A response by reference together with keys that describe a response by value. -/
  | referenceWithValue
  /-- An example of a whole enum whose variants have content of their own. -/
  | enumLevelExample (key : ExampleKey)
  /-- A string that is not one of the status ranges. -/
  | badStatusRange (text : String) (ranges : List String)
  /-- A name that is not the name of a status. -/
  | unknownStatus (name : String)
  /-- A response to be inlined where none can be looked up. -/
  | inlineWithoutResolver (name : String)
  /-- A response to be inlined that no declaration provides. -/
  | inlineUnknown (name : String)
  /-- A response that inlines itself. -/
  | inlineCycle (name : String)
  /-- Responses to be expanded where none can be looked up. -/
  | expandWithoutTypes (path : String)
  /-- Responses to be expanded that no declaration provides. -/
  | expandUnknown (path : String)
  /-- A type that was asked for and is not there. -/
  | noSuchType (name : String)
  /-- A union. -/
  | unionShape
  /-- A tuple struct without fields. -/
  | emptyTupleShape
  /-- A tuple of several fields. -/
  | wideTupleShape
  /-- A field without a name among named fields. -/
  | namelessField
  /-- An instruction chain without instructions. -/
  | emptyChain
  /-- A file that does not exist. -/
  | noSuchFile (path : String)
  /-- A directory that does not exist. -/
  | noSuchDirectory (path : String)
  /-- A path that leads to a directory where a file is to be read. -/
  | directoryGiven (path : String)
  /-- A path that leads through a file. -/
  | fileAsDirectory (path : String)
  /-- An output format that is not among the choices. -/
  | badOutputFormat (choices : List String) (given : String)
  /-- A mark that ends what no mark has begun. -/
  | unmatchedTag (tag : String)
deriving DecidableEq, Repr

namespace Cause

/-- The family that a cause belongs to.  A cause without a line of its own is one of the grammar. -/
def kind : Cause → FaultKind
  | referenceWithValue | enumLevelExample _ => .conflict
  | badStatusRange .. | unknownStatus _ | inlineWithoutResolver _ | inlineUnknown _
  | inlineCycle _ | expandWithoutTypes _ | expandUnknown _ | noSuchType _ => .resolution
  | unionShape | emptyTupleShape | wideTupleShape => .shape
  | noSuchFile _ | noSuchDirectory _ => .absence
  | directoryGiven _ => .directoryGiven
  | fileAsDirectory _ => .fileAsDirectory
  | badOutputFormat .. => .setting
  | unmatchedTag _ => .markup
  | escapeOverflow => .overflow
  | numeralLimit => .numeralLimit
  | namelessField => .namelessField
  | emptyChain => .emptyChain
  | _ => .grammar

/-- A list of alternatives in a message. -/
def choices (words : List String) : String := ", ".intercalate words

/-- The word for an example key. -/
def exampleWord : ExampleKey → String
  | .single => "example"
  | .several => "examples"

/-- The wording of a cause.  Everything that is variable in it is a field of the cause. -/
def wording : Cause → String
  | openComment => "unterminated block comment"
  | lifetimeWithoutName => "expected lifetime name after `'`"
  | strayCharacter c => "unexpected character `" ++ c.toString ++ "`"
  | openString => "unterminated string literal"
  | badUnicodeEscape digits => "invalid unicode escape `\\u\x7b" ++ digits ++ "\x7d`"
  | badHexEscape digits => "invalid hex escape `\\x" ++ digits ++ "`"
  | unknownEscape text => "unknown character escape `\\" ++ text ++ "`"
  | escapeOverflow => "character escape out of range"
  | numeralLimit => "number with too many digits"
  | rawStringWithoutQuote => "expected `\"` in raw string literal"
  | openRawString => "unterminated raw string literal"
  | badInteger text => "malformed integer literal `" ++ text ++ "`"
  | badFloat text => "malformed float literal `" ++ text ++ "`"
  | expected what found => "expected " ++ what ++ ", found " ++ found
  | expectedType found => "unexpected token, expected type such as String, found " ++ found
  | tupleType => "tuple types are not supported, expected `()`"
  | trailing found => "unexpected " ++ found ++ " after end of attribute"
  | keyExpected found keys => "unexpected " ++ found ++ ", expected any of: " ++ choices keys
  | unknownKey key keys =>
    "unexpected attribute `" ++ key ++ "`, expected any of: " ++ choices keys
  | unknownHeaderKey key => "unexpected attribute `" ++ key ++ "`, expected: description"
  | statusMissing => "missing expected `status` attribute"
  | statusAttributeMissing =>
    "missing expected `status` attribute, expected `#[response(status = ...)]`"
  | referenceWithValue =>
    "The `response` attribute may only be used in conjunction with the `status` attribute"
  | enumLevelExample _ =>
    "Enum with `#[content]` attribute in variant cannot have enum level `example` or " ++
      "`examples` defined"
  | badStatusRange text ranges =>
    "Invalid status range `" ++ text ++ "`, expected one of: " ++ choices ranges
  | unknownStatus name =>
    "No associated item `" ++ name ++ "` found for struct `http::StatusCode`"
  | inlineWithoutResolver name =>
    "cannot inline response `" ++ name ++ "`: no response resolver available"
  | inlineUnknown name =>
    "cannot inline response `" ++ name ++ "`: no `ToResponse` type of that name in this source"
  | inlineCycle name => "cannot inline response `" ++ name ++ "`: it inlines itself"
  | expandWithoutTypes path =>
    "cannot expand responses of `" ++ path ++ "`: type is not known"
  | expandUnknown path =>
    "cannot expand responses of `" ++ path ++
      "`: no `IntoResponses` type of that name in this source"
  | noSuchType name =>
    "no type `" ++ name ++ "` deriving `ToResponse` or `IntoResponses` found"
  | unionShape => "Union type is not supported with `ToResponse`"
  | emptyTupleShape => "Unnamed struct used for `ToResponse` must have one argument"
  | wideTupleShape => "unsupported: tuple-shaped response body"
  | namelessField => "field without a name"
  | emptyChain => "empty instruction chain"
  | noSuchFile path => "File not found: " ++ path
  | noSuchDirectory path => "Directory not found: " ++ path
  | directoryGiven path => "Is a directory: " ++ path
  | fileAsDirectory path => "Not a directory: " ++ path
  | badOutputFormat formats given =>
    "RESPDOC_OUTPUT_FORMAT must be one of " ++ choices formats ++ ", got " ++ quoted given
  | unmatchedTag tag => "closing tag `[" ++ tag ++ "]` has no opening tag"

/-- The hint that a cause comes with, if it has one. -/
def hint? : Cause → Option String
  | enumLevelExample key => some ("Try defining `" ++ exampleWord key ++ "` on the enum variant")
  | _ => none

end Cause

/-- A cause and the place where it was found.  Two faults are the same only if they have the same
place. -/
structure Fault where
  /-- What went wrong. -/
  cause : Cause
  /-- Where it went wrong, if it has a place. -/
  location : Option Location
deriving DecidableEq, Repr

namespace Fault

/-- A fault found at a place. -/
def found (location : Location) (cause : Cause) : Fault := ⟨cause, some location⟩

/-- A fault that has no place. -/
def nowhere (cause : Cause) : Fault := ⟨cause, none⟩

/-- The family that a fault belongs to.  The place has no part in it. -/
def kind (fault : Fault) : FaultKind := fault.cause.kind

/-- The message of a fault: its location, its wording and, on a line of its own, its hint. -/
def message (fault : Fault) : String :=
  let place := match fault.location with
    | some location => location.text ++ ": "
    | none => ""
  let hint := match fault.cause.hint? with
    | some text => "\n  help: " ++ text
    | none => ""
  place ++ fault.cause.wording ++ hint

end Fault

end OpenResponse
