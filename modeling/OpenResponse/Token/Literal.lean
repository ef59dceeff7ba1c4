import OpenResponse.Fault
import OpenResponse.Number.Numeral

/-!
# Literals inside a text

Reading a string literal, a raw string literal or a number off the front of a text.  Each reader
says how many characters it used, so that the text behind the literal and its location follow from
the text alone.

## Main definitions

* `readEscape`: what stands behind a backslash.
* `readString`: a string literal behind its opening quote.
* `readRawString`: a raw string literal behind its letter.
* `commentExtent?`: the length of a block comment behind its opening mark.

## Design notes

An escape is looked at in two steps: `escapedChar` turns a number into the character it denotes and
knows nothing of texts, and `readEscape` finds the number.

## Limits

Strings here are lists of characters in the sense of Unicode, which the surrogates, the numbers from
`0xd800` to `0xdfff`, are not.  An escape such as `\u{d800}` is refused like one whose number is too
large to be a character.  A reader whose strings may hold any code point takes such an escape for a
string with a lone surrogate in it, so on texts with these escapes, and on no others, the two
differ.  What an escape denotes never decides where the next token begins: how many characters an
escape takes depends on its own text alone.
-/

namespace OpenResponse

/-- The character that a single letter stands for behind a backslash. -/
def simpleEscape? : Char → Option Char
  | 'n' => some '\n'
  | 'r' => some '\r'
  | 't' => some '\t'
  | '\\' => some '\\'
  | '0' => some '\x00'
  | '\'' => some '\''
  | '"' => some '"'
  | _ => none

/-- The character with a number.  Numbers beyond thirty-two signed bits are a fault of their own;
others that are no character, the negative ones, the surrogates and those beyond the last character,
are the given fault.  That a surrogate is refused comes from the strings here, which hold characters
only: a string of code points could hold it. -/
def escapedChar (bad : Cause) (number : Option Int) : Except Cause Char :=
  match number with
  | none => .error bad
  | some n =>
    if n > 0x7fffffff ∨ n < -0x80000000 then .error .escapeOverflow
    else if n < 0 ∨ ¬ n.toNat.isValidChar then .error bad
    else .ok (Char.ofNat n.toNat)

/-- What stands behind a backslash: the characters that it denotes, and the number of characters
that it takes.  A line feed denotes nothing and takes the blanks behind it along.  Digits between
braces may be separated by underscores, and the number that they make has to be that of a character,
which a surrogate is not. -/
def readEscape (text : List Char) : Except Cause (List Char × Nat) :=
  match text with
  | 'u' :: '{' :: rest =>
    let digits := rest.takeWhile (· != '}')
    match escapedChar (.badUnicodeEscape (String.ofList digits))
        (readNumeral? 16 (digits.filter (· != '_'))) with
    | .ok c => .ok ([c], digits.length + 3)
    | .error cause => .error cause
  | 'x' :: rest =>
    let digits := rest.take 2
    match escapedChar (.badHexEscape (String.ofList digits)) (readNumeral? 16 digits) with
    | .ok c => .ok ([c], digits.length + 1)
    | .error cause => .error cause
  | '\n' :: _ => .ok ([], (text.takeWhile isBlank).length)
  | c :: _ =>
    match simpleEscape? c with
    | some denoted => .ok ([denoted], 1)
    | none => .error (.unknownEscape c.toString)
  | [] => .error (.unknownEscape "")

/-- The fault for an escape at `here` in a literal that begins at `start`.  An unknown escape is
reported where it stands, every other fault where its literal begins. -/
def escapeFault (start here : Location) : Cause → Fault
  | .unknownEscape text => .found here (.unknownEscape text)
  | .escapeOverflow => .nowhere .escapeOverflow
  | cause => .found start cause

/--
The value of a string literal whose opening quote is read, and the number of characters that it
takes, its closing quote included.
-/
def readString (start here : Location) (text : List Char) : Except Fault (List Char × Nat) :=
  match text with
  | [] => .error (.found start .openString)
  | '"' :: _ => .ok ([], 1)
  | '\\' :: rest =>
    let here := here.next '\\'
    match readEscape rest with
    | .error cause => .error (escapeFault start here cause)
    | .ok (denoted, used) =>
      match readString start (here.behind (rest.take used)) (rest.drop used) with
      | .error fault => .error fault
      | .ok (value, more) => .ok (denoted ++ value, 1 + used + more)
  | c :: rest =>
    match readString start (here.next c) rest with
    | .error fault => .error fault
    | .ok (value, more) => .ok (c :: value, 1 + more)
termination_by text.length
decreasing_by
  all_goals
    simp only [List.length_cons, List.length_drop]
    omega

/-- The text in front of the first quote that the given number of hash marks follows. -/
def rawValue? (hashes : Nat) : List Char → Option (List Char)
  | [] => none
  | c :: rest =>
    if c = '"' ∧ (List.replicate hashes '#').isPrefixOf rest then some []
    else (rawValue? hashes rest).map (c :: ·)

/--
The value of a raw string literal whose letter is read, and the number of characters that it takes.
-/
def readRawString (start : Location) (text : List Char) : Except Fault (List Char × Nat) :=
  let hashes := (text.takeWhile (· == '#')).length
  match text.drop hashes with
  | '"' :: rest =>
    match rawValue? hashes rest with
    | some value => .ok (value, hashes + 1 + value.length + 1 + hashes)
    | none => .error (.found start .openRawString)
  | _ => .error (.found start .rawStringWithoutQuote)

/-- The number of characters of a block comment behind its opening mark, its closing mark
included. -/
def commentExtent? : List Char → Option Nat
  | [] => none
  | '*' :: '/' :: _ => some 2
  | _ :: rest => (commentExtent? rest).map (· + 1)

/-- The length of the run of digits and underscores that a text begins with. -/
def digitRun (text : List Char) : Nat := (text.takeWhile (fun c => c == '_' || isDigit c)).length

end OpenResponse
