import OpenResponse.Text.Letter
import OpenResponse.Token.Literal

/-!
# Scanning

A text is cut into tokens from left to right.  Blanks and comments are passed over; everything else
belongs to exactly one token.  The step that reads one token says only how many characters it takes
and what they are: where the next one begins follows from the text.

Each form of a step is tried in turn, and the first one whose condition holds decides: a text that
begins like a literal and goes wrong is a fault, and no later form is tried on it.  So the order of
the forms belongs to the language.  It matters for the letter `r`, with which raw literals, raw
names and plain names begin.

## Main definitions

* `Lexeme`: the characters taken by one step and the token they make, if any.
* `readLexeme`: one step.
* `scan`: the tokens of a text.
* `tokenize`: the tokens of a text together with the location of its end.

## Design notes

A step gives a number of characters and not the text behind them, so that the text that is left, and
with it the recursion of `scan`, depends on that number alone.  This is also what the proofs about
places in a text rest on: a lexeme that takes the same number of characters of two texts leaves off
at the same place of both.

Escapes of surrogates are refused, see the limits of string literals.
-/

namespace OpenResponse

/-- The outcome of one step: how many characters it takes behind the first one, and the token that
they make together, unless they are blank or a comment. -/
structure Lexeme where
  /-- The number of characters taken behind the first. -/
  more : Nat
  /-- The kind and value of the token. -/
  token : Option (TokenKind × String)
deriving DecidableEq, Repr

/-- The length of the name that a text continues with. -/
def nameRun (text : List Char) : Nat := (text.takeWhile continuesName).length

/-- The length of the fraction that a text begins with: a point and digits. -/
def fractionRun : List Char → Nat
  | '.' :: c :: rest => if isDigit c then 1 + digitRun (c :: rest) else 0
  | _ => 0

/-- The length of the exponent that a text begins with: a letter, an optional sign and digits. -/
def exponentRun : List Char → Nat
  | letter :: c :: rest =>
    if letter = 'e' ∨ letter = 'E' then
      if isDigit c then 2 + digitRun rest
      else if (c = '+' ∨ c = '-') ∧ rest.head?.any isDigit then 2 + digitRun rest
      else 0
    else 0
  | _ => 0

/--
The kind and the length of the numeric literal that a text begins with.  A base prefix takes the
whole name behind it; otherwise digits, a fraction, an exponent and a suffix follow one another, and
a fraction or an exponent makes the literal a float.
-/
def numberExtent (text : List Char) : TokenKind × Nat :=
  match text with
  | '0' :: 'x' :: rest => (.integer, 2 + nameRun rest)
  | '0' :: 'o' :: rest => (.integer, 2 + nameRun rest)
  | '0' :: 'b' :: rest => (.integer, 2 + nameRun rest)
  | _ =>
    let whole := digitRun text
    let fraction := fractionRun (text.drop whole)
    let exponent := exponentRun (text.drop (whole + fraction))
    let suffix := nameRun (text.drop (whole + fraction + exponent))
    (if fraction + exponent = 0 then .integer else .float, whole + fraction + exponent + suffix)

/-- Whether a text behind the letter `r` is that of a raw string literal. -/
def beginsRawString : List Char → Bool
  | '"' :: _ => true
  | '#' :: '"' :: _ => true
  | '#' :: '#' :: _ => true
  | _ => false

/-- The raw name behind the letter `r`, if one stands there. -/
def rawName? : List Char → Option (List Char)
  | '#' :: c :: rest => if beginsName c then some (c :: rest.takeWhile continuesName) else none
  | _ => none

/-- One step of scanning: the lexeme that begins with the character `c` at `here`. -/
def readLexeme (here : Location) (c : Char) (rest : List Char) : Except Fault Lexeme :=
  if isBlank c then
    .ok ⟨0, none⟩
  else if c = '/' ∧ rest.head? = some '/' then
    .ok ⟨(rest.takeWhile (· != '\n')).length, none⟩
  else if c = '/' ∧ rest.head? = some '*' then
    match commentExtent? (rest.drop 1) with
    | some extent => .ok ⟨1 + extent, none⟩
    | none => .error (.found here .openComment)
  else if c = '"' then
    match readString here (here.next c) rest with
    | .ok (value, used) => .ok ⟨used, some (.string, String.ofList value)⟩
    | .error fault => .error fault
  else if c = 'r' ∧ beginsRawString rest then
    match readRawString here rest with
    | .ok (value, used) => .ok ⟨used, some (.string, String.ofList value)⟩
    | .error fault => .error fault
  else if beginsName c then
    match if c = 'r' then rawName? rest else none with
    | some name => .ok ⟨1 + name.length, some (.identifier, String.ofList name)⟩
    | none =>
      .ok ⟨nameRun rest, some (.identifier, String.ofList (c :: rest.takeWhile continuesName))⟩
  else if isDigit c then
    let (kind, length) := numberExtent (c :: rest)
    .ok ⟨length - 1, some (kind, String.ofList ((c :: rest).take length))⟩
  else if c = '\'' then
    let name := rest.takeWhile continuesName
    if name.isEmpty then .error (.found here .lifetimeWithoutName)
    else .ok ⟨name.length, some (.lifetime, String.ofList name)⟩
  else if c = ':' then
    if rest.head? = some ':' then .ok ⟨1, some (.pathSeparator, "::")⟩
    else .ok ⟨0, some (.colon, ":")⟩
  else
    match TokenKind.ofMark? c with
    | some kind => .ok ⟨0, some (kind, c.toString)⟩
    | none => .error (.found here (.strayCharacter c))

/-- The tokens of a text that begins at `here`.  Each step takes one lexeme and goes on behind it,
and a lexeme without a token, as a comment is, leaves nothing behind. -/
def scan (here : Location) (text : List Char) : Except Fault (List Token) :=
  match text with
  | [] => .ok []
  | c :: rest =>
    match readLexeme here c rest with
    | .error fault => .error fault
    | .ok lexeme =>
      match scan ((here.next c).behind (rest.take lexeme.more)) (rest.drop lexeme.more) with
      | .error fault => .error fault
      | .ok tokens =>
        match lexeme.token with
        | some (kind, value) => .ok (⟨kind, value, here⟩ :: tokens)
        | none => .ok tokens
termination_by text.length
decreasing_by
  simp only [List.length_cons, List.length_drop]
  omega

/-- The tokens of a text and what comes behind the last of them. -/
structure TokenStream where
  /-- The tokens that are still to be read. -/
  tokens : List Token
  /-- Where the text ends. -/
  finish : Location
deriving DecidableEq, Repr

/-- The tokens of a text that begins at `origin`.  The place where the text ends is kept with them,
as the place of everything that is missed there. -/
def tokenize (origin : Location) (text : String) : Except Fault TokenStream :=
  match scan origin text.toList with
  | .ok tokens => .ok ⟨tokens, origin.behind text.toList⟩
  | .error fault => .error fault

end OpenResponse
