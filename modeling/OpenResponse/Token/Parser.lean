import OpenResponse.Token.Scan

/-!
# Parsing a token stream

A parser reads tokens off the front of a stream.  It keeps what it has read even when it fails, so
that the place of a failure can be told from the stream that is left.

Parsers of nested or repeated things recurse on a budget.  The budget is the number of tokens that
are left, and every recursive call comes after a token has been read; with no tokens left the answer
is the one that the end of the input gives.

## Main definitions

* `Parser`: a reader of a token stream.
* `peek`, `next`, `eat`, `expect`: the elementary readers.
* `separated`: a list of items up to a closing mark, with an optional comma at its end.
* `keyed`: a list of keys, each followed by what its handler reads.

## Design notes

A list of keys is one parser with a table of handlers: the key decides which handler reads on, and
the handlers share the state that the list builds up.  What a key may not be is said once, in the
fault of the list.  A parser of a whole text checks behind its last token that nothing is left over;
one that is given the arguments of an attribute runs until the end of the input.
-/

namespace OpenResponse

namespace TokenStream

/-- The token at a distance from the front.  Behind the last token stands the end of the input. -/
def lookahead (stream : TokenStream) (offset : Nat) : Token :=
  match stream.tokens[offset]? with
  | some token => token
  | none => ⟨.endOfInput, "", stream.finish⟩

/-- The stream without its first token. -/
def advance (stream : TokenStream) : TokenStream := { stream with tokens := stream.tokens.tail }

@[simp]
theorem lookahead_zero_cons (token : Token) (tokens : List Token) (finish : Location) :
    lookahead ⟨token :: tokens, finish⟩ 0 = token := rfl

end TokenStream

/-- A reader of a token stream, which leaves what it did not read. -/
abbrev Parser (α : Type) := EStateM Fault TokenStream α

namespace Parser

variable {α σ : Type}

/-- The token at a distance from the front. -/
def lookahead (offset : Nat) : Parser Token := do return (← get).lookahead offset

/-- The first token.  At the end of the input it is a token for the end. -/
def peek : Parser Token := lookahead 0

/-- The number of tokens that are left. -/
def remaining : Parser Nat := do return (← get).tokens.length

/-- Read the first token.  The end of the input can be read any number of times. -/
def next : Parser Token := do
  let token ← peek
  modify TokenStream.advance
  return token

/-- Fail at a token. -/
def failAt (token : Token) (cause : Cause) : Parser α := throw (.found token.location cause)

/-- Fail because another token had to stand at the front. -/
def failExpected (what : String) : Parser α := do
  let token ← peek
  failAt token (.expected what token.describe)

/-- Read a token of the given kind if it is the first one. -/
def eat (kind : TokenKind) : Parser (Option Token) := do
  if (← peek).kind == kind then some <$> next else return none

/-- Read a token of the given kind, called `what` in the message. -/
def expectAs (kind : TokenKind) (what : String) : Parser Token := do
  if (← peek).kind == kind then next else failExpected what

/-- Read a token of the given kind.  The message calls it by the label of its kind. -/
def expect (kind : TokenKind) : Parser Token := expectAs kind kind.label

/-- Whether the first token is the given word and the second one of the given kind. -/
def atWordBefore (word : String) (kind : TokenKind) : Parser Bool := do
  return (← peek).isWord word && (← lookahead 1).kind == kind

/-- Whether no token is left. -/
def atEnd : Parser Bool := do return (← peek).kind == .endOfInput

/-- Fail if a token is left. -/
def expectEnd : Parser Unit := do
  let token ← peek
  unless token.kind == .endOfInput do failAt token (.trailing token.describe)

/--
Items up to a closing mark, separated by commas, the last of which may be followed by one too.
`what` is what has to stand behind an item.
-/
def separatedWithin (close : TokenKind) (what : String) (item : Parser α) : Nat → Parser (List α)
  | 0 => do
    let first ← item
    let _ ← expectAs close what
    return [first]
  | budget + 1 => do
    if (← eat close).isSome then return []
    let first ← item
    if (← eat .comma).isSome then
      return first :: (← separatedWithin close what item budget)
    else
      let _ ← expectAs close what
      return [first]

/-- Items up to a closing mark, with as many tokens to spend as are left. -/
def separated (close : TokenKind) (what : String) (item : Parser α) : Parser (List α) := do
  separatedWithin close what item (← remaining)

/-- Items between parentheses. -/
def group (item : Parser α) : Parser (List α) := do
  let _ ← expect .openParen
  separated .closeParen "`,` or `)`" item

/-- What reads the value of a key: it is given where the key stands and what was read before. -/
abbrev KeyHandler (σ : Type) := Location → σ → Parser σ

/-- The fault of a token that is not a key. -/
def failKey (handlers : List (String × KeyHandler σ)) (token : Token) : Parser α :=
  failAt token (.keyExpected token.describe (handlers.map (·.1)))

/--
Keys up to, and not including, a closing mark.  Each key is read by its handler, and commas separate
them.
-/
def keyedWithin (close : TokenKind) (handlers : List (String × KeyHandler σ)) :
    Nat → σ → Parser σ
  | 0, state => do
    let token ← peek
    if token.kind == close then return state
    failKey handlers token
  | budget + 1, state => do
    let token ← peek
    if token.kind == close then return state
    unless token.kind == .identifier do failKey handlers token
    let _ ← next
    match handlers.lookup token.value with
    | none => failAt token (.unknownKey token.value (handlers.map (·.1)))
    | some handler =>
      let state ← handler token.location state
      unless (← peek).kind == close do
        let _ ← expectAs .comma ("`,` or " ++ close.label)
      keyedWithin close handlers budget state

/-- Keys up to a closing mark, with as many tokens to spend as are left. -/
def keyed (close : TokenKind) (handlers : List (String × KeyHandler σ)) (state : σ) :
    Parser σ := do
  keyedWithin close handlers (← remaining) state

/-- Run a parser on a text that begins at `origin`. -/
def runOn (parser : Parser α) (origin : Location) (text : String) : Except Fault α :=
  match tokenize origin text with
  | .error fault => .error fault
  | .ok stream =>
    match parser.run stream with
    | .ok value _ => .ok value
    | .error fault _ => .error fault

/-- Run a parser on the whole of a text that begins at `origin`. -/
def runOnAll (parser : Parser α) (origin : Location) (text : String) : Except Fault α :=
  runOn (do let value ← parser; expectEnd; return value) origin text

end Parser

end OpenResponse
