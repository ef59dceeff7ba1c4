import OpenResponse.Location

/-!
# Tokens of the attribute language

The arguments of an attribute are a sequence of names, literals and punctuation marks.  A token
remembers what it is, the text or value that it carries, and where it begins.

The kinds are those of the language that attributes are written in, and not those of a program text:
there is one kind for all names, keywords among them, and the marks are single characters but for
the two colons of a path.  Numbers keep their text, because whether a number is in range depends on
where it stands.

## Main definitions

* `TokenKind`: the kinds of tokens, with the name that a message gives each of them.
* `Token`: a token with its value and its location.
* `Token.describe`: how a message calls a token that it met.
-/

namespace OpenResponse

/-- The kinds of tokens.  `endOfInput` stands behind the last token of a text. -/
inductive TokenKind
  | identifier
  | string
  | integer
  | float
  | lifetime
  | openParen
  | closeParen
  | openBracket
  | closeBracket
  | openBrace
  | closeBrace
  | comma
  | equals
  | colon
  | pathSeparator
  | less
  | greater
  | ampersand
  | bang
  | semicolon
  | minus
  | pound
  | endOfInput
deriving DecidableEq, Repr, Inhabited

namespace TokenKind

/-- The name of a kind of token in a message. -/
def label : TokenKind → String
  | identifier => "identifier"
  | string => "string literal"
  | integer => "integer literal"
  | float => "float literal"
  | lifetime => "lifetime"
  | openParen => "`(`"
  | closeParen => "`)`"
  | openBracket => "`[`"
  | closeBracket => "`]`"
  | openBrace => "`\x7b`"
  | closeBrace => "`\x7d`"
  | comma => "`,`"
  | equals => "`=`"
  | colon => "`:`"
  | pathSeparator => "`::`"
  | less => "`<`"
  | greater => "`>`"
  | ampersand => "`&`"
  | bang => "`!`"
  | semicolon => "`;`"
  | minus => "`-`"
  | pound => "`#`"
  | endOfInput => "end of input"

/-- The kind of a punctuation mark of one character.  The colon is not among them, because it may
be the first half of a path separator. -/
def ofMark? : Char → Option TokenKind
  | '(' => some openParen
  | ')' => some closeParen
  | '[' => some openBracket
  | ']' => some closeBracket
  | '{' => some openBrace
  | '}' => some closeBrace
  | ',' => some comma
  | '=' => some equals
  | '<' => some less
  | '>' => some greater
  | '&' => some ampersand
  | '!' => some bang
  | ';' => some semicolon
  | '-' => some minus
  | '#' => some pound
  | _ => none

end TokenKind

/-- A token.  The value of a string literal is the text that it denotes; the value of a lifetime or
a raw identifier is its bare name; every other token carries its own text. -/
structure Token where
  /-- What the token is. -/
  kind : TokenKind
  /-- The text or value that the token carries. -/
  value : String
  /-- Where the token begins. -/
  location : Location
deriving DecidableEq, Repr, Inhabited

namespace Token

/-- How a message calls a token: its kind and, between backquotes, its value. -/
def describe (token : Token) : String :=
  match token.kind with
  | .endOfInput => TokenKind.endOfInput.label
  | kind => kind.label ++ " `" ++ token.value ++ "`"

/-- Whether a token is a given word. -/
def isWord (token : Token) (word : String) : Bool :=
  token.kind == .identifier && token.value == word

end Token

end OpenResponse
