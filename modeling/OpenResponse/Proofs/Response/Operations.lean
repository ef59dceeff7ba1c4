import Mathlib.Data.List.Induction
import OpenResponse.Proofs.Outcome
import OpenResponse.Proofs.Response.Progress
import OpenResponse.Proofs.Token.Text

/-!
# Operations on token streams

The readers of a token stream are used one after the other, and a use that fails leaves the stream
where it stopped.  Here all of them are taken together as operations, and what an operation does is
described by the number of tokens that have been read: it never gets smaller and never exceeds that
of the tokens, looking ahead leaves it alone, and so does asking in vain for a token, while every
reader of the attribute language increases it when it succeeds.

That an operation ends is a matter of the repetitions and recursions that it goes through.  Each of
them is listed with its rounds.

A stream is determined by its tokens and by how many of them have been read.  All operations leave a
part of the stream behind the tokens which they have read, in any outcome; so after any of them the
stream is again one of which some number of tokens has been read, and a sequence of operations is a
sequence of numbers.  What is asked of single operations is then asked of two numbers.

## Main definitions

* `TokenStream.drop` — a stream of which some tokens have been read
* `Reader`, `Operation` — the readers of the attribute language, and all operations
* `Operation.Moves` — what an operation may do to the number of tokens that have been read
* `Parser.RecursionEnds` — every repetition and every recursion of the readers ends

## Main statements

* `Operation.moves` — what one operation does
* `TokenStream.exists_afterAll` — what a sequence of operations does
* `operations_progress` — **operations end and only ever move on**

## Hypotheses

The stream is one that was made of a text.  This is used for one thing only: that no token in it
stands for the end of the input, so that the end is seen at the last position and nowhere else.  The
single steps hold for any stream.

A failing operation is one that returns a fault, except that asking for an optional token never
does: it fails if it returns nothing.  `Operation.Succeeds` makes this one distinction.
-/

namespace OpenResponse

/-! ### Positions

A stream behind another one has fewer tokens, and its tokens are the last ones of the other.  So it
is the other one with tokens taken off its front. -/

namespace TokenStream

variable {start rest : TokenStream}

/-- A stream of which so many tokens have been read.  Dropping more tokens than there are leaves the
end of the input. -/
def drop (start : TokenStream) (position : Nat) : TokenStream :=
  { start with tokens := start.tokens.drop position }

/-- Of a stream of which so many tokens have been read the others are left. -/
@[simp] theorem length_drop (start : TokenStream) (position : Nat) :
    (start.drop position).tokens.length = start.tokens.length - position :=
  List.length_drop

private theorem drop_drop (start : TokenStream) (position more : Nat) :
    (start.drop position).drop more = start.drop (position + more) := by
  simp only [drop, List.drop_drop]

/-- What is left of a stream is determined by how much of it has been read. -/
theorem Behind.eq_drop (behind : rest.Behind start) :
    rest = start.drop (start.tokens.length - rest.tokens.length) := by
  obtain ⟨tokens, finish⟩ := rest
  obtain ⟨inside, rfl⟩ := behind
  rw [drop, ← List.suffix_iff_eq_drop.mp inside]

/-- The token that stands for the end of the input is the one behind the tokens of the text. -/
theorem front_drop_eq_endOfInput_iff (inText : ∀ token ∈ start.tokens, token.kind ≠ .endOfInput)
    {position : Nat} (inside : position ≤ start.tokens.length) :
    (start.drop position).front = .endOfInput ↔ position = start.tokens.length := by
  constructor
  · intro ended
    refine Nat.le_antisymm inside (Nat.le_of_not_lt fun more => ?_)
    have first : (start.drop position).front = start.tokens[position].kind := by
      rw [front, lookahead, drop, List.getElem?_drop, Nat.add_zero, List.getElem?_eq_getElem more]
    exact inText _ (List.getElem_mem more) (first ▸ ended)
  · rintro rfl
    exact front_of_nil List.drop_length

end TokenStream

/-! ### Operations

The readers and operations are names for parsers, each with the type of what it returns.  A property
of all operations is proved by going through the names. -/

/-- The readers of the attribute language.  There is one for everything that can be read off a
stream by itself. -/
inductive Reader
  | assignedString
  | document
  | anyValue
  | exampleValue
  | typeRef
  | inlineType
  | bodyType
  | contentTypes
  | headers
  | examples
  | content
  | responseTuple
  | status
deriving DecidableEq, Repr

namespace Reader

/-- What a reader returns. -/
def Value : Reader → Type
  | assignedString | status => String
  | document | anyValue | exampleValue => Document
  | typeRef => TypeRef
  | inlineType => InlineType
  | bodyType => Body
  | contentTypes => List String
  | headers => List Header
  | examples => List Example
  | content => List ContentVariant
  | responseTuple => ResponseDescriptor

/-- What a reader does. -/
def parser : (reader : Reader) → Parser reader.Value
  | assignedString => Parser.assignedString
  | document => Parser.document
  | anyValue => Parser.anyValue
  | exampleValue => Parser.exampleValue
  | typeRef => Parser.typeRef
  | inlineType => Parser.inlineType
  | bodyType => Parser.bodyType
  | contentTypes => Parser.contentTypes
  | headers => Parser.headers
  | examples => Parser.examples
  | content => Parser.content
  | responseTuple => Parser.responseTuple
  | status => Parser.status

private theorem advances (reader : Reader) : Parser.Advances reader.parser := by
  cases reader with
  | assignedString => exact Parser.Advances.assignedString
  | document => exact Parser.Advances.document
  | anyValue => exact Parser.Advances.anyValue
  | exampleValue => exact Parser.Advances.exampleValue
  | typeRef => exact Parser.Advances.typeRef
  | inlineType => exact Parser.Advances.inlineType
  | bodyType => exact Parser.Advances.bodyType
  | contentTypes => exact Parser.Advances.contentTypes
  | headers => exact Parser.Advances.headers
  | examples => exact Parser.Advances.examples
  | content => exact Parser.Advances.content
  | responseTuple => exact Parser.Advances.responseTuple
  | status => exact Parser.Advances.status

end Reader

/-- What can be done with a token stream.  It may look ahead, take a token, or run a reader, and it
may fail. -/
inductive Operation
  /-- Look at the token at a distance from the front. -/
  | peek (offset : Nat)
  /-- Look at the kind of that token. -/
  | peekKind (offset : Nat)
  /-- Ask whether that token is a word. -/
  | peekWord (word : String) (offset : Nat)
  /-- Read the first token. -/
  | next
  /-- Read a token of a kind if it is the first one. -/
  | eat (kind : TokenKind)
  /-- Read a token of a kind, perhaps with a name of its own in the message. -/
  | expect (kind : TokenKind) (what : Option String)
  /-- Ask whether no token is left. -/
  | atEnd
  /-- Fail if a token is left. -/
  | expectEnd
  /-- Use a reader of the attribute language. -/
  | read (reader : Reader)
deriving DecidableEq, Repr

namespace Operation

/-- What an operation returns. -/
def Value : Operation → Type
  | peek _ | next | expect _ _ => Token
  | peekKind _ => TokenKind
  | peekWord _ _ | atEnd => Bool
  | eat _ => Option Token
  | expectEnd => Unit
  | read reader => reader.Value

/-- What an operation does. -/
def parser : (operation : Operation) → Parser operation.Value
  | peek offset => Parser.lookahead offset
  | peekKind offset => Token.kind <$> Parser.lookahead offset
  | peekWord word offset => (·.isWord word) <$> Parser.lookahead offset
  | next => Parser.next
  | eat kind => Parser.eat kind
  | expect kind what => Parser.expectAs kind (what.getD kind.label)
  | atEnd => Parser.atEnd
  | expectEnd => Parser.expectEnd
  | read reader => reader.parser

/-- What an operation leaves of a stream, whether it succeeds or fails. -/
def after (operation : Operation) (stream : TokenStream) : TokenStream :=
  match operation.parser stream with
  | .ok _ rest => rest
  | .error _ rest => rest

/-- An operation succeeds.  Asking for a token that may be there fails if it is not. -/
def Succeeds : Operation → TokenStream → Prop
  | eat kind, stream => ∃ token rest, Parser.eat kind stream = .ok (some token) rest
  | operation, stream => ∃ value rest, operation.parser stream = .ok value rest

/-- Operations that only look at the stream. -/
def looks : Operation → Bool
  | peek _ | peekKind _ | peekWord _ _ | atEnd | expectEnd => true
  | _ => false

/-- Operations that ask for a token. -/
def asks : Operation → Bool
  | eat _ | expect _ _ => true
  | _ => false

/-- What an operation may do to the number of tokens that have been read.  `position` is the number
before it and `later` the one behind it. -/
structure Moves (operation : Operation) (start : TokenStream) (position later : Nat) : Prop where
  forward : position ≤ later
  inside : later ≤ start.tokens.length
  looking : operation.looks = true → later = position
  refused : operation.asks = true → ¬ operation.Succeeds (start.drop position) → later = position
  reading : ∀ reader, operation = .read reader → operation.Succeeds (start.drop position) →
    position < later

private theorem onward (operation : Operation) : Parser.Onward operation.parser := by
  intro n
  cases operation with
  | peek offset => exact .lookahead offset
  | peekKind offset => exact (Parser.InStep.lookahead offset).map _
  | peekWord word offset => exact (Parser.InStep.lookahead offset).map _
  | next => exact .next
  | eat kind => exact .eat kind
  | expect kind what => exact Parser.Onward.expectAs kind _ n
  | atEnd => exact .atEnd
  | expectEnd => exact .expectEnd
  | read reader => exact reader.advances.onward n

private theorem behind_after (operation : Operation) (stream : TokenStream) :
    (operation.after stream).Behind stream := by
  have left := (operation.onward _ stream (Nat.lt_succ_self _)).2
  rw [after]
  cases run : operation.parser stream with
  | ok value rest =>
    rw [run] at left
    exact left.1
  | error fault rest =>
    rw [run] at left
    exact left

/-- Looking leaves a stream as it is. -/
theorem after_of_looks {operation : Operation} (looks : operation.looks = true)
    (stream : TokenStream) : operation.after stream = stream := by
  cases operation with
  | peek _ | peekKind _ | peekWord _ _ | atEnd => rfl
  | expectEnd =>
    rw [after, parser, Parser.expectEnd, Parser.bind_of_ok (Parser.peek_apply stream)]
    cases (stream.lookahead 0).kind == .endOfInput <;> rfl
  | next | eat _ | expect _ _ | read _ => cases looks

/-- Asking in vain for a token leaves a stream as it is. -/
theorem after_of_asks {operation : Operation} (asks : operation.asks = true) {stream : TokenStream}
    (failed : ¬ operation.Succeeds stream) : operation.after stream = stream := by
  cases operation with
  | eat kind =>
    have absent : stream.front ≠ kind := fun there =>
      failed ⟨_, _, (Parser.eat_apply stream kind).trans (if_pos there)⟩
    rw [after, parser, Parser.eat_of_ne stream absent]
  | expect kind what =>
    have absent : stream.front ≠ kind := fun there =>
      failed ⟨_, _, (Parser.expectAs_apply stream kind _).trans (if_pos there)⟩
    rw [after, parser, Parser.expectAs_apply, if_neg absent]
    rfl
  | peek _ | peekKind _ | peekWord _ _ | next | atEnd | expectEnd | read _ => cases asks

/-- A reader that succeeds leaves less. -/
theorem length_after_lt {reader : Reader} {stream : TokenStream}
    (succeeds : (read reader).Succeeds stream) :
    ((read reader).after stream).tokens.length < stream.tokens.length := by
  obtain ⟨value, rest, run⟩ := succeeds
  have left := (reader.advances _ stream (Nat.lt_succ_self _)).2
  rw [after, run]
  rw [show reader.parser stream = .ok value rest from run] at left
  exact left.2 rfl

/-- What one operation does to the number of tokens that have been read.  It may read further and
never goes back, whether it succeeds or fails. -/
theorem moves (operation : Operation) {start : TokenStream} {position : Nat}
    (inside : position ≤ start.tokens.length) :
    ∃ later, operation.after (start.drop position) = start.drop later ∧
      operation.Moves start position later := by
  have behind := operation.behind_after (start.drop position)
  have fewer := behind.length_le
  have left := behind.eq_drop
  rw [TokenStream.drop_drop] at left
  rw [TokenStream.length_drop] at fewer left
  refine ⟨_, left, ?_, ?_, fun looks => ?_, fun asks failed => ?_, ?_⟩
  · omega
  · omega
  · rw [after_of_looks looks, TokenStream.length_drop]
    omega
  · rw [after_of_asks asks failed, TokenStream.length_drop]
    omega
  · rintro reader rfl succeeds
    have less := length_after_lt succeeds
    rw [TokenStream.length_drop] at less
    omega

end Operation

namespace TokenStream

/-- What operations leave of a stream, one after the other. -/
def afterAll (start : TokenStream) (operations : List Operation) : TokenStream :=
  operations.foldl (fun stream operation => operation.after stream) start

private theorem afterAll_append_singleton (start : TokenStream) (operations : List Operation)
    (operation : Operation) :
    start.afterAll (operations ++ [operation]) = operation.after (start.afterAll operations) :=
  List.foldl_append ..

/-- Operations only ever read tokens.  So the stream behind them is the one at the beginning with
some of its tokens read. -/
theorem exists_afterAll (start : TokenStream) (operations : List Operation) :
    ∃ position ≤ start.tokens.length, start.afterAll operations = start.drop position := by
  induction operations using List.reverseRecOn with
  | nil => exact ⟨0, Nat.zero_le _, rfl⟩
  | append_singleton operations operation ih =>
    obtain ⟨position, inside, before⟩ := ih
    obtain ⟨later, after, moves⟩ := operation.moves inside
    exact ⟨later, moves.inside, by rw [afterAll_append_singleton, before, after]⟩

end TokenStream

/-! ### All operations

The repetitions and recursions are listed one by one, since each has rounds of its own.  A list of
keys appears once for each of its tables, and the separated lists once for each sort of item. -/

namespace Parser

/-- Every repetition and every recursion of the readers of the attribute language ends: paths, types
and their arguments, statuses, documents with their members and items, the groups in parentheses,
the lists of keys, and lists of responses.  Nothing else in the readers goes round. -/
structure RecursionEnds : Prop where
  names : Ends (alone namesRound) fun _ => pathNames
  types : Ends (alone typeRound) fun _ => typeRef
  typeArguments : Ends (alone (itemsRound .greater "`,` or `>`" (typeArgument typeRef)))
    fun _ => separated .greater "`,` or `>`" (typeArgument typeRef)
  segments : Ends segmentRound lastSegment
  documents : Ends (alone documentRound) fun _ => document
  members : Ends (alone (itemsRound .closeBrace "`,` or `\x7d`" (member document)))
    fun _ => separated .closeBrace "`,` or `\x7d`" (member document)
  items : Ends (alone (itemsRound .closeBracket "`,` or `]`" document))
    fun _ => separated .closeBracket "`,` or `]`" document
  contentTypes : Ends (alone (itemsRound .closeBracket "`,` or `]`" contentType))
    fun _ => separated .closeBracket "`,` or `]`" contentType
  headers : Ends (alone (itemsRound .closeParen "`,` or `)`" header))
    fun _ => separated .closeParen "`,` or `)`" header
  examples : Ends (alone (itemsRound .closeParen "`,` or `)`" namedExample))
    fun _ => separated .closeParen "`,` or `)`" namedExample
  content : Ends (alone (itemsRound .closeParen "`,` or `)`" contentVariant))
    fun _ => separated .closeParen "`,` or `)`" contentVariant
  keysOfExamples : Ends (keysRound .closeParen exampleKeys) (keyed .closeParen exampleKeys)
  keysOfVariants : Ends (keysRound .closeParen variantKeys) (keyed .closeParen variantKeys)
  keysOfTuples : Ends (keysRound .closeParen tupleKeys) (keyed .closeParen tupleKeys)
  entries : Ends (alone entriesRound) fun _ => responseEntries

private theorem recursionEnds : RecursionEnds where
  names := pathNames_ends
  types := typeRef_ends
  typeArguments := separated_ends (fun n => (Advances.typeRef n).typeArgument.weaken) (by decide)
  segments := lastSegment_ends
  documents := document_ends
  members := separated_ends (fun n => (Advances.document n).member.weaken) (by decide)
  items := separated_ends Advances.document.onward (by decide)
  contentTypes := separated_ends Advances.contentType.onward (by decide)
  headers := separated_ends Advances.header.onward (by decide)
  examples := separated_ends Advances.namedExample.onward (by decide)
  content := separated_ends Advances.contentVariant.onward (by decide)
  keysOfExamples := keyed_ends moving_exampleKeys _
  keysOfVariants := keyed_ends moving_variantKeys _
  keysOfTuples := keyed_ends moving_tupleKeys _
  entries := responseEntries_ends

end Parser

/-- A stream that is made of a text has the end of the input only behind its tokens. -/
theorem kind_ne_endOfInput_of_tokenize {origin : Location} {text : String} {start : TokenStream}
    (tokenized : tokenize origin text = .ok start) :
    ∀ token ∈ start.tokens, token.kind ≠ .endOfInput := by
  rw [tokenize] at tokenized
  split at tokenized
  next tokens scanned =>
    cases tokenized
    exact scan_ne_endOfInput scanned
  next => cases tokenized

/-- **Operations end and only ever move on.**  Every repetition and every recursion of the readers
ends.  In the tokens of a text, whatever operations have been done, some number of tokens has been
read, and the next operation does not make it smaller.  It never exceeds the number at which the end
of the input stands, looking at the stream leaves it alone, asking in vain for a token does so too,
and a reader that succeeds makes it greater. -/
theorem operations_progress {origin : Location} {text : String} {start : TokenStream}
    (tokenized : tokenize origin text = .ok start) :
    Parser.RecursionEnds ∧
    (∀ position ≤ start.tokens.length,
      (start.drop position).front = .endOfInput ↔ position = start.tokens.length) ∧
    ∀ operations operation, ∃ position later,
      start.afterAll operations = start.drop position ∧
      start.afterAll (operations ++ [operation]) = start.drop later ∧
      operation.Moves start position later := by
  have inText := kind_ne_endOfInput_of_tokenize tokenized
  refine ⟨Parser.recursionEnds, fun position => TokenStream.front_drop_eq_endOfInput_iff inText, ?_⟩
  intro operations operation
  obtain ⟨position, inside, before⟩ := start.exists_afterAll operations
  obtain ⟨later, after, moves⟩ := operation.moves inside
  refine ⟨position, later, before, ?_, moves⟩
  rw [TokenStream.afterAll_append_singleton, before, after]

/-- A tuple that breaks off in the middle of a type. -/
def brokenTuple : String := "(status = 404, body = Vec<Option<"

/-- A tuple that breaks off is read up to the end of the input, where its closing parenthesis is
asked for in vain. -/
theorem operations_progress_broken :
    ∃ start, tokenize .start brokenTuple = .ok start ∧
      start.afterAll [.peek 100, .read .responseTuple] = start.drop 11 ∧
      start.afterAll ([.peek 100, .read .responseTuple] ++ [.expect .closeParen none]) =
        start.drop 11 ∧
      (Operation.expect .closeParen none).Moves start 11 11 := by
  have counts : (fun start => (start.tokens.length,
      (start.afterAll [.peek 100, .read .responseTuple]).tokens.length)) <$>
        tokenize .start brokenTuple = .ok (11, 0) := by decide +kernel
  obtain ⟨start, tokenized, lengths⟩ := map_eq_ok.mp counts
  obtain ⟨eleven, nothing⟩ := Prod.ext_iff.mp lengths
  obtain ⟨-, -, every⟩ := operations_progress tokenized
  obtain ⟨position, later, before, after, moves⟩ :=
    every [.peek 100, .read .responseTuple] (.expect .closeParen none)
  have forward := moves.forward
  have inside := moves.inside
  dsimp only at eleven nothing
  rw [before, TokenStream.length_drop] at nothing
  obtain rfl : position = 11 := by omega
  obtain rfl : later = 11 := by omega
  exact ⟨start, tokenized, before, after, moves⟩

end OpenResponse
