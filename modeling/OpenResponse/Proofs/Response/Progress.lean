import OpenResponse.Proofs.Token.Progress
import OpenResponse.Proofs.TypeRef.Form
import OpenResponse.Response.Tuple

/-!
# Progress of the readers of responses

Every reader of the attribute language moves on, and all but the readers of lists of keys take a
token whenever they succeed.  Every repetition and every recursion among them ends: each round of it
is written down here without a budget, and unrolling it once more often than there are tokens gives
what the reader does.

The proofs go along the readers as they do for forms.  A reader that looks for a token of a certain
kind before it takes one advances, because the token it found cannot be the end of the input; behind
that, everything that follows only has to move on.  A handler in a list of keys may take no token,
since the key has been taken before.

The budgets of the readers are what makes them structural recursions, and the point of the rounds is
that the budgets can be forgotten: a round calls itself only behind a token that it has taken, so
there are never more calls than tokens, and the budget, which is the number of tokens, is never used
up.

## Main definitions

* `Parser.namesRound`, `Parser.typeRound` — the rounds of paths and types
* `Parser.segmentRound`, `Parser.documentRound` — the rounds of statuses and documents
* `Parser.entriesRound` — the rounds of lists of responses

## Main statements

* `Parser.pathNames_ends`, `Parser.typeRef_ends`, `Parser.lastSegment_ends`,
  `Parser.document_ends`, `Parser.responseEntries_ends` — these rounds end
* `Parser.Advances.responseTuple` — a response tuple takes a token, like each of its parts

## Design notes

`Onward` says that a reader does not go back, `Advances` that it takes a token if it succeeds, and
`InStep n taken` compares two readers on streams of up to `n` tokens, where `taken` says that a
token has to be taken too.  The bound grows by one behind a token, which is the only way to reach
the recursive call.
-/

namespace OpenResponse

namespace Parser

open TokenStream

variable {α : Type} {n : Nat}

/-! ### Types

Paths recur for their names without a budget, by their tokens.  Types recur for what they refer to,
for items and for arguments. -/

/-- One round of the names that continue a path.  It reads a separator and a name, and hands on to
the next round. -/
def namesRound (rest : Parser (List String)) : Parser (List String) := do
  if (← peek).kind == .pathSeparator && (← lookahead 1).kind == .identifier then
    let _ ← next
    let word ← next
    return word.value :: (← rest)
  else return []

private theorem pathNames_apply (tokens : List Token) (finish : Location) :
    pathNames ⟨tokens, finish⟩ = .ok (pathTail tokens).1 ⟨(pathTail tokens).2, finish⟩ := rfl

/-- The names that continue a path are read round by round. -/
theorem pathNames_eq : pathNames = namesRound pathNames := by
  funext stream
  have asked : namesRound pathNames stream =
      (if (stream.lookahead 0).kind == TokenKind.pathSeparator &&
          (stream.lookahead 1).kind == TokenKind.identifier
        then do
          let _ ← next
          let word ← next
          return word.value :: (← pathNames)
        else pure []) stream := rfl
  rw [asked]
  obtain ⟨tokens, finish⟩ := stream
  rcases tokens with _ | ⟨separator, _ | ⟨word, rest⟩⟩
  · rfl
  · have ended : TokenStream.lookahead ⟨[separator], finish⟩ 1 = ⟨.endOfInput, "", finish⟩ := rfl
    rw [ended, lookahead_zero_cons]
    cases separator.kind == TokenKind.pathSeparator <;> rfl
  · have second : TokenStream.lookahead ⟨separator :: word :: rest, finish⟩ 1 = word := rfl
    rw [pathNames_apply, pathTail, lookahead_zero_cons, second]
    by_cases isName : (separator.kind == .pathSeparator && word.kind == .identifier) = true
    · rw [if_pos isName, if_pos isName]
      rfl
    · rw [if_neg isName, if_neg isName]
      rfl

private theorem pathTail_suffix (tokens : List Token) : (pathTail tokens).2 <:+ tokens := by
  have split : pathTail tokens = ((pathTail tokens).1, (pathTail tokens).2) := rfl
  obtain ⟨front, whole, -⟩ := Reads.pathTail_sound split
  exact ⟨front, whole.symm⟩

private theorem Onward.pathNames : Onward Parser.pathNames :=
  fun _ stream _ => ⟨rfl, ⟨pathTail_suffix stream.tokens, rfl⟩, fun never => by cases never⟩

/-- Rounds of names are in step if what comes next is. -/
theorem InStep.namesRound {rest rest' : Parser (List String)} (same : InStep n false rest rest') :
    InStep (n + 1) false (namesRound rest) (namesRound rest') := by
  refine .peekBind fun token => .lookaheadBind fun second => ?_
  split
  · next isName =>
    have isSeparator : token.kind = .pathSeparator :=
      beq_iff_eq.mp (Bool.and_eq_true_iff.mp isName).1
    refine .nextBind (fun _ => ?_) (by rw [isSeparator]; decide)
    exact InStep.next.bind fun word => same.bindPure _
  · exact .of_inStep (.pure [])

/-- The names that continue a path need no budget. -/
theorem rounds_pathNames : Rounds false (alone namesRound) fun _ _ => pathNames where
  unroll _ := funext fun _ => pathNames_eq
  spent _ stream _ := congrFun pathNames_eq stream
  zero n _ := Onward.pathNames n
  inStep _ _ _ same _ := (same ()).namesRound

/-- The names that continue a path end.  Each of them is two tokens. -/
theorem pathNames_ends : Ends (alone namesRound) fun _ => pathNames := rounds_pathNames.ends

private theorem Advances.typePath : Advances Parser.typePath :=
  fun _ => .bind (.eat _) fun _ => .bindExpectAs (by decide) fun _ =>
    (Onward.pathNames _).bindPure _

/-- The path of a type and its arguments. -/
def pathType (type : Parser TypeRef) : Parser TypeRef := do
  let path ← typePath
  if (← eat .less).isSome then
    let args ← separated .greater "`,` or `>`" (typeArgument type)
    return .path path (args.filterMap id)
  else return .path path []

/-- One round of a type.  It reads one constructor of a type, and the types inside by the round that
it is given. -/
def typeRound (type : Parser TypeRef) : Parser TypeRef := do
  let token ← peek
  match token.kind with
  | .ampersand =>
    let _ ← next
    let _ ← eat .lifetime
    if (← peek).isWord "mut" then
      let _ ← next
    type
  | .openBracket =>
    let _ ← next
    let item ← type
    if (← eat .semicolon).isSome then
      let _ ← expectAs .integer "array length"
    let _ ← expect .closeBracket
    return .slice item
  | .openParen =>
    let _ ← next
    let closing ← peek
    unless closing.kind == .closeParen do failAt closing .tupleType
    let _ ← next
    return .unit
  | .identifier | .pathSeparator => pathType type
  | _ => failAt token (.expectedType token.describe)

theorem InStep.typeArgument {type other : Parser TypeRef} (same : InStep n true type other) :
    InStep n true (Parser.typeArgument type) (Parser.typeArgument other) :=
  .bindEat (by decide) (fun _ => .pure none) (same.map some)

private theorem InStep.pathType {type other : Parser TypeRef} (same : InStep n true type other) :
    InStep (n + 1) true (pathType type) (pathType other) := by
  refine (Advances.typePath _).bindTaken fun path => .bindEat (by decide) (fun _ => ?_) (.pure _)
  refine InStep.bindPure (.mono ?_ (Nat.sub_le n 1)) _
  exact (same.typeArgument.weaken.separated (by decide)).weaken

/-- Rounds of types are in step if they are so with fewer tokens. -/
theorem InStep.typeRound {type other : Parser TypeRef} (same : InStep n true type other) :
    InStep (n + 1) true (typeRound type) (typeRound other) := by
  refine .peekBind fun token => ?_
  split
  · next isKind =>
    refine .nextBind (fun _ => (InStep.eat _).bind fun _ => ?_) (by rw [isKind]; decide)
    exact InStep.peek.bind fun _ => .ite (InStep.next.bind fun _ => same.weaken) same.weaken
  · next isKind =>
    refine .nextBind (fun _ => same.bindTaken fun item => ?_) (by rw [isKind]; decide)
    have close {m : Nat} : InStep m false (do
        let _ ← Parser.expect .closeBracket
        return TypeRef.slice item) (do
        let _ ← Parser.expect .closeBracket
        return TypeRef.slice item) := .bindExpectAs (by decide) fun _ => .pure _
    exact .bindEat (by decide) (fun _ => .bindExpectAs (by decide) fun _ => close) close
  · next isKind =>
    refine .nextBind (fun _ => InStep.peek.bind fun closing => ?_) (by rw [isKind]; decide)
    exact .ite (InStep.next.bind fun _ => .pure _)
      ((InStep.failAt _ _).bind fun _ => InStep.next.bind fun _ => .pure _)
  · exact .of_inStep same.pathType
  · exact .of_inStep same.pathType
  · exact .of_inStep (.failAt _ _)

private theorem rounds_typeRef :
    Rounds true (alone typeRound) fun budget _ => typeRefWithin budget where
  unroll _ := rfl
  zero _ _ := InStep.peek.bind fun _ => .failAt _ _
  inStep _ _ _ same _ := (same ()).typeRound
  spent := by
    rintro _ ⟨_, finish⟩ rfl
    rfl

/-- Types end, however deep they are.  Every constructor takes a token before it reads a type
inside. -/
theorem typeRef_ends : Ends (alone typeRound) fun _ => typeRef := rounds_typeRef.ends

/-- A type takes a token. -/
theorem Advances.typeRef : Advances Parser.typeRef :=
  fun n => InStep.remaining.bind fun budget => rounds_typeRef.forward budget n ()

theorem Advances.inlineType : Advances Parser.inlineType := by
  refine fun n => (InStep.atWordBefore _ _).bind fun marked => .ite ?_ ?_
  · refine InStep.next.bind fun _ => InStep.next.bind fun _ => ?_
    exact (Advances.typeRef n).bindTaken fun _ => .bindExpectAs (by decide) fun _ => .pure _
  · exact (Advances.typeRef n).bindPure _

/-! ### Statuses

The round of a path remembers the last name that was read. -/

/-- One round of the last segment of a path.  It reads a separator and a name, and remembers the
name. -/
def segmentRound (rest : Token → Parser Token) (last : Token) : Parser Token := do
  if (← eat .pathSeparator).isSome then
    rest (← expectAs .identifier "path segment")
  else return last

/-- Rounds of segments are in step if what comes next is. -/
theorem InStep.segmentRound {rest other : Token → Parser Token}
    (same : ∀ last, InStep n false (rest last) (other last)) (last : Token) :
    InStep (n + 1) false (segmentRound rest last) (segmentRound other last) :=
  .bindEat (by decide)
    (fun _ => .bindExpectAs (by decide) fun word => (same word).mono (Nat.sub_le n 1)) (.pure last)

private theorem rounds_lastSegment : Rounds false segmentRound lastSegmentWithin where
  unroll _ := rfl
  zero _ last := .pure last
  inStep _ _ _ same last := InStep.segmentRound same last
  spent := by
    rintro last ⟨_, finish⟩ rfl
    rfl

/-- The last segment of a path, with as many tokens to spend as are left. -/
def lastSegment (last : Token) : Parser Token := do lastSegmentWithin (← remaining) last

/-- The segments of a path end.  Each of them is two tokens. -/
theorem lastSegment_ends : Ends segmentRound lastSegment := rounds_lastSegment.ends

private theorem Onward.lastSegment (last : Token) : Onward (lastSegment last) :=
  fun n => InStep.remaining.bind fun budget => rounds_lastSegment.forward budget n last

private theorem Onward.integerValue (token : Token) : Onward (Parser.integerValue token) := by
  intro n
  rw [Parser.integerValue]
  split
  · exact .pure _
  · exact .failAt _ _

/-- A status takes a token, whichever of its three forms it has. -/
theorem Advances.status : Advances Parser.status := by
  refine fun n => .peekBind fun token => ?_
  -- the greatest number that is written is not to be computed
  generalize Nat.pow 10 decimalLimit = limit
  split
  · next isKind =>
    refine .nextBind (fun _ => (Onward.integerValue token _).bind fun value => ?_)
      (by rw [isKind]; decide)
    exact .ite ((InStep.throw _).bind fun _ => .pure _) (.pure _)
  · next isKind =>
    refine .nextBind (fun _ => ?_) (by rw [isKind]; decide)
    exact .ite (.pure _) ((InStep.failAt _ _).bind fun _ => .pure _)
  · next isKind =>
    refine .nextBind (fun first => ?_) (by rw [isKind]; decide)
    refine (Onward.lastSegment first _).bind fun last => ?_
    split
    · exact .pure _
    · exact .failAt _ _
  · exact .of_inStep (.failExpected _)

private theorem Advances.assignedStatus : Advances Parser.assignedStatus :=
  fun _ => .bindExpectAs (by decide) fun _ => (Advances.status _).weaken

/-! ### Documents

A document recurs through the members of objects and the items of lists, which are read as separated
lists with rounds of their own. -/

private theorem Advances.numeral (negative : Bool) : Advances (Parser.numeral negative) := by
  refine fun n => .peekBind fun token => ?_
  split
  · next isKind =>
    refine .nextBind (fun _ => ?_) (by rw [isKind]; decide)
    exact (Onward.integerValue token _).bindPure _
  · next isKind =>
    refine .nextBind (fun _ => ?_) (by rw [isKind]; decide)
    split
    · exact .pure _
    · exact .failAt _ _
  · exact .of_inStep (.failExpected _)

private theorem Advances.number : Advances Parser.number :=
  fun _ => (InStep.eat _).bind fun _ => Advances.numeral _ _

theorem InStep.member {value other : Parser Document} (same : InStep n true value other) :
    InStep n true (Parser.member value) (Parser.member other) :=
  .bindExpectAs (by decide) fun _ => .bindExpectAs (by decide) fun _ =>
    (same.mono (by omega)).weaken.bindPure _

/-- One round of a document.  It reads one constructor of a document, and the documents inside by
the round that it is given. -/
def documentRound (value : Parser Document) : Parser Document := do
  let token ← peek
  match token.kind with
  | .openBrace =>
    let _ ← next
    let members ← separated .closeBrace "`,` or `\x7d`" (member value)
    return .ofMembers members
  | .openBracket =>
    let _ ← next
    return .array (← separated .closeBracket "`,` or `]`" value)
  | .string =>
    let _ ← next
    return .string token.value
  | .integer | .float | .minus => number
  | .identifier =>
    match wordDocument? token.value with
    | some document =>
      let _ ← next
      return document
    | none => failExpected "JSON value"
  | _ => failExpected "JSON value"

/-- Rounds of documents are in step if they are so with fewer tokens. -/
theorem InStep.documentRound {value other : Parser Document} (same : InStep n true value other) :
    InStep (n + 1) true (documentRound value) (documentRound other) := by
  have number {token : Token} : InStepAt token (n + 1) true Parser.number Parser.number :=
    .of_inStep (Advances.number _)
  refine .peekBind fun token => ?_
  split
  · next isKind =>
    refine .nextBind (fun _ => ?_) (by rw [isKind]; decide)
    exact (same.member.weaken.separated (by decide)).weaken.bindPure _
  · next isKind =>
    refine .nextBind (fun _ => ?_) (by rw [isKind]; decide)
    exact (same.weaken.separated (by decide)).weaken.bindPure _
  · next isKind => exact .nextBind (fun _ => .pure _) (by rw [isKind]; decide)
  · exact number
  · exact number
  · exact number
  · next isKind =>
    split
    · exact .nextBind (fun _ => .pure _) (by rw [isKind]; decide)
    · exact .of_inStep (.failExpected _)
  · exact .of_inStep (.failExpected _)

private theorem rounds_document :
    Rounds true (alone documentRound) fun budget _ => documentWithin budget where
  unroll _ := rfl
  zero _ _ := .failExpected _
  inStep _ _ _ same _ := (same ()).documentRound
  spent := by
    rintro _ ⟨_, finish⟩ rfl
    rfl

theorem document_ends : Ends (alone documentRound) fun _ => document := rounds_document.ends

theorem Advances.document : Advances Parser.document :=
  fun n => InStep.remaining.bind fun budget => rounds_document.forward budget n ()

private theorem Advances.embeddedDocument : Advances Parser.embeddedDocument := by
  refine fun n => .peekBind fun token => ?_
  split
  · next isKind =>
    refine .nextBind (fun _ => ?_) (by rw [isKind]; decide)
    exact (Advances.document _).bindTaken fun _ => .bindExpectAs (by decide) fun _ => .pure _
  · exact .of_inStep (Advances.document n)
  · exact .of_inStep (Advances.document n)
  · exact .of_inStep (.failExpected _)

theorem Advances.anyValue : Advances Parser.anyValue := by
  refine fun n => .peekBind fun token => ?_
  split
  · next isString =>
    exact .nextBind (fun _ => .pure _) (by rw [beq_iff_eq.mp isString]; decide)
  · refine .of_inStep ((InStep.atWordBefore _ _).bind fun _ => .ite ?_ ?_)
    · exact InStep.next.bind fun _ => InStep.next.bind fun _ => Advances.embeddedDocument n
    · exact .ite (Advances.document n) (.failExpected _)

theorem Advances.assignedString : Advances Parser.assignedString :=
  fun _ => .bindExpectAs (by decide) fun _ => .bindExpectAs (by decide) fun _ => .pure _

theorem Advances.exampleValue : Advances Parser.exampleValue :=
  fun _ => .bindExpectAs (by decide) fun _ => (Advances.anyValue _).weaken

/-! ### The parts of a response

Every part begins with a token of its own: an equals sign, a parenthesis or a string. -/

theorem Advances.bodyType : Advances Parser.bodyType := by
  refine fun n => (InStep.atWordBefore _ _).bind fun _ => .ite ?_ ?_
  · refine InStep.next.bind fun _ => InStep.next.bind fun _ => ?_
    exact .bindExpectAs (by decide) fun _ => .bindExpectAs (by decide) fun _ => .pure _
  · exact (Advances.inlineType n).bindPure _

/-- A string in a list of content types. -/
def contentType : Parser String := do return (← expect .string).value

theorem Advances.contentType : Advances contentType :=
  fun _ => (InStep.expect .string (by decide)).bindPure _

theorem Advances.contentTypes : Advances Parser.contentTypes := by
  refine fun n => .bindExpectAs (by decide) fun _ => .peekBind fun token => ?_
  split
  · next isKind => exact .nextBind (fun _ => .pure _) (by rw [isKind]; decide)
  · next isKind =>
    refine .nextBind (fun _ => ?_) (by rw [isKind]; decide)
    exact ((Advances.contentType _).weaken.separated (by decide)).weaken
  · exact .of_inStep (.failExpected _)

private theorem Onward.headerDescription : Onward Parser.headerDescription := by
  have described {m : Nat} : InStep m false (do
      let description ← Parser.assignedString
      let _ ← Parser.eat .comma
      return some description) (do
      let description ← Parser.assignedString
      let _ ← Parser.eat .comma
      return some description) :=
    (Advances.assignedString m).bindTaken fun _ => (InStep.eat _).bind fun _ => .pure _
  refine fun n => .bindEat (by decide)
    (fun _ => InStep.peek.bind fun _ => .ite ?_ (.pure _)) (.pure _)
  refine InStep.next.bind fun key => .ite described ((InStep.failAt _ _).bind fun _ => described)

theorem Advances.header : Advances Parser.header := by
  have rest {m : Nat} (name : String) (type : Option InlineType) : InStep m false (do
      let description ← Parser.headerDescription
      let _ ← Parser.expectAs .closeParen "`)` closing header"
      return Header.mk name type description) (do
      let description ← Parser.headerDescription
      let _ ← Parser.expectAs .closeParen "`)` closing header"
      return Header.mk name type description) :=
    (Onward.headerDescription m).bind fun _ => .bindExpectAs (by decide) fun _ => .pure _
  refine fun n => .bindExpectAs (by decide) fun _ => .bindExpectAs (by decide) fun name => ?_
  refine .bindEat (by decide) (fun _ => ?_) (rest _ none)
  exact ((Advances.inlineType _).weaken.map some).bind fun _ => rest _ _

theorem Advances.headers : Advances Parser.headers :=
  fun _ => (InStep.eat _).bind fun _ => .group Advances.header.onward

/-- A handler that sets a part of a state to a value that is read. -/
theorem Onward.setter {σ : Type} {parser : Parser α} (onward : Onward parser) (set : α → σ → σ)
    (state : σ) : Onward (do return set (← parser) state) :=
  fun n => (onward n).bindPure fun value => set value state

theorem moving_exampleKeys : Moving exampleKeys := by
  simp only [Moving, exampleKeys, List.forall_mem_cons, List.not_mem_nil, false_imp_iff,
    implies_true, and_true]
  refine ⟨fun _ => ?_, fun _ => ?_, fun _ => ?_, fun _ => ?_⟩
  · exact Advances.assignedString.onward.setter fun text (entry : Example) =>
      { entry with summary := some text }
  · exact Advances.assignedString.onward.setter fun text (entry : Example) =>
      { entry with description := some text }
  · exact Advances.exampleValue.onward.setter fun value (entry : Example) =>
      { entry with value := some value }
  · exact Advances.assignedString.onward.setter fun text (entry : Example) =>
      { entry with externalValue := some text }

theorem Advances.namedExample : Advances Parser.namedExample := by
  refine fun n => .bindExpectAs (by decide) fun _ => .bindExpectAs (by decide) fun _ =>
    .bindExpectAs (by decide) fun _ => ?_
  refine .bindExpectAs (by decide) fun _ => (moving_exampleKeys.keyed _ _ _).bind fun entry => ?_
  exact .bindExpectAs (by decide) fun _ => (InStep.eat _).bind fun _ =>
    .bindExpectAs (by decide) fun _ => .pure _

theorem Advances.examples : Advances Parser.examples :=
  fun _ => (InStep.eat _).bind fun _ => .group Advances.namedExample.onward

theorem moving_variantKeys : Moving variantKeys := by
  simp only [Moving, variantKeys, List.forall_mem_cons, List.not_mem_nil, false_imp_iff,
    implies_true, and_true]
  refine ⟨fun _ => ?_, fun _ => ?_⟩
  · exact Advances.exampleValue.onward.setter fun value (variant : ContentVariant) =>
      { variant with sample := some value }
  · exact Advances.examples.onward.setter fun list (variant : ContentVariant) =>
      { variant with examples := some list }

theorem Advances.contentVariant : Advances Parser.contentVariant := by
  have close {m : Nat} (variant : ContentVariant) : InStep m false (do
      let _ ← Parser.expectAs .closeParen "`)` closing content"
      return variant) (do
      let _ ← Parser.expectAs .closeParen "`)` closing content"
      return variant) := .bindExpectAs (by decide) fun _ => .pure _
  refine fun n => .bindExpectAs (by decide) fun _ => .bindExpectAs (by decide) fun _ =>
    .bindExpectAs (by decide) fun _ => ?_
  refine (Advances.bodyType _).weaken.bind fun body => .bindEat (by decide) (fun _ => ?_) (close _)
  exact (moving_variantKeys.keyed _ _ _).bind close

theorem Advances.content : Advances Parser.content :=
  fun _ => (InStep.eat _).bind fun _ => .group Advances.contentVariant.onward

/-! ### Response tuples

A key may be refused before its value is read.  Then nothing is taken, and nothing has to be: the
reader fails. -/

private theorem Onward.changeValue (location : Location) (draft : TupleDraft)
    (change : ResponseValue → ResponseValue) : Onward (Parser.changeValue location draft change) :=
  fun _ => .ite ((InStep.throw _).bind fun _ => .pure _) (.pure _)

private theorem Onward.valueKey {parser : Parser α} (onward : Onward parser)
    (set : α → ResponseValue → ResponseValue) (location : Location) (draft : TupleDraft) :
    Onward (Parser.valueKey parser set location draft) :=
  fun n => (onward n).bind fun value => changeValue location draft (set value) n

private theorem Onward.bodyKey (location : Location) (draft : TupleDraft) :
    Onward (Parser.bodyKey location draft) := by
  refine fun n => (changeValue location draft id n).bind fun draft =>
    .bindExpectAs (by decide) fun _ => ?_
  exact (Advances.bodyType _).weaken.bind fun _ => changeValue location draft _ _

private theorem Onward.referenceKey (location : Location) (draft : TupleDraft) :
    Onward (Parser.referenceKey location draft) := by
  refine fun n => .bindExpectAs (by decide) fun _ =>
    (Advances.inlineType _).weaken.bind fun type => ?_
  exact .ite ((InStep.throw _).bind fun _ => .pure _) (.pure _)

theorem moving_tupleKeys : Moving tupleKeys := by
  simp only [Moving, tupleKeys, List.forall_mem_cons, List.not_mem_nil, false_imp_iff,
    implies_true, and_true]
  refine ⟨fun _ => ?_, ?_, Onward.bodyKey, ?_, ?_, ?_, ?_, ?_, Onward.referenceKey⟩
  · exact Advances.assignedStatus.onward.setter fun status (draft : TupleDraft) =>
      { draft with status := some status }
  · exact Advances.assignedString.onward.valueKey _
  · exact Advances.contentTypes.onward.valueKey _
  · exact Advances.headers.onward.valueKey _
  · exact Advances.exampleValue.onward.valueKey _
  · exact Advances.examples.onward.valueKey _
  · exact Advances.content.onward.valueKey _

/-- A response tuple takes a token, at least its opening parenthesis.  That is why a list of
responses moves on with every entry. -/
theorem Advances.responseTuple : Advances Parser.responseTuple := by
  refine fun n => .bindExpectAs (by decide) fun opening =>
    (moving_tupleKeys.keyed _ _ _).bind fun draft => ?_
  have close : InStep (n - 1) false (do
      let _ ← Parser.expect .closeParen
      return draft.descriptor) (do
      let _ ← Parser.expect .closeParen
      return draft.descriptor) := .bindExpectAs (by decide) fun _ => .pure _
  exact .ite ((InStep.failAt _ _).bind fun _ => close) close

/-! ### Lists of responses

An entry takes a token, as it is not read at the end of the input. -/

private theorem Advances.responseEntry : Advances Parser.responseEntry :=
  fun n => InStep.peek.bind fun _ =>
    .ite ((Advances.responseTuple n).bindPure _) ((Advances.typeRef n).bindPure _)

/-- One round of a list of responses.  It reads an entry and the comma behind it, unless the input
ends. -/
def entriesRound (rest : Parser (List ResponseEntry)) : Parser (List ResponseEntry) := do
  if ← atEnd then return []
  let entry ← responseEntry
  unless ← atEnd do
    let _ ← expectAs .comma "`,` or end of input"
  return entry :: (← rest)

/-- Rounds of entries are in step if what comes next is. -/
theorem InStep.entriesRound {rest other : Parser (List ResponseEntry)}
    (same : InStep n false rest other) :
    InStep (n + 1) false (entriesRound rest) (entriesRound other) := by
  refine InStep.atEnd.bind fun _ => .ite (.pure _) ?_
  refine (Advances.responseEntry _).bindTaken fun entry => InStep.atEnd.bind fun _ => ?_
  exact .ite (same.bindPure _)
    (.bindExpectAs (by decide) fun _ => (same.mono (Nat.sub_le n 1)).bindPure _)

private theorem rounds_responseEntries :
    Rounds false (alone entriesRound) fun budget _ => responseEntriesWithin budget where
  unroll _ := rfl
  zero _ _ := .pure []
  inStep _ _ _ same _ := (same ()).entriesRound
  spent := by
    rintro _ ⟨_, finish⟩ rfl
    rfl

/-- A list of responses ends. -/
theorem responseEntries_ends : Ends (alone entriesRound) fun _ => responseEntries :=
  rounds_responseEntries.ends

end Parser

end OpenResponse
