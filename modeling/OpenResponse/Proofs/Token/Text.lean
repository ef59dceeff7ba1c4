import OpenResponse.Proofs.Token.Form
import OpenResponse.Proofs.Token.Steps

/-!
# Reading whole texts

A text is cut into tokens, none of which stands for the end of the input.  A parser of a form that
is given a whole text therefore returns a value exactly if the form allows the tokens of the text
for that value: nothing is left over, and nothing has to follow.

The only thing that could come in between is a token in the text that looks like the end of the
input.  Parsers stop at the end of the input, so such a token would hide what stands behind it.
That there is none is shown for every step of scanning and then, along the recursion of `scan`, for
the whole text.  In the same walk it is noted that the text of a name consists of characters of
names, which is what readers of keys and types rely on.

## Main definitions

* `Lexeme.tokensAt` — the tokens that one step of scanning makes
* `TokenKind.Carries` — what a token of a text may be
* `TokenStream.listed` — the tokens of a stream with the end of the input behind them

## Main statements

* `scan_cons` — scanning goes on behind the first step
* `tokenize_lexeme` — texts of a single token
* `scan_carries` — no token of a text is its end, and names are made of the characters of names
* `Parser.Reads.runOn_iff`, `Parser.Reads.runOnAll_iff` — **what a parser reads off a whole text**

## Hypotheses

`Parser.Reads.runOn_iff` asks that the parser stops at the end of the input only, because nothing is
checked behind it; `Parser.Reads.runOnAll_iff` needs no such condition, since the check is part of
what is run.  Both ask the form to accept the end of the input behind it, and this is where a form
that wants a certain token to follow could not be read off a whole text.
-/

namespace OpenResponse

open TokenStream

/-- The token that one step of scanning makes at a place, if it makes one. -/
def Lexeme.tokensAt (lexeme : Lexeme) (here : Location) : List Token :=
  (lexeme.token.map fun token => ⟨token.1, token.2, here⟩).toList

/-- Scanning goes on behind the first step.  The token of that step, if it makes one, stands in
front of the others. -/
theorem scan_cons {here : Location} {c : Char} {rest : List Char} {lexeme : Lexeme}
    (read : readLexeme here c rest = .ok lexeme) :
    scan here (c :: rest) = (lexeme.tokensAt here ++ ·) <$>
      scan ((here.next c).behind (rest.take lexeme.more)) (rest.drop lexeme.more) := by
  rw [scan, read]
  dsimp only
  cases scan ((here.next c).behind (rest.take lexeme.more)) (rest.drop lexeme.more) with
  | error fault => rfl
  | ok tokens =>
    obtain ⟨more, token⟩ := lexeme
    cases token with
    | none => rfl
    | some token => rfl

/-- Scanning succeeds if the first step does and scanning goes on behind it. -/
theorem scan_cons_eq_ok {here : Location} {c : Char} {rest : List Char} {tokens : List Token} :
    scan here (c :: rest) = .ok tokens ↔
      ∃ lexeme others, readLexeme here c rest = .ok lexeme ∧
        scan ((here.next c).behind (rest.take lexeme.more)) (rest.drop lexeme.more) = .ok others ∧
        tokens = lexeme.tokensAt here ++ others := by
  cases read : readLexeme here c rest with
  | error fault =>
    rw [scan, read]
    simp
  | ok lexeme =>
    rw [scan_cons read]
    constructor
    · intro scanned
      cases behind : scan ((here.next c).behind (rest.take lexeme.more))
          (rest.drop lexeme.more) with
      | error fault =>
        rw [behind] at scanned
        cases scanned
      | ok others =>
        rw [behind] at scanned
        cases scanned
        exact ⟨lexeme, others, rfl, behind, rfl⟩
    · rintro ⟨_, others, same, behind, rfl⟩
      cases same
      rw [behind]
      rfl

/-- A text that is a single lexeme is a single token.  It begins where the text does and is followed
by the end of input. -/
theorem tokenize_lexeme {origin : Location} {c : Char} {rest : List Char} {kind : TokenKind}
    {value : String} (read : readLexeme origin c rest = .ok ⟨rest.length, some (kind, value)⟩) :
    tokenize origin (String.ofList (c :: rest)) =
      .ok ⟨[⟨kind, value, origin⟩], origin.behind (c :: rest)⟩ := by
  have scanned : scan origin (c :: rest) = .ok [⟨kind, value, origin⟩] := by
    rw [scan_cons read, List.take_length, List.drop_length, scan.eq_1]
    rfl
  rw [tokenize, String.toList_ofList, scanned]

/-! ### The end of the input

The property is one of single tokens, so it is shown of what a step makes and carried to the whole
text by induction on its length, which every step makes smaller. -/

/-- What a token of a text may be: it does not stand for the end of the input, and a name is made of
the characters that continue names. -/
def TokenKind.Carries (kind : TokenKind) (value : String) : Prop :=
  kind ≠ .endOfInput ∧ (kind = .identifier → ∀ c ∈ value.toList, continuesName c = true)

/-- Whatever is not a name may carry any text. -/
theorem TokenKind.carries_of_ne {kind : TokenKind} (notEnd : kind ≠ .endOfInput)
    (notName : kind ≠ .identifier) (value : String) : kind.Carries value :=
  ⟨notEnd, fun isName => absurd isName notName⟩

private theorem TokenKind.carries_name
    {name : List Char} (continues : ∀ c ∈ name, continuesName c = true) :
    TokenKind.identifier.Carries (String.ofList name) :=
  ⟨by decide, fun _ => by rwa [String.toList_ofList]⟩

/-- A punctuation mark is neither the end of the input nor a name. -/
theorem carries_of_ofMark? {c : Char} {kind : TokenKind} (isMark : TokenKind.ofMark? c = some kind)
    (value : String) : kind.Carries value :=
  TokenKind.carries_of_ne (ne_of_ofMark? isMark _ (by decide)) (ne_of_ofMark? isMark _ (by decide))
    value

/-- Numbers are integers or floats. -/
theorem kind_of_numberExtent (text : List Char) :
    (numberExtent text).1 = .integer ∨ (numberExtent text).1 = .float := by
  unfold numberExtent
  split
  · exact .inl rfl
  · exact .inl rfl
  · exact .inl rfl
  · dsimp only
    split
    · exact .inl rfl
    · exact .inr rfl

/-- The characters of a name, a raw one included. -/
theorem continuesName_of_mem_name {c : Char} {rest : List Char} (begins : beginsName c = true) :
    ∀ d ∈ c :: rest.takeWhile continuesName, continuesName d = true :=
  List.forall_mem_cons.mpr ⟨continuesName_of_beginsName begins,
    List.all_eq_true.mp List.all_takeWhile⟩

/-- An outcome of a step of scanning that makes no token but one that a text may have. -/
def Makes (step : Except Fault Lexeme) : Prop :=
  ∀ lexeme, step = .ok lexeme → ∀ token ∈ lexeme.token, token.1.Carries token.2

open TokenKind in
/-- A step of scanning makes a token that a text may have, or none. -/
theorem readLexeme_makes (here : Location) (c : Char) (rest : List Char) :
    Makes (readLexeme here c rest) := by
  intro lexeme read token made
  cases readLexeme_eq_iff.mp read with
  | blank | lineComment | blockComment => cases made
  | string | rawString | lifetime | separator | colon =>
    cases made
    dsimp only
    exact carries_of_ne (by decide) (by decide) _
  | rawName begins | name begins =>
    cases made
    exact carries_name (continuesName_of_mem_name begins)
  | @number _ _ kind length digit extent =>
    cases made
    have isNumber := kind_of_numberExtent (c :: rest)
    rw [extent] at isNumber
    dsimp only at isNumber ⊢
    rcases isNumber with rfl | rfl <;> exact carries_of_ne (by decide) (by decide) _
  | mark isMark =>
    cases made
    exact carries_of_ofMark? isMark _

/-- All tokens of a text are such as a text may have.  So a property of tokens has to be checked for
one step only. -/
theorem scan_carries {here : Location} {text : List Char} {tokens : List Token}
    (scanned : scan here text = .ok tokens) :
    ∀ token ∈ tokens, token.kind.Carries token.value := by
  generalize size : text.length = n
  induction n using Nat.strongRecOn generalizing here text tokens with
  | _ n ih =>
    cases text with
    | nil =>
      rw [scan] at scanned
      cases scanned
      intro token listed
      cases listed
    | cons c rest =>
      obtain ⟨lexeme, others, read, scannedRest, rfl⟩ := scan_cons_eq_ok.mp scanned
      intro token listed
      rcases List.mem_append.mp listed with first | later
      · obtain ⟨made, isMade, rfl⟩ := Option.map_eq_some_iff.mp (Option.mem_toList.mp first)
        exact readLexeme_makes here c rest lexeme read made isMade
      · refine ih (rest.drop lexeme.more).length ?_ scannedRest rfl token later
        rw [← size, List.length_cons, List.length_drop]
        omega

/-- No token of a text stands for the end of the input. -/
theorem scan_ne_endOfInput {here : Location} {text : List Char} {tokens : List Token}
    (scanned : scan here text = .ok tokens) : ∀ token ∈ tokens, token.kind ≠ .endOfInput :=
  fun token listed => (scan_carries scanned token listed).1

/-- The tokens of a stream, and behind them the one that stands for the end of the input. -/
def TokenStream.listed (stream : TokenStream) : List Token :=
  stream.tokens ++ [⟨.endOfInput, "", stream.finish⟩]

@[simp] theorem TokenStream.dropLast_listed (stream : TokenStream) :
    stream.listed.dropLast = stream.tokens := List.dropLast_concat

/-! ### Parsers of whole texts -/

namespace Parser

variable {α : Type} {origin : Location} {text : String} {value : α} {parser : Parser α}

/-- A parser that is run on a text is given the tokens of the text. -/
theorem runOn_eq_ok :
    parser.runOn origin text = .ok value ↔
      ∃ tokens rest, scan origin text.toList = .ok tokens ∧
        parser ⟨tokens, origin.behind text.toList⟩ = .ok value rest := by
  rw [runOn, tokenize]
  cases scan origin text.toList with
  | error fault => simp
  | ok tokens =>
    dsimp only [EStateM.run]
    constructor
    · intro read
      cases run : parser ⟨tokens, origin.behind text.toList⟩ with
      | error fault rest =>
        rw [run] at read
        cases read
      | ok other rest =>
        rw [run] at read
        cases read
        exact ⟨tokens, rest, rfl, run⟩
    · rintro ⟨_, rest, same, run⟩
      cases same
      rw [run]

/-- A parser that fails on the tokens of a text fails on the text. -/
theorem runOn_of_error {tokens : List Token} {left : TokenStream} {fault : Fault}
    (scanned : scan origin text.toList = .ok tokens)
    (failed : parser ⟨tokens, origin.behind text.toList⟩ = .error fault left) :
    parser.runOn origin text = .error fault := by
  rw [runOn, tokenize, scanned]
  dsimp only [EStateM.run]
  rw [failed]

theorem runOnAll_of_error {tokens : List Token} {left : TokenStream} {fault : Fault}
    (scanned : scan origin text.toList = .ok tokens)
    (failed : parser ⟨tokens, origin.behind text.toList⟩ = .error fault left) :
    parser.runOnAll origin text = .error fault :=
  runOn_of_error scanned (bind_of_error failed)

private theorem expectEnd_eq_ok {stream rest : TokenStream} :
    expectEnd stream = .ok () rest ↔ stream.front = .endOfInput ∧ rest = stream := by
  rw [expectEnd, bind_of_ok (peek_apply stream)]
  constructor
  · intro read
    split at read
    next atEnd =>
      cases read
      exact ⟨beq_iff_eq.mp atEnd, rfl⟩
    next => cases read
  · rintro ⟨atEnd, rfl⟩
    have ended : ((rest.lookahead 0).kind == .endOfInput) = true := beq_iff_eq.mpr atEnd
    rw [if_pos ended, pure_apply]

/-- A parser that reads all tokens of a text reads the whole of it. -/
theorem runOnAll_of_ok {tokens : List Token} (scanned : scan origin text.toList = .ok tokens)
    (read : parser ⟨tokens, origin.behind text.toList⟩ =
      .ok value ⟨[], origin.behind text.toList⟩) :
    parser.runOnAll origin text = .ok value := by
  rw [runOnAll, runOn_eq_ok]
  refine ⟨tokens, ⟨[], origin.behind text.toList⟩, scanned, ?_⟩
  rw [bind_of_ok read, bind_of_ok (expectEnd_eq_ok.mpr ⟨rfl, rfl⟩), pure_apply]

namespace Reads

variable {n : Nat} {follow : TokenKind → Prop} {form : Form α}

/-- What is left of a text at the end of the input is nothing. -/
theorem tokens_eq_nil_of_front {tokens front : List Token} {finish : Location} {rest : TokenStream}
    (notEnd : ∀ token ∈ tokens, token.kind ≠ .endOfInput)
    (whole : TokenStream.mk tokens finish = rest.preceded front)
    (atEnd : rest.front = .endOfInput) : tokens = front := by
  obtain ⟨left, finish⟩ := rest
  cases whole
  cases left with
  | nil => exact List.append_nil front
  | cons token left => exact absurd atEnd (notEnd token (by simp))

/-- A parser that stops only at the end of the input reads its form off a whole text. -/
theorem runOn_iff (reads : ∀ n, Reads n follow parser form) (followed : follow .endOfInput)
    (stops : ∀ stream value rest, parser stream = .ok value rest → rest.front = .endOfInput) :
    parser.runOn origin text = .ok value ↔
      ∃ tokens, scan origin text.toList = .ok tokens ∧ form tokens value := by
  rw [runOn_eq_ok]
  constructor
  · rintro ⟨tokens, rest, scanned, read⟩
    obtain ⟨front, whole, written⟩ := (reads 0).sound _ _ _ read
    have same := tokens_eq_nil_of_front (scan_ne_endOfInput scanned) whole (stops _ _ _ read)
    exact ⟨tokens, scanned, same ▸ written⟩
  · rintro ⟨tokens, scanned, written⟩
    have read := (reads tokens.length).complete tokens value ⟨[], origin.behind text.toList⟩
      (Nat.le_refl _) written followed
    rw [preceded, List.append_nil] at read
    exact ⟨tokens, _, scanned, read⟩

/-- A parser that is to read all of a text reads its form off the whole text. -/
theorem runOnAll_iff (reads : ∀ n, Reads n follow parser form) (followed : follow .endOfInput) :
    parser.runOnAll origin text = .ok value ↔
      ∃ tokens, scan origin text.toList = .ok tokens ∧ form tokens value := by
  constructor
  · rw [runOnAll, runOn_eq_ok]
    rintro ⟨tokens, rest, scanned, read⟩
    obtain ⟨other, middle, otherRead, endRead⟩ := bind_eq_ok.mp read
    obtain ⟨_, _, ended, done⟩ := bind_eq_ok.mp endRead
    cases done
    obtain ⟨atEnd, rfl⟩ := expectEnd_eq_ok.mp ended
    obtain ⟨front, whole, written⟩ := (reads 0).sound _ _ _ otherRead
    have same := tokens_eq_nil_of_front (scan_ne_endOfInput scanned) whole atEnd
    exact ⟨tokens, scanned, same ▸ written⟩
  · rintro ⟨tokens, scanned, written⟩
    have read := (reads tokens.length).complete tokens value ⟨[], origin.behind text.toList⟩
      (Nat.le_refl _) written followed
    rw [preceded, List.append_nil] at read
    exact runOnAll_of_ok scanned read

end Reads

end Parser

end OpenResponse
