import OpenResponse.Token.Parser

/-!
# Running the elementary parsers

What the elementary readers of a token stream do, as equations on the stream: which token they
look at, what they leave, and when a sequence of two readers succeeds.  Everything that is
proved of a larger parser is put together from these.

A stream is always looked at as some tokens in front of a rest, `TokenStream.preceded`, and not as a
list with a location: the location of its end never changes while it is read, and the equations need
not mention it.

## Main statements

* `Parser.bind_eq_ok` — what a sequence of two readers returns
* `Parser.eat_apply`, `Parser.expectAs_apply` — the readers that ask for a kind of token

## Design notes

The equations are stated so that a reader disappears and its answer stays.  The ones with a
condition are for readers that look before they take; the ones in terms of `eq_ok` turn a successful
run into a statement about the tokens that it has taken, which is the form in which soundness is
proved.

A reader that takes a token of a kind has to ask that the kind is not the end of the input.  That
one is never taken: the stream stands in front of it however often it is read.
-/

namespace OpenResponse

namespace TokenStream

/-- The stream in which the given tokens stand in front of another one. -/
def preceded (rest : TokenStream) (tokens : List Token) : TokenStream :=
  { rest with tokens := tokens ++ rest.tokens }

/-- The kind of the first token, or that of the end of the input. -/
def front (stream : TokenStream) : TokenKind := (stream.lookahead 0).kind

section Preceded

variable (rest : TokenStream) (token : Token) (tokens more : List Token)

@[simp] theorem preceded_nil : rest.preceded [] = rest := rfl

@[simp] theorem preceded_preceded :
    (rest.preceded more).preceded tokens = rest.preceded (tokens ++ more) := by
  simp [preceded]

@[simp] theorem lookahead_zero_preceded :
    (rest.preceded (token :: tokens)).lookahead 0 = token := rfl

@[simp] theorem front_preceded : (rest.preceded (token :: tokens)).front = token.kind := rfl

@[simp] theorem lookahead_one_preceded (second : Token) :
    (rest.preceded (token :: second :: tokens)).lookahead 1 = second := rfl

@[simp] theorem lookahead_one_preceded_singleton :
    (rest.preceded [token]).lookahead 1 = rest.lookahead 0 := rfl

@[simp] theorem advance_preceded :
    (rest.preceded (token :: tokens)).advance = rest.preceded tokens := rfl

@[simp] theorem length_tokens_preceded :
    (rest.preceded tokens).tokens.length = tokens.length + rest.tokens.length := by
  simp [preceded]

end Preceded

/-- A stream whose first token is of a kind other than the end of the input begins with it. -/
theorem eq_preceded_of_front {stream : TokenStream} {kind : TokenKind}
    (front : stream.front = kind) (notEnd : kind ≠ .endOfInput) :
    stream = stream.advance.preceded [stream.lookahead 0] := by
  obtain ⟨tokens, finish⟩ := stream
  cases tokens with
  | nil => exact absurd front.symm notEnd
  | cons token rest => rfl

end TokenStream

namespace Parser

open TokenStream

variable {α β : Type}

/-! ### Sequences -/

theorem pure_apply (value : α) (stream : TokenStream) :
    (pure value : Parser α) stream = .ok value stream := rfl

theorem bind_apply (first : Parser α) (second : α → Parser β) (stream : TokenStream) :
    (first >>= second) stream =
      match first stream with
      | .ok value rest => second value rest
      | .error fault rest => .error fault rest := by
  show EStateM.bind first second stream = _
  rw [EStateM.bind]
  cases first stream <;> rfl

/-- A sequence of two readers goes on behind what the first has read. -/
theorem bind_of_ok {first : Parser α} {second : α → Parser β} {stream rest : TokenStream}
    {value : α} (read : first stream = .ok value rest) :
    (first >>= second) stream = second value rest := by
  rw [bind_apply, read]

/-- A sequence of two readers fails where the first does. -/
theorem bind_of_error {first : Parser α} {second : α → Parser β} {stream rest : TokenStream}
    {fault : Fault} (failed : first stream = .error fault rest) :
    (first >>= second) stream = .error fault rest := by
  rw [bind_apply, failed]

/-- A sequence of two readers succeeds if both do, one behind the other.  The stream in between and
the value of the first reader are what the sequence passes on. -/
theorem bind_eq_ok {first : Parser α} {second : α → Parser β} {stream rest : TokenStream}
    {value : β} :
    (first >>= second) stream = .ok value rest ↔
      ∃ inner middle, first stream = .ok inner middle ∧ second inner middle = .ok value rest := by
  rw [bind_apply]
  cases first stream with
  | error fault middle => simp
  | ok inner middle =>
    refine ⟨fun read => ⟨inner, middle, rfl, read⟩, ?_⟩
    rintro ⟨_, _, same, read⟩
    cases same
    exact read

theorem map_apply (change : α → β) (parser : Parser α) (stream : TokenStream) :
    (change <$> parser) stream =
      match parser stream with
      | .ok value rest => .ok (change value) rest
      | .error fault rest => .error fault rest := by
  show EStateM.map change parser stream = _
  rw [EStateM.map]
  cases parser stream <;> rfl

theorem map_eq_ok {change : α → β} {parser : Parser α} {stream rest : TokenStream} {value : β} :
    (change <$> parser) stream = .ok value rest ↔
      ∃ inner, parser stream = .ok inner rest ∧ value = change inner := by
  rw [map_apply]
  cases parser stream with
  | error fault left => simp
  | ok inner left =>
    constructor
    · intro read
      cases read
      exact ⟨inner, rfl, rfl⟩
    · rintro ⟨_, same, rfl⟩
      cases same
      rfl

/-! ### The elementary readers -/

section Elementary

variable (stream : TokenStream)

theorem peek_apply : peek stream = .ok (stream.lookahead 0) stream := rfl

theorem remaining_apply : remaining stream = .ok stream.tokens.length stream := rfl

theorem next_apply : next stream = .ok (stream.lookahead 0) stream.advance := rfl

private theorem failExpected_apply (what : String) :
    (failExpected what : Parser α) stream =
      .error (.found (stream.lookahead 0).location
        (.expected what (stream.lookahead 0).describe)) stream := rfl

/-- What an optional token comes to: it is taken if its kind is that of the first token of the
stream. -/
theorem eat_apply (kind : TokenKind) :
    eat kind stream =
      if stream.front = kind then .ok (some (stream.lookahead 0)) stream.advance
      else .ok none stream := by
  rw [eat, bind_of_ok (peek_apply stream)]
  by_cases h : stream.front = kind
  · rw [if_pos h, if_pos (by simpa [front] using h), map_apply, next_apply]
  · rw [if_neg h, if_neg (by simpa [front] using h), pure_apply]

/-- What a required token comes to: it is taken, or the fault names what was wanted and what was
found there. -/
theorem expectAs_apply (kind : TokenKind) (what : String) :
    expectAs kind what stream =
      if stream.front = kind then .ok (stream.lookahead 0) stream.advance
      else failExpected what stream := by
  rw [expectAs, bind_of_ok (peek_apply stream)]
  by_cases h : stream.front = kind
  · rw [if_pos h, if_pos (by simpa [front] using h), next_apply]
  · rw [if_neg h, if_neg (by simpa [front] using h)]

/-- A token that had to be there was there. -/
theorem expectAs_eq_ok {stream rest : TokenStream} {kind : TokenKind} {what : String}
    {token : Token} (read : expectAs kind what stream = .ok token rest)
    (notEnd : kind ≠ .endOfInput) : stream = rest.preceded [token] ∧ token.kind = kind := by
  rw [expectAs_apply] at read
  by_cases there : stream.front = kind
  · rw [if_pos there] at read
    cases read
    exact ⟨eq_preceded_of_front there notEnd, there⟩
  · rw [if_neg there, failExpected_apply] at read
    cases read

/-- A token that may be there was there, or nothing was read. -/
theorem eat_eq_ok {stream rest : TokenStream} {kind : TokenKind} {eaten : Option Token}
    (read : eat kind stream = .ok eaten rest) (notEnd : kind ≠ .endOfInput) :
    (∃ token : Token, eaten = some token ∧ stream = rest.preceded [token] ∧ token.kind = kind) ∨
      (eaten = none ∧ stream = rest ∧ stream.front ≠ kind) := by
  rw [eat_apply] at read
  by_cases there : stream.front = kind
  · rw [if_pos there] at read
    cases read
    exact .inl ⟨_, rfl, eq_preceded_of_front there notEnd, there⟩
  · rw [if_neg there] at read
    cases read
    exact .inr ⟨rfl, rfl, there⟩

theorem expectAs_of_kind {token : Token} {kind : TokenKind} (isKind : token.kind = kind)
    (what : String) (tokens : List Token) :
    expectAs kind what (stream.preceded (token :: tokens)) =
      .ok token (stream.preceded tokens) := by
  rw [expectAs_apply, front_preceded, if_pos isKind]
  rfl

theorem eat_of_kind {token : Token} {kind : TokenKind} (isKind : token.kind = kind)
    (tokens : List Token) :
    eat kind (stream.preceded (token :: tokens)) = .ok (some token) (stream.preceded tokens) := by
  rw [eat_apply, front_preceded, if_pos isKind]
  rfl

theorem eat_of_ne {kind : TokenKind} (differ : stream.front ≠ kind) :
    eat kind stream = .ok none stream := by
  rw [eat_apply, if_neg differ]

theorem atWordBefore_apply (word : String) (kind : TokenKind) :
    atWordBefore word kind stream =
      .ok ((stream.lookahead 0).isWord word && (stream.lookahead 1).kind == kind) stream := rfl

end Elementary

theorem failAt_bind (token : Token) (cause : Cause) (second : α → Parser β) :
    (failAt token cause >>= second) = failAt token cause := rfl

/-! ### Keys -/

section Keys

variable {σ : Type} (close : TokenKind) (handlers : List (String × KeyHandler σ))

/-- The value of a key that is read, and the comma behind it unless the list ends there. -/
def keyValue (key : Token) (state : σ) : Parser σ :=
  match handlers.lookup key.value with
  | none => failAt key (.unknownKey key.value (handlers.map (·.1)))
  | some handler => do
    let state ← handler key.location state
    if (← peek).kind == close then return state
    else
      let _ ← expectAs .comma ("`,` or " ++ close.label)
      return state

/-- A list of keys is at its end, or begins with a key and its value. -/
theorem keyedWithin_succ (budget : Nat) (state : σ) :
    keyedWithin close handlers (budget + 1) state = (do
      let token ← peek
      if token.kind == close then return state
      else if token.kind == .identifier then
        let _ ← next
        let state ← keyValue close handlers token state
        keyedWithin close handlers budget state
      else failKey handlers token) := by
  rw [keyedWithin]
  refine congrArg (peek >>= ·) (funext fun token => ?_)
  by_cases atClose : token.kind == close
  · rw [if_pos atClose, if_pos atClose]
  rw [if_neg atClose, if_neg atClose]
  by_cases isKey : token.kind == .identifier
  · rw [if_pos isKey, if_pos isKey]
    refine congrArg (next >>= ·) (funext fun _ => ?_)
    rw [keyValue]
    cases handlers.lookup token.value with
    | none => rfl
    | some handler =>
      simp only [bind_assoc]
      refine congrArg (handler token.location state >>= ·) (funext fun state => ?_)
      refine congrArg (peek >>= ·) (funext fun follower => ?_)
      by_cases ended : follower.kind == close
      · rw [if_pos ended, if_pos ended, pure_bind]
      · rw [if_neg ended, if_neg ended, bind_assoc]
        rfl
  · rw [if_neg isKey, if_neg isKey]
    rfl

end Keys

end Parser

end OpenResponse
