import Mathlib.Logic.Function.Iterate
import OpenResponse.Proofs.Token.Evaluation

/-!
# Progress of parsers

A parser only ever moves on: what it leaves of a stream lies behind what it was given, whether it
succeeds or fails.  Most parsers also take a token whenever they succeed.

This is what makes recursion end.  A reader of nested or repeated things goes round: it reads a
little and then calls on itself.  Where every such call comes after a token has been taken, a round
on a short stream only ever calls on shorter ones.  So the rounds may be unrolled, and once they are
unrolled more often than there are tokens, nothing is left of whatever stands beyond them.  The
budgets with which the readers are defined are thus never missed.

Both facts are proved together, because each of them needs the other: two parsers are compared on
streams of a bounded length, and are required to move on there.

That a parser moves on is proved for each elementary reader and carried along sequences and choices.
Where a sequence begins with a reader that takes a token, what follows is asked about shorter
streams only, and this is the step at which the bound on the length goes down.

## Main definitions

* `TokenStream.Behind` — what can be left of a stream
* `Parser.InStep` — two parsers that do the same on short streams, and move on there
* `Parser.Onward`, `Parser.Advances` — parsers that move on, and that take a token if they succeed
* `Parser.Ends` — recursion that ends
* `Parser.Rounds` — readers with a budget whose rounds call on shorter streams

## Main statements

* `Parser.InStep.bind`, `Parser.InStep.bindTaken` — sequences
* `Parser.Rounds.ends` — recursion on a budget is the recursion without one, and ends
* `Parser.separated_ends`, `Parser.keyed_ends` — lists of items and of keys

## Hypotheses

`Rounds` is what has to be shown of a reader with a budget.  `unroll` and `zero` hold by definition
or by looking at no token.  `spent` says that without a budget the reader does what a round would do
at the end of the input: there nothing is left, so the round never comes to its recursive call.
`inStep` is the fact about the round itself.

`Ends` quantifies over what stands beyond the rounds.  Since that may be any parser at all, also one
that fails or never moves on, a recursion that ends cannot have called it.
-/

namespace OpenResponse

namespace TokenStream

/-- What is left of a stream when some of its first tokens have been read. -/
structure Behind (rest stream : TokenStream) : Prop where
  tokens : rest.tokens <:+ stream.tokens
  finish : rest.finish = stream.finish

namespace Behind

variable {rest middle stream : TokenStream}

theorem refl (stream : TokenStream) : stream.Behind stream := ⟨List.suffix_rfl, rfl⟩

theorem trans (later : rest.Behind middle) (earlier : middle.Behind stream) : rest.Behind stream :=
  ⟨later.tokens.trans earlier.tokens, later.finish.trans earlier.finish⟩

private theorem advance (stream : TokenStream) : stream.advance.Behind stream :=
  ⟨List.tail_suffix _, rfl⟩

theorem length_le (behind : rest.Behind stream) : rest.tokens.length ≤ stream.tokens.length :=
  behind.tokens.length_le

private theorem eq_nil (behind : rest.Behind stream) (none : stream.tokens = []) :
    rest.tokens = [] :=
  List.suffix_nil.mp (none ▸ behind.tokens)

end Behind

theorem front_of_nil {stream : TokenStream} (none : stream.tokens = []) :
    stream.front = .endOfInput := by
  rw [front, lookahead, none]
  rfl

/-- Reading a token that is not the end of the input leaves less. -/
theorem length_advance_lt {stream : TokenStream} (notEnd : stream.front ≠ .endOfInput) :
    stream.advance.tokens.length < stream.tokens.length := by
  obtain ⟨tokens, finish⟩ := stream
  cases tokens with
  | nil => exact absurd rfl notEnd
  | cons first rest => exact Nat.lt_succ_self rest.length

end TokenStream

namespace Parser

open TokenStream

variable {α β σ ι : Type}

/-! ### Moving on -/

/-- What is left of a stream lies behind it.  If `taken`, a token is missing after a success. -/
def Leaves (taken : Bool) (stream : TokenStream) : EStateM.Result Fault TokenStream α → Prop
  | .ok _ rest => rest.Behind stream ∧
      (taken = true → rest.tokens.length < stream.tokens.length)
  | .error _ rest => rest.Behind stream

/-- Two parsers that do the same on all streams of less than `n` tokens, and move on there. -/
def InStep (n : Nat) (taken : Bool) (parser other : Parser α) : Prop :=
  ∀ stream, stream.tokens.length < n →
    parser stream = other stream ∧ Leaves taken stream (parser stream)

/-- Two parsers that do the same on the streams among these that begin with a token. -/
def InStepAt (token : Token) (n : Nat) (taken : Bool) (parser other : Parser α) : Prop :=
  ∀ stream, stream.tokens.length < n → stream.lookahead 0 = token →
    parser stream = other stream ∧ Leaves taken stream (parser stream)

/-- A parser that only ever moves on.  It never gives back a token that it has taken, so what it
leaves is a tail of what it was given. -/
def Onward (parser : Parser α) : Prop := ∀ n, InStep n false parser parser

/-- A parser that only ever moves on, and takes a token if it succeeds. -/
def Advances (parser : Parser α) : Prop := ∀ n, InStep n true parser parser

namespace Leaves

variable {taken : Bool} {stream middle : TokenStream} {result : EStateM.Result Fault TokenStream α}

/-- What is left of what is left. -/
theorem behind (left : Leaves taken middle result) (behind : middle.Behind stream) :
    Leaves taken stream result := by
  cases result with
  | ok value rest =>
    exact ⟨left.1.trans behind, fun isTaken =>
      Nat.lt_of_lt_of_le (left.2 isTaken) behind.length_le⟩
  | error fault rest => exact TokenStream.Behind.trans left behind

/-- What is left behind a token that has been taken. -/
theorem behindTaken (left : Leaves false middle result) (behind : middle.Behind stream)
    (less : middle.tokens.length < stream.tokens.length) : Leaves taken stream result := by
  cases result with
  | ok value rest =>
    exact ⟨left.1.trans behind, fun _ => Nat.lt_of_le_of_lt left.1.length_le less⟩
  | error fault rest => exact TokenStream.Behind.trans left behind

end Leaves

namespace InStep

variable {n : Nat} {taken : Bool}

/-! ### Sequences -/

theorem pure (value : α) : InStep n false (Pure.pure value) (Pure.pure value) :=
  fun stream _ => ⟨rfl, .refl stream, fun never => by cases never⟩

theorem throw (fault : Fault) : InStep n taken (throw fault : Parser α) (throw fault) :=
  fun stream _ => ⟨rfl, .refl stream⟩

/-- A parser that takes a token moves on. -/
theorem weaken {parser other : Parser α} (same : InStep n true parser other) :
    InStep n taken parser other := by
  intro stream short
  obtain ⟨same, left⟩ := same stream short
  refine ⟨same, ?_⟩
  cases run : parser stream with
  | ok value rest =>
    rw [run] at left
    exact ⟨left.1, fun _ => left.2 rfl⟩
  | error fault rest =>
    rw [run] at left
    exact left

theorem mono {m : Nat} {parser other : Parser α} (same : InStep n taken parser other)
    (fewer : m ≤ n) : InStep m taken parser other :=
  fun stream short => same stream (Nat.lt_of_lt_of_le short fewer)

/-- Sequences are in step if their parts are.  The first part need not take anything, as what the
whole has to take can be taken by the second. -/
theorem bind {first first' : Parser α} {second second' : α → Parser β}
    (firstSame : InStep n false first first')
    (secondSame : ∀ value, InStep n taken (second value) (second' value)) :
    InStep n taken (first >>= second) (first' >>= second') := by
  intro stream short
  obtain ⟨same, left⟩ := firstSame stream short
  rw [bind_apply, bind_apply, ← same]
  cases run : first stream with
  | error fault rest =>
    rw [run] at left
    exact ⟨rfl, left⟩
  | ok value rest =>
    rw [run] at left
    obtain ⟨same, leftThen⟩ :=
      secondSame value rest (Nat.lt_of_le_of_lt left.1.length_le short)
    exact ⟨same, leftThen.behind left.1⟩

/-- Behind a parser that takes a token, the streams are shorter.  That is what makes a recursion end
that goes on behind it. -/
theorem bindTaken {first first' : Parser α} {second second' : α → Parser β}
    (firstSame : InStep n true first first')
    (secondSame : ∀ value, InStep (n - 1) false (second value) (second' value)) :
    InStep n taken (first >>= second) (first' >>= second') := by
  intro stream short
  obtain ⟨same, left⟩ := firstSame stream short
  rw [bind_apply, bind_apply, ← same]
  cases run : first stream with
  | error fault rest =>
    rw [run] at left
    exact ⟨rfl, left⟩
  | ok value rest =>
    rw [run] at left
    have less := left.2 rfl
    obtain ⟨same, leftThen⟩ := secondSame value rest (by omega)
    exact ⟨same, leftThen.behindTaken left.1 less⟩

theorem map {parser other : Parser α} (same : InStep n taken parser other) (change : α → β) :
    InStep n taken (change <$> parser) (change <$> other) := by
  intro stream short
  obtain ⟨same, left⟩ := same stream short
  rw [map_apply, map_apply, ← same]
  cases run : parser stream <;> rw [run] at left <;> exact ⟨rfl, left⟩

theorem bindPure {parser other : Parser α} (same : InStep n taken parser other) (change : α → β) :
    InStep n taken (parser >>= fun value => Pure.pure (change value))
      (other >>= fun value => Pure.pure (change value)) := by
  rw [bind_pure_comp, bind_pure_comp]
  exact same.map change

theorem ite {condition : Prop} [Decidable condition] {yes yes' no no' : Parser α}
    (yesSame : InStep n taken yes yes') (noSame : InStep n taken no no') :
    InStep n taken (if condition then yes else no) (if condition then yes' else no') := by
  split
  · exact yesSame
  · exact noSame

/-! ### The elementary readers -/

theorem lookahead (offset : Nat) :
    InStep n false (Parser.lookahead offset) (Parser.lookahead offset) :=
  fun stream _ => ⟨rfl, .refl stream, fun never => by cases never⟩

theorem peek : InStep n false Parser.peek Parser.peek := lookahead 0

theorem remaining : InStep n false Parser.remaining Parser.remaining :=
  fun stream _ => ⟨rfl, .refl stream, fun never => by cases never⟩

theorem next : InStep n false Parser.next Parser.next :=
  fun stream _ => ⟨rfl, .advance stream, fun never => by cases never⟩

theorem failAt (token : Token) (cause : Cause) :
    InStep n taken (Parser.failAt token cause : Parser α) (Parser.failAt token cause) :=
  throw _

theorem failExpected (what : String) :
    InStep n taken (Parser.failExpected what : Parser α) (Parser.failExpected what) :=
  peek.bind fun _ => failAt _ _

/-- A token that has to be there is taken. -/
theorem expectAs (kind : TokenKind) (what : String) (notEnd : kind ≠ .endOfInput) :
    InStep n true (Parser.expectAs kind what) (Parser.expectAs kind what) := by
  intro stream _
  refine ⟨rfl, ?_⟩
  rw [expectAs_apply]
  by_cases there : stream.front = kind
  · rw [if_pos there]
    exact ⟨.advance stream, fun _ => length_advance_lt (there ▸ notEnd)⟩
  · rw [if_neg there]
    exact TokenStream.Behind.refl stream

theorem expect (kind : TokenKind) (notEnd : kind ≠ .endOfInput) :
    InStep n true (Parser.expect kind) (Parser.expect kind) := expectAs kind _ notEnd

/-- What stands behind a token that has to be there. -/
theorem bindExpectAs {kind : TokenKind} {what : String} {second second' : Token → Parser β}
    (notEnd : kind ≠ .endOfInput)
    (secondSame : ∀ token, InStep (n - 1) false (second token) (second' token)) :
    InStep n taken (Parser.expectAs kind what >>= second)
      (Parser.expectAs kind what >>= second') :=
  (expectAs kind what notEnd).bindTaken secondSame

/-- A token that may be there is taken, or nothing is. -/
theorem bindEat {kind : TokenKind} {second second' : Option Token → Parser β}
    (notEnd : kind ≠ .endOfInput)
    (there : ∀ token, InStep (n - 1) false (second (some token)) (second' (some token)))
    (absent : InStep n taken (second none) (second' none)) :
    InStep n taken (Parser.eat kind >>= second) (Parser.eat kind >>= second') := by
  intro stream short
  rw [bind_apply, bind_apply, eat_apply]
  by_cases isThere : stream.front = kind
  · rw [if_pos isThere]
    have less := length_advance_lt (isThere ▸ notEnd)
    obtain ⟨same, left⟩ := there (stream.lookahead 0) stream.advance (by omega)
    exact ⟨same, left.behindTaken (.advance stream) less⟩
  · rw [if_neg isThere]
    exact absent stream short

theorem eat (kind : TokenKind) : InStep n false (Parser.eat kind) (Parser.eat kind) := by
  intro stream _
  refine ⟨rfl, ?_⟩
  rw [eat_apply]
  split
  · exact ⟨.advance stream, fun never => by cases never⟩
  · exact ⟨.refl stream, fun never => by cases never⟩

theorem atWordBefore (word : String) (kind : TokenKind) :
    InStep n false (Parser.atWordBefore word kind) (Parser.atWordBefore word kind) :=
  fun stream _ => ⟨rfl, .refl stream, fun never => by cases never⟩

theorem atEnd : InStep n false Parser.atEnd Parser.atEnd := peek.bind fun _ => pure _

theorem expectEnd : InStep n false Parser.expectEnd Parser.expectEnd :=
  peek.bind fun _ => ite (pure ()) (failAt _ _)

/-! ### Choices that the first token makes -/

/-- What a parser does depends on the first token. -/
theorem peekBind {second second' : Token → Parser β}
    (same : ∀ token, InStepAt token n taken (second token) (second' token)) :
    InStep n taken (Parser.peek >>= second) (Parser.peek >>= second') :=
  fun stream short => same (stream.lookahead 0) stream short rfl

end InStep

namespace InStepAt

variable {n : Nat} {taken : Bool} {token : Token}

theorem of_inStep {parser other : Parser α} (same : InStep n taken parser other) :
    InStepAt token n taken parser other :=
  fun stream short _ => same stream short

/-- A first token that is not the end of the input is taken. -/
theorem nextBind {second second' : Token → Parser β}
    (same : ∀ token, InStep (n - 1) false (second token) (second' token))
    (notEnd : token.kind ≠ .endOfInput) :
    InStepAt token n taken (Parser.next >>= second) (Parser.next >>= second') := by
  rintro stream short rfl
  have less := length_advance_lt notEnd
  obtain ⟨same, left⟩ := same (stream.lookahead 0) stream.advance (by omega)
  exact ⟨same, left.behindTaken (.advance stream) less⟩

theorem lookaheadBind {offset : Nat} {second second' : Token → Parser β}
    (same : ∀ other, InStepAt token n taken (second other) (second' other)) :
    InStepAt token n taken (Parser.lookahead offset >>= second)
      (Parser.lookahead offset >>= second') :=
  fun stream short first => same (stream.lookahead offset) stream short first

end InStepAt

/-- Asking for a token of any kind moves on, even for the end of the input. -/
theorem Onward.expectAs (kind : TokenKind) (what : String) :
    Onward (Parser.expectAs kind what) := by
  intro n stream _
  refine ⟨rfl, ?_⟩
  rw [expectAs_apply]
  split
  · exact ⟨.advance stream, fun never => by cases never⟩
  · exact TokenStream.Behind.refl stream

/-- A parser that takes a token moves on. -/
theorem Advances.onward {parser : Parser α} (advances : Advances parser) : Onward parser :=
  fun n => (advances n).weaken

/-! ### Recursion that ends

The number of rounds and the budget are compared with the number of tokens, not with each other.  By
induction on that number, a round on a stream calls on streams that are shorter, where the rounds
that are left and the budget that is left are still enough. -/

/-- Recursion that ends: unrolled once more often than there are tokens, it does what the reader
does, whatever stands in the place of a further round. -/
def Ends (round : (ι → Parser α) → ι → Parser α) (parser : ι → Parser α) : Prop :=
  ∀ beyond input stream, round^[stream.tokens.length + 1] beyond input stream = parser input stream

/-- Recursion that hands nothing on from round to round. -/
def alone (round : Parser α → Parser α) : (Unit → Parser α) → Unit → Parser α :=
  fun rest _ => round (rest ())

/-- A reader with a budget.  Each unit of the budget pays for one round, without a budget the reader
does what a round does at the end of the input, and a round only calls on shorter streams. -/
structure Rounds (taken : Bool) (round : (ι → Parser α) → ι → Parser α)
    (within : Nat → ι → Parser α) : Prop where
  unroll : ∀ budget, within (budget + 1) = round (within budget)
  spent : ∀ input stream, stream.tokens = [] →
    within 0 input stream = round (within 0) input stream
  zero : ∀ n input, InStep n taken (within 0 input) (within 0 input)
  inStep : ∀ n rest other, (∀ input, InStep n taken (rest input) (other input)) →
    ∀ input, InStep (n + 1) taken (round rest input) (round other input)

namespace Rounds

variable {taken : Bool} {round : (ι → Parser α) → ι → Parser α} {within : Nat → ι → Parser α}
  (rounds : Rounds taken round within)

include rounds

/-- A reader moves on, however large its budget is. -/
theorem forward (budget n : Nat) (input : ι) :
    InStep n taken (within budget input) (within budget input) := by
  induction budget generalizing n input with
  | zero => exact rounds.zero n input
  | succ budget ih =>
    rw [rounds.unroll]
    cases n with
    | zero => exact fun _ none => absurd none (Nat.not_lt_zero _)
    | succ n => exact rounds.inStep n _ _ (ih n) input

/-- On streams that are shorter than the rounds are many, a budget that is large enough makes no
difference, and neither does what stands beyond the rounds. -/
theorem iterate (n budget : Nat) (enough : n ≤ budget + 1) (beyond : ι → Parser α) (input : ι) :
    InStep n taken (round^[n] beyond input) (within budget input) := by
  induction n generalizing budget input with
  | zero => exact fun _ none => absurd none (Nat.not_lt_zero _)
  | succ n ih =>
    rw [Function.iterate_succ_apply']
    cases budget with
    | succ budget =>
      rw [rounds.unroll]
      exact rounds.inStep n _ _ (ih budget (Nat.le_of_succ_le_succ enough)) input
    | zero =>
      -- nothing is left to be read, so that the round calls on nothing
      obtain rfl : n = 0 := Nat.le_zero.mp (Nat.le_of_succ_le_succ enough)
      intro stream short
      have none : stream.tokens = [] := List.length_eq_zero_iff.mp (Nat.lt_one_iff.mp short)
      rw [rounds.spent input stream none]
      exact rounds.inStep 0 _ _ (ih 0 (Nat.zero_le _)) input stream short

/-- A reader whose budget is the number of tokens is a recursion that ends.  More tokens to spend
than there are make no difference, since every round takes one. -/
theorem ends : Ends round fun input stream => within stream.tokens.length input stream :=
  fun beyond input stream =>
    (rounds.iterate _ _ (Nat.le_refl _) beyond input stream (Nat.lt_succ_self _)).1

end Rounds

/-! ### Lists of items -/

/-- One round of a list of items up to a closing mark: the mark, or an item and either a comma, and
the rest behind it, or the mark. -/
def itemsRound (close : TokenKind) (what : String) (item : Parser α) (rest : Parser (List α)) :
    Parser (List α) := do
  if (← eat close).isSome then return []
  let first ← item
  if (← eat .comma).isSome then
    return first :: (← rest)
  else
    let _ ← expectAs close what
    return [first]

section Items

variable {n : Nat} {close : TokenKind} {what : String} {item other : Parser α}

private theorem InStep.itemsRound
    (same : InStep (n + 1) false item other) (notEnd : close ≠ .endOfInput)
    {rest rest' : Parser (List α)} (restSame : InStep n true rest rest') :
    InStep (n + 1) true (itemsRound close what item rest) (itemsRound close what other rest') := by
  refine bindEat notEnd (fun _ => pure []) ?_
  refine same.bind fun first => bindEat (by decide) (fun _ => ?_) ?_
  · exact restSame.weaken.bindPure _
  · exact bindExpectAs notEnd fun _ => pure _

/-- Lists of items are in step if the items are. -/
theorem InStep.separatedWithin (same : InStep n false item other) (notEnd : close ≠ .endOfInput)
    (budget : Nat) :
    InStep n true (Parser.separatedWithin close what item budget)
      (Parser.separatedWithin close what other budget) := by
  induction budget generalizing n with
  | zero => exact same.bind fun _ => bindExpectAs notEnd fun _ => pure _
  | succ budget ih =>
    cases n with
    | zero => exact fun _ none => absurd none (Nat.not_lt_zero _)
    | succ n => exact same.itemsRound notEnd (ih (same.mono (Nat.le_succ n)))

theorem InStep.separated (same : InStep n false item other) (notEnd : close ≠ .endOfInput) :
    InStep n true (Parser.separated close what item) (Parser.separated close what other) :=
  remaining.bind fun budget => same.separatedWithin notEnd budget

private theorem rounds_separated (onward : Onward item) (notEnd : close ≠ .endOfInput) :
    Rounds true (alone (itemsRound close what item))
      fun budget _ => separatedWithin close what item budget where
  unroll _ := rfl
  zero n _ := (onward n).separatedWithin notEnd 0
  inStep n _ _ same _ := (onward (n + 1)).itemsRound notEnd (same ())
  spent := by
    intro _ stream none
    have notClose : stream.front ≠ close := by
      rw [front_of_nil none]
      exact notEnd.symm
    rw [separatedWithin, alone, itemsRound, bind_of_ok (eat_of_ne stream notClose)]
    -- an item that can be read off nothing leaves nothing, and then no comma follows
    have left := (onward (stream.tokens.length + 1) stream (Nat.lt_succ_self _)).2
    cases run : item stream with
    | error fault rest =>
      rw [bind_of_error run]
      exact (bind_of_error run).symm
    | ok first rest =>
      rw [run] at left
      have noComma : rest.front ≠ .comma := by
        rw [front_of_nil (left.1.eq_nil none)]
        decide
      rw [bind_of_ok run]
      exact ((bind_of_ok run).trans (bind_of_ok (eat_of_ne rest noComma))).symm

/-- A list of items ends, if its items move on.  The budget of the list is then never what stops it.
-/
theorem separated_ends (onward : Onward item) (notEnd : close ≠ .endOfInput) :
    Ends (alone (itemsRound close what item)) fun _ => separated close what item :=
  (rounds_separated onward notEnd).ends

end Items

theorem InStep.group {n : Nat} {item : Parser α} (onward : Onward item) :
    InStep n true (Parser.group item) (Parser.group item) :=
  bindExpectAs (by decide) fun _ => ((onward _).separated (by decide)).weaken

/-! ### Lists of keys -/

/-- Keys whose handlers move on. -/
def Moving (handlers : List (String × KeyHandler σ)) : Prop :=
  ∀ entry ∈ handlers, ∀ location state, Onward (entry.2 location state)

/-- One round of a list of keys up to a closing mark: nothing in front of the mark, or a key with
its value, and the rest behind it. -/
def keysRound (close : TokenKind) (handlers : List (String × KeyHandler σ)) (rest : σ → Parser σ)
    (state : σ) : Parser σ := do
  let token ← peek
  if token.kind == close then return state
  else if token.kind == .identifier then
    let _ ← next
    let state ← keyValue close handlers token state
    rest state
  else failKey handlers token

section Keys

variable {n : Nat} {close : TokenKind} {handlers : List (String × KeyHandler σ)}

private theorem Moving.keyValue
    (moving : Moving handlers) (close : TokenKind) (key : Token) (state : σ) :
    InStep n false (Parser.keyValue close handlers key state)
      (Parser.keyValue close handlers key state) := by
  rw [Parser.keyValue]
  cases found : handlers.lookup key.value with
  | none => exact .failAt _ _
  | some handler =>
    obtain ⟨before, after, split, -⟩ := List.lookup_eq_some_iff.mp found
    have member : (key.value, handler) ∈ handlers := by simp [split]
    refine (moving _ member key.location state n).bind fun state => InStep.peek.bind fun _ => ?_
    exact .ite (.pure state) (.bindExpectAs (by decide) fun _ => .pure state)

private theorem Moving.keysRound (moving : Moving handlers) {rest rest' : σ → Parser σ}
    (same : ∀ state, InStep n false (rest state) (rest' state)) (state : σ) :
    InStep (n + 1) false (keysRound close handlers rest state)
      (keysRound close handlers rest' state) := by
  refine .peekBind fun token => ?_
  split
  · exact .of_inStep (.pure state)
  split
  · next isKey =>
    refine .nextBind (fun _ => ?_) (by rw [beq_iff_eq.mp isKey]; decide)
    exact (moving.keyValue close token state).bind same
  · exact .of_inStep (.failAt _ _)

private theorem rounds_keyed (moving : Moving handlers) (close : TokenKind) :
    Rounds false (keysRound close handlers) (keyedWithin close handlers) where
  unroll budget := funext fun state => keyedWithin_succ close handlers budget state
  zero n state := InStep.peek.bind fun _ => .ite (.pure state) (.failAt _ _)
  inStep _ _ _ same state := moving.keysRound same state
  spent := by
    intro state stream none
    have ended : (stream.lookahead 0).kind = .endOfInput := front_of_nil none
    rw [keyedWithin, keysRound, bind_of_ok (peek_apply stream), bind_of_ok (peek_apply stream),
      ended]
    rfl

/-- A list of keys ends, if the handlers of its keys move on.  A key by itself is a token, so each
round of the list moves on. -/
theorem keyed_ends (moving : Moving handlers) (close : TokenKind) :
    Ends (keysRound close handlers) (keyed close handlers) :=
  (rounds_keyed moving close).ends

theorem Moving.keyed (moving : Moving handlers) (close : TokenKind) (state : σ) :
    Onward (Parser.keyed close handlers state) :=
  fun n => InStep.remaining.bind fun budget => (rounds_keyed moving close).forward budget n state

end Keys

end Parser

end OpenResponse
