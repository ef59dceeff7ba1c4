import Mathlib.Data.List.Forall2
import OpenResponse.Proofs.Token.Evaluation

/-!
# Moving a text

The location of a token decides nothing: a parser looks at it only to say where a fault was found.
So two streams that differ in the locations of their tokens alone are read alike, up to the
locations that are reported or kept.

How the locations of one stream belong to those of the other is a parameter.  With the relation that
holds of any two locations the statements say that the outcome does not depend on where a text
begins, and read on a single stream they say which faults a parser can find at all.

The property is one of two parsers, to be shown for each reader once and then put together as the
readers are.  In most cases they are the same parser; they are two where a handler has been given a
place, or a state with places in it, and is compared with itself at another place.

## Main definitions

* `Fault.Related`, `Token.Related`, `TokenStream.Related` — the same up to locations
* `Parser.Respects` — two parsers that turn related streams into related outcomes

## Main statements

* `Parser.Respects.bind` — sequences
* `Parser.Respects.separated`, `Parser.Respects.keyed` — lists

## Design notes

A fault is related to another one only if its cause is one of those that are found at a place, or
one of the few without any.  So a proof that a parser respects locations is also a proof that all of
its faults have these causes: with the relation that holds of any two locations this is read off one
stream, and no second walk over the parsers is needed for it.

The relation on values is a parameter, because some values keep places.  `Uniform` is the case of
values that keep none.
-/

namespace OpenResponse

/-- Whether a cause is found at a place of the text that is read. -/
def Cause.isLocated : Cause → Bool
  | .openComment | .lifetimeWithoutName | .strayCharacter _ | .openString | .badUnicodeEscape _
  | .badHexEscape _ | .unknownEscape _ | .rawStringWithoutQuote | .openRawString | .badInteger _
  | .badFloat _ | .expected .. | .expectedType _ | .tupleType | .trailing _ | .keyExpected ..
  | .unknownKey .. | .unknownHeaderKey _ | .statusMissing | .referenceWithValue
  | .badStatusRange .. | .unknownStatus _ => true
  | _ => false

/-- Whether a cause is a number out of range, for which no place is given. -/
def Cause.isRange : Cause → Bool
  | .escapeOverflow | .numeralLimit => true
  | _ => false

/-- Faults of reading a text that differ in their locations alone.  The cause is the same, so they
have the same wording. -/
inductive Fault.Related (R : Location → Location → Prop) : Fault → Fault → Prop
  | found {here there : Location} {cause : Cause} (moved : R here there)
      (located : cause.isLocated = true) : Related R (.found here cause) (.found there cause)
  | nowhere {cause : Cause} (range : cause.isRange = true) :
      Related R (.nowhere cause) (.nowhere cause)

/-- Tokens that differ in their locations alone.  They are described in the same way, and are the
same to every reader that does not look at locations. -/
structure Token.Related (R : Location → Location → Prop) (token other : Token) : Prop where
  kind : token.kind = other.kind
  value : token.value = other.value
  location : R token.location other.location

/-- Streams that differ in the locations of their tokens and of their ends alone. -/
structure TokenStream.Related (R : Location → Location → Prop) (stream other : TokenStream) :
    Prop where
  tokens : List.Forall₂ (Token.Related R) stream.tokens other.tokens
  finish : R stream.finish other.finish

section Tokens

variable {R : Location → Location → Prop}

theorem Token.Related.describe {token other : Token} (same : token.Related R other) :
    token.describe = other.describe := by
  rw [Token.describe, Token.describe, same.kind, same.value]

theorem Token.Related.isWord {token other : Token} (same : token.Related R other) (word : String) :
    token.isWord word = other.isWord word := by
  rw [Token.isWord, Token.isWord, same.kind, same.value]

namespace TokenStream.Related

variable {stream other : TokenStream} (same : stream.Related R other)

include same

private theorem lookahead (offset : Nat) :
    (stream.lookahead offset).Related R (other.lookahead offset) := by
  obtain ⟨tokens, finish⟩ := stream
  obtain ⟨others, end'⟩ := other
  obtain ⟨tokensSame, finishSame⟩ := same
  induction offset generalizing tokens others with
  | zero =>
    cases tokensSame with
    | nil => exact ⟨rfl, rfl, finishSame⟩
    | cons first rest => exact first
  | succ offset ih =>
    cases tokensSame with
    | nil => exact ⟨rfl, rfl, finishSame⟩
    | cons first rest => exact ih _ _ rest finishSame

private theorem advance : stream.advance.Related R other.advance := by
  obtain ⟨tokens, finish⟩ := stream
  obtain ⟨others, end'⟩ := other
  obtain ⟨tokensSame, finishSame⟩ := same
  cases tokensSame with
  | nil => exact ⟨.nil, finishSame⟩
  | cons first rest => exact ⟨rest, finishSame⟩

private theorem front : stream.front = other.front := (same.lookahead 0).kind

private theorem length : stream.tokens.length = other.tokens.length := same.tokens.length_eq

end TokenStream.Related

end Tokens

namespace Parser

variable {α β σ : Type} {R : Location → Location → Prop}

/-- Two parsers that turn streams which differ in locations alone into related outcomes: values that
`V` relates, or faults that differ in their locations alone. -/
def Respects (R : Location → Location → Prop) (V : α → α → Prop) (parser other : Parser α) : Prop :=
  ∀ stream moved, stream.Related R moved →
    match parser stream, other moved with
    | .ok value rest, .ok value' rest' => V value value' ∧ rest.Related R rest'
    | .error fault _, .error fault' _ => fault.Related R fault'
    | _, _ => False

/-- A parser whose value does not depend on locations. -/
abbrev Uniform (R : Location → Location → Prop) (parser : Parser α) : Prop :=
  Respects R Eq parser parser

namespace Respects

/-! ### Sequences -/

theorem pure {V : α → α → Prop} {value other : α} (same : V value other) :
    Respects R V (Pure.pure value) (Pure.pure other) :=
  fun _ _ streams => ⟨same, streams⟩

/-- Sequences respect what their parts do.  Faults are related by `R` whatever the values are, so
only the values pass from the first relation to the second. -/
theorem bind {V : α → α → Prop} {W : β → β → Prop} {first first' : Parser α}
    {second second' : α → Parser β} (firstSame : Respects R V first first')
    (secondSame : ∀ value value', V value value' → Respects R W (second value) (second' value')) :
    Respects R W (first >>= second) (first' >>= second') := by
  intro stream moved same
  have firsts := firstSame stream moved same
  rw [bind_apply, bind_apply]
  cases read : first stream <;> cases read' : first' moved <;> rw [read, read'] at firsts
  · exact secondSame _ _ firsts.1 _ _ firsts.2
  · exact firsts.elim
  · exact firsts.elim
  · exact firsts

/-- A sequence whose first value does not depend on locations. -/
theorem bindEq {W : β → β → Prop} {first first' : Parser α} {second second' : α → Parser β}
    (firstSame : Respects R Eq first first')
    (secondSame : ∀ value, Respects R W (second value) (second' value)) :
    Respects R W (first >>= second) (first' >>= second') :=
  firstSame.bind fun value _ same => same ▸ secondSame value

theorem map {V : α → α → Prop} {W : β → β → Prop} {parser other : Parser α} {change : α → β}
    {change' : α → β} (same : Respects R V parser other)
    (changes : ∀ value value', V value value' → W (change value) (change' value')) :
    Respects R W (change <$> parser) (change' <$> other) := by
  rw [map_eq_pure_bind, map_eq_pure_bind]
  exact same.bind fun value value' related => pure (changes value value' related)

theorem ite {V : α → α → Prop} {condition : Prop} [Decidable condition]
    {yes yes' no no' : Parser α} (yesSame : Respects R V yes yes') (noSame : Respects R V no no') :
    Respects R V (if condition then yes else no) (if condition then yes' else no') := by
  split
  · exact yesSame
  · exact noSame

/-! ### The elementary readers -/

private theorem lookahead (offset : Nat) :
    Respects R (Token.Related R) (Parser.lookahead offset) (Parser.lookahead offset) :=
  fun _ _ same => ⟨same.lookahead offset, same⟩

theorem peek : Respects R (Token.Related R) Parser.peek Parser.peek := lookahead 0

theorem remaining : Uniform R Parser.remaining := fun _ _ same => ⟨same.length, same⟩

theorem next : Respects R (Token.Related R) Parser.next Parser.next :=
  fun _ _ same => ⟨same.lookahead 0, same.advance⟩

/-- A fault that is found at a token is found at the moved token. -/
theorem failAt {V : α → α → Prop} {token other : Token} {cause : Cause}
    (same : token.Related R other) (located : cause.isLocated = true) :
    Respects R V (Parser.failAt token cause) (Parser.failAt other cause) :=
  fun _ _ _ => .found same.location located

/-- A fault that is found at a location is found at the moved location. -/
theorem throwFound {V : α → α → Prop} {here there : Location} {cause : Cause} (moved : R here there)
    (located : cause.isLocated = true) :
    Respects R V (throw (.found here cause)) (throw (.found there cause)) :=
  fun _ _ _ => .found moved located

theorem throwNowhere {V : α → α → Prop} {cause : Cause} (range : cause.isRange = true) :
    Respects R V (throw (.nowhere cause)) (throw (.nowhere cause)) :=
  fun _ _ _ => .nowhere range

theorem failExpected {V : α → α → Prop} (what : String) :
    Respects R V (Parser.failExpected what) (Parser.failExpected what) :=
  peek.bind fun _ _ same => by
    rw [same.describe]
    exact failAt same rfl

private theorem eat (kind : TokenKind) :
    Respects R (Option.Rel (Token.Related R)) (Parser.eat kind) (Parser.eat kind) := by
  intro stream moved same
  rw [eat_apply, eat_apply, same.front]
  by_cases there : moved.front = kind
  · rw [if_pos there, if_pos there]
    exact ⟨.some (same.lookahead 0), same.advance⟩
  · rw [if_neg there, if_neg there]
    exact ⟨.none, same⟩

/-- Whether a token of a kind was there does not depend on locations. -/
theorem bindEat {V : β → β → Prop} (kind : TokenKind) {second second' : Option Token → Parser β}
    (absent : Respects R V (second none) (second' none))
    (there : ∀ token token', Respects R V (second (some token)) (second' (some token'))) :
    Respects R V (Parser.eat kind >>= second) (Parser.eat kind >>= second') :=
  (eat kind).bind fun _ _ same => by
    cases same with
    | none => exact absent
    | some _ => exact there _ _

theorem expectAs (kind : TokenKind) (what : String) :
    Respects R (Token.Related R) (Parser.expectAs kind what) (Parser.expectAs kind what) := by
  intro stream moved same
  rw [expectAs_apply, expectAs_apply, same.front]
  by_cases there : moved.front = kind
  · rw [if_pos there, if_pos there]
    exact ⟨same.lookahead 0, same.advance⟩
  · rw [if_neg there, if_neg there]
    exact (failExpected what : Respects R (Token.Related R) _ _) stream moved same

theorem expect (kind : TokenKind) :
    Respects R (Token.Related R) (Parser.expect kind) (Parser.expect kind) :=
  expectAs kind kind.label

/-- A mark whose token is not looked at. -/
theorem bindExpectAs {V : β → β → Prop} (kind : TokenKind) (what : String)
    {second second' : Token → Parser β}
    (secondSame : ∀ token token', Respects R V (second token) (second' token')) :
    Respects R V (Parser.expectAs kind what >>= second) (Parser.expectAs kind what >>= second') :=
  (expectAs kind what).bind fun token token' _ => secondSame token token'

theorem atWordBefore (word : String) (kind : TokenKind) :
    Uniform R (Parser.atWordBefore word kind) := by
  intro stream moved same
  rw [atWordBefore_apply, atWordBefore_apply, (same.lookahead 0).isWord, (same.lookahead 1).kind]
  exact ⟨rfl, same⟩

theorem atEnd : Uniform R Parser.atEnd :=
  peek.bind fun _ _ same => by
    rw [same.kind]
    exact pure rfl

theorem expectEnd : Uniform R Parser.expectEnd :=
  peek.bind fun _ _ same => by
    rw [same.kind, same.describe]
    exact ite (pure rfl) (failAt same rfl)

/-! ### Lists

A list recurs on a budget, which is the number of tokens that are left and so the same for both
streams.  The state of a list of keys may hold places, hence the relation `W` between states. -/

private theorem separatedWithin {item : Parser α} (same : Uniform R item) (close : TokenKind)
    (what : String) (budget : Nat) : Uniform R (Parser.separatedWithin close what item budget) := by
  induction budget with
  | zero => exact same.bindEq fun _ => bindExpectAs close what fun _ _ => pure rfl
  | succ budget ih =>
    refine bindEat close ?_ fun _ _ => pure rfl
    refine same.bindEq fun _ => bindEat .comma ?_ fun _ _ => ?_
    · exact bindExpectAs close what fun _ _ => pure rfl
    · exact ih.bindEq fun _ => pure rfl

/-- Lists of items respect what their items do.  The budget of such a list is the number of tokens
that are left, which is the same on both sides. -/
theorem separated {item : Parser α} (same : Uniform R item) (close : TokenKind) (what : String) :
    Uniform R (Parser.separated close what item) :=
  remaining.bindEq fun _ => separatedWithin same close what _

theorem group {item : Parser α} (same : Uniform R item) : Uniform R (Parser.group item) :=
  bindExpectAs _ _ fun _ _ => separated same _ _

private theorem failKey
    {V : α → α → Prop} (handlers : List (String × KeyHandler σ)) {token other : Token}
    (same : token.Related R other) :
    Respects R V (Parser.failKey handlers token) (Parser.failKey handlers other) := by
  rw [Parser.failKey, Parser.failKey, same.describe]
  exact failAt same rfl

/-- A handler that reads moved streams alike, wherever its key stands. -/
def Handles (R : Location → Location → Prop) (W : σ → σ → Prop) (handler : KeyHandler σ) : Prop :=
  ∀ here there, R here there → ∀ state state', W state state' →
    Respects R W (handler here state) (handler there state')

private theorem keyValue {W : σ → σ → Prop} {handlers : List (String × KeyHandler σ)}
    (handled : ∀ entry ∈ handlers, Handles R W entry.2) (close : TokenKind) {key key' : Token}
    (keys : key.Related R key') {state state' : σ} (states : W state state') :
    Respects R W (Parser.keyValue close handlers key state)
      (Parser.keyValue close handlers key' state') := by
  rw [Parser.keyValue, Parser.keyValue, keys.value]
  cases found : handlers.lookup key'.value with
  | none => exact failAt keys rfl
  | some handler =>
    obtain ⟨before, after, split, -⟩ := List.lookup_eq_some_iff.mp found
    have member : (key'.value, handler) ∈ handlers := by simp [split]
    refine (handled _ member _ _ keys.location _ _ states).bind fun state state' states => ?_
    refine peek.bind fun follower follower' same => ?_
    rw [same.kind]
    exact ite (pure states) (bindExpectAs _ _ fun _ _ => pure states)

/-- A list of keys respects what the handlers of all its keys respect. -/
theorem keyedWithin {W : σ → σ → Prop} {handlers : List (String × KeyHandler σ)}
    (handled : ∀ entry ∈ handlers, Handles R W entry.2) (close : TokenKind) (budget : Nat)
    {state state' : σ} (states : W state state') :
    Respects R W (Parser.keyedWithin close handlers budget state)
      (Parser.keyedWithin close handlers budget state') := by
  induction budget generalizing state state' with
  | zero =>
    refine peek.bind fun token token' same => ?_
    rw [same.kind]
    exact ite (pure states) (failKey handlers same)
  | succ budget ih =>
    rw [keyedWithin_succ, keyedWithin_succ]
    refine peek.bind fun token token' same => ?_
    rw [same.kind]
    refine ite (pure states) (ite ?_ (failKey handlers same))
    refine next.bind fun _ _ _ => ?_
    exact (keyValue handled close same states).bind fun _ _ states => ih states

/-- Lists of keys respect what the handlers of their keys do, states included.  The handlers are
related one by one, and a key that none of them knows fails at corresponding places. -/
theorem keyed {W : σ → σ → Prop} {handlers : List (String × KeyHandler σ)}
    (handled : ∀ entry ∈ handlers, Handles R W entry.2) (close : TokenKind) {state state' : σ}
    (states : W state state') :
    Respects R W (Parser.keyed close handlers state) (Parser.keyed close handlers state') :=
  remaining.bindEq fun budget => keyedWithin handled close budget states

end Respects

end Parser

end OpenResponse
