import OpenResponse.Proofs.Token.Evaluation

/-!
# Forms

A form says which tokens are written for which values.  It is the grammar of a parser without its
decisions: where a parser looks at the next token to choose, the form simply allows both.  A parser
reads a form if it takes nothing but what the form allows, and takes all that the form allows as
long as a suitable token follows.  The second half is where the decisions matter, and it is what
makes an accepted text mean the same inside a larger one.

Soundness says what an accepted text looks like, completeness that what looks like this is accepted,
and with the same value.  Together they make the outcome of a parser on a text an equivalence, in
which the parser does not occur on the right.  Neither is proved of a large parser at once: every
way to put parsers together comes with the way to put their forms together.

## Main definitions

* `Form` — which tokens are written for which values
* `Form.token`, `Form.word`, `Form.optional`, `Form.either` — the elementary forms
* `Form.Opens` — what a form can begin with
* `Parser.Reads` — a parser that reads a form

## Main statements

* `Parser.Reads.bind` — sequences
* `Parser.Reads.bindExpectAs`, `Parser.Reads.bindEat` — tokens that have to or may be there
* `Parser.Reads.beforeWord` — the choice that a word and the token behind it make

## Hypotheses

`Reads n follow` holds for so many tokens and for what may follow them.  The bound `n` is there for
parsers that recurse on a budget: they read all forms that are short enough, and the proof is an
induction on `n`.  The condition `follow` is there for parsers that look ahead: a type may be
followed by anything but two colons or an angle bracket, which would belong to it, and most forms
are asked for in front of a token that closes something.

Where a parser chooses by the first token, completeness needs that the token decides.  `Form.Opens`
and `Form.Avoids` say what a form can begin with, and are proved of forms alone.
-/

namespace OpenResponse

/-- A token is a word if it is a name with the text of the word. -/
theorem Token.isWord_iff {token : Token} {text : String} :
    token.isWord text = true ↔ token.kind = .identifier ∧ token.value = text := by
  rw [isWord, Bool.and_eq_true, beq_iff_eq, beq_iff_eq]

/-- Which tokens are written for which values.  A form is a relation, so it may allow many ways to
write one value, and says nothing about how they are read. -/
def Form (α : Type) : Type := List Token → α → Prop

namespace Form

open TokenStream

variable {α β : Type}

instance : Monad Form where
  pure value := fun tokens other => tokens = [] ∧ other = value
  bind first second := fun tokens value =>
    ∃ front back inner, tokens = front ++ back ∧ first front inner ∧ second inner back value

/-- One token of a kind, which stands for its text.  It is the only form that looks at a token by
itself; all others are put together from it. -/
def token (kind : TokenKind) : Form String := fun tokens text =>
  ∃ token : Token, tokens = [token] ∧ token.kind = kind ∧ token.value = text

/-- A given word.  A name like any other to the scanner, it has a meaning in its place. -/
def word (text : String) : Form Unit := fun tokens _ =>
  ∃ token : Token, tokens = [token] ∧ token.isWord text = true

/-- A token of a kind that may be left out.  What is written without it stands for nothing in its
place. -/
def optional (kind : TokenKind) : Form Bool := fun tokens there =>
  (∃ token : Token, tokens = [token] ∧ token.kind = kind ∧ there = true) ∨
    (tokens = [] ∧ there = false)

/-- A form that does not begin with a given word. -/
def unlessWord (text : String) (form : Form α) : Form α := fun tokens value =>
  form tokens value ∧ ∀ first ∈ tokens.head?, first.isWord text = false

/-- What one of two forms allows.  The two may overlap: a form does not say which of them is tried
first. -/
def either (first second : Form α) : Form α := fun tokens value =>
  first tokens value ∨ second tokens value

theorem pure_iff {value other : α} {tokens : List Token} :
    (pure value : Form α) tokens other ↔ tokens = [] ∧ other = value := Iff.rfl

theorem token_bind_iff {kind : TokenKind} {second : String → Form β} {tokens : List Token}
    {value : β} :
    (token kind >>= second) tokens value ↔
      ∃ first back, tokens = first :: back ∧ first.kind = kind ∧ second first.value back value := by
  constructor
  · rintro ⟨_, back, _, rfl, ⟨first, rfl, isKind, rfl⟩, rest⟩
    exact ⟨first, back, rfl, isKind, rest⟩
  · rintro ⟨first, back, rfl, isKind, rest⟩
    exact ⟨[first], back, _, rfl, ⟨first, rfl, isKind, rfl⟩, rest⟩

theorem word_bind_iff {text : String} {second : Unit → Form β} {tokens : List Token} {value : β} :
    (word text >>= second) tokens value ↔
      ∃ first back, tokens = first :: back ∧ first.isWord text = true ∧ second () back value := by
  constructor
  · rintro ⟨_, back, _, rfl, ⟨first, rfl, isWord⟩, rest⟩
    exact ⟨first, back, rfl, isWord, rest⟩
  · rintro ⟨first, back, rfl, isWord, rest⟩
    exact ⟨[first], back, _, rfl, ⟨first, rfl, isWord⟩, rest⟩

/-- What is written behind a first token. -/
def after (form : Form α) (first : Token) : Form α := fun tokens value =>
  form (first :: tokens) value

theorem cons_token_bind_iff {kind : TokenKind} {second : String → Form β} {first : Token}
    {tokens : List Token} {value : β} :
    (token kind >>= second) (first :: tokens) value ↔
      first.kind = kind ∧ second first.value tokens value := by
  rw [token_bind_iff]
  constructor
  · rintro ⟨_, _, same, isKind, written⟩
    cases same
    exact ⟨isKind, written⟩
  · rintro ⟨isKind, written⟩
    exact ⟨first, tokens, rfl, isKind, written⟩

theorem cons_word_bind_iff {text : String} {second : Unit → Form β} {first : Token}
    {tokens : List Token} {value : β} :
    (word text >>= second) (first :: tokens) value ↔
      first.isWord text = true ∧ second () tokens value := by
  rw [word_bind_iff]
  constructor
  · rintro ⟨_, _, same, isWord, written⟩
    cases same
    exact ⟨isWord, written⟩
  · rintro ⟨isWord, written⟩
    exact ⟨first, tokens, rfl, isWord, written⟩

theorem not_word_bind_nil {text : String} {second : Unit → Form β} {value : β} :
    ¬ (word text >>= second) [] value := by
  intro written
  obtain ⟨first, back, same, -⟩ := word_bind_iff.mp written
  cases same

theorem not_token_bind_nil {kind : TokenKind} {second : String → Form β} {value : β} :
    ¬ (token kind >>= second) [] value := by
  intro written
  obtain ⟨first, back, same, -⟩ := token_bind_iff.mp written
  cases same

theorem optional_bind_iff {kind : TokenKind} {second : Bool → Form β} {tokens : List Token}
    {value : β} :
    (optional kind >>= second) tokens value ↔
      (∃ first back, tokens = first :: back ∧ first.kind = kind ∧ second true back value) ∨
        second false tokens value := by
  constructor
  · rintro ⟨_, back, _, rfl, ⟨first, rfl, isKind, rfl⟩ | ⟨rfl, rfl⟩, rest⟩
    · exact .inl ⟨first, back, rfl, isKind, rest⟩
    · exact .inr rest
  · rintro (⟨first, back, rfl, isKind, rest⟩ | rest)
    · exact ⟨[first], back, _, rfl, .inl ⟨first, rfl, isKind, rfl⟩, rest⟩
    · exact ⟨[], tokens, _, rfl, .inr ⟨rfl, rfl⟩, rest⟩

theorem map_iff {form : Form α} {change : α → β} {tokens : List Token} {value : β} :
    (change <$> form) tokens value ↔ ∃ inner, form tokens inner ∧ value = change inner := by
  constructor
  · rintro ⟨front, _, inner, rfl, written, rfl, rfl⟩
    exact ⟨inner, by rwa [List.append_nil], rfl⟩
  · rintro ⟨inner, written, rfl⟩
    exact ⟨tokens, [], inner, (List.append_nil _).symm, written, rfl, rfl⟩

/-! ### What a form begins with

A form may allow nothing at all to be written, as an option that is left out.  Then what comes first
is what follows, so the condition on the first token depends on the condition on the next one. -/

/-- Wherever a form is written in front of a suitable token, a suitable token comes first: the first
one of what is written, or the one behind if nothing is. -/
def Opens (form : Form α) (follow first : TokenKind → Prop) : Prop :=
  ∀ tokens value, form tokens value → ∀ rest : TokenStream, follow rest.front →
    first (rest.preceded tokens).front

variable {follow first : TokenKind → Prop}

theorem Opens.token_bind {kind : TokenKind} (second : String → Form β) (suits : first kind) :
    (token kind >>= second).Opens follow first := by
  intro tokens value written rest _
  obtain ⟨opening, back, rfl, isKind, -⟩ := token_bind_iff.mp written
  rw [front_preceded, isKind]
  exact suits

theorem kind_of_isWord {token : Token} {text : String} (isWord : token.isWord text = true) :
    token.kind = .identifier := (Token.isWord_iff.mp isWord).1

theorem Opens.word_bind {text : String} (second : Unit → Form β) (suits : first .identifier) :
    (word text >>= second).Opens follow first := by
  intro tokens value written rest _
  obtain ⟨opening, back, rfl, isWord, -⟩ := word_bind_iff.mp written
  rw [front_preceded, kind_of_isWord isWord]
  exact suits

theorem Opens.pure {value : α} (weaker : ∀ kind, follow kind → first kind) :
    (Pure.pure value : Form α).Opens follow first := by
  rintro _ _ ⟨rfl, rfl⟩ rest suits
  exact weaker _ suits

theorem Opens.pure_bind {value : α} {second : α → Form β}
    (opens : (second value).Opens follow first) :
    (Pure.pure value >>= second).Opens follow first := by
  rintro _ other ⟨_, back, _, rfl, ⟨rfl, rfl⟩, written⟩
  exact opens back other written

/-- What two forms begin with, one of two begins with.  It is what a sequence needs whose second
part is one of two. -/
theorem Opens.either {one other : Form α} (oneOpens : one.Opens follow first)
    (otherOpens : other.Opens follow first) : (either one other).Opens follow first := by
  rintro tokens value (written | written)
  · exact oneOpens tokens value written
  · exact otherOpens tokens value written

theorem Opens.optional_bind {kind : TokenKind} {second : Bool → Form β} (suits : first kind)
    (absent : (second false).Opens follow first) :
    (optional kind >>= second).Opens follow first := by
  intro tokens value written rest followed
  rcases optional_bind_iff.mp written with ⟨opening, back, rfl, isKind, -⟩ | written
  · rw [front_preceded, isKind]
    exact suits
  · exact absent tokens value written rest followed

theorem Opens.mono {form : Form α} {more : TokenKind → Prop} (opens : form.Opens follow first)
    (weaker : ∀ kind, first kind → more kind) : form.Opens follow more :=
  fun tokens value written rest followed => weaker _ (opens tokens value written rest followed)

end Form

/-- Whether a token of a kind ends whatever stands before it. -/
def TokenKind.closes : TokenKind → Bool
  | .comma | .closeParen | .closeBracket | .closeBrace | .greater | .semicolon | .endOfInput => true
  | _ => false

/-- A token may follow that ends what stands before it. -/
def closing (kind : TokenKind) : Prop := kind.closes = true

/-- The closing parenthesis follows. -/
def beforeParen (kind : TokenKind) : Prop := kind = .closeParen

namespace Parser

open TokenStream

variable {α β : Type} {n : Nat} {follow : TokenKind → Prop}

/-- A parser that reads a form: it takes nothing but what the form allows, and takes that up to a
number of tokens if a suitable token follows. -/
structure Reads (n : Nat) (follow : TokenKind → Prop) (parser : Parser α) (form : Form α) :
    Prop where
  sound : ∀ stream value rest, parser stream = .ok value rest →
    ∃ tokens, stream = rest.preceded tokens ∧ form tokens value
  complete : ∀ tokens value rest, tokens.length ≤ n → form tokens value → follow rest.front →
    parser (rest.preceded tokens) = .ok value rest

namespace Reads

/-! ### Sequences -/

theorem pure (value : α) : Reads n follow (Pure.pure value) (Pure.pure value) where
  sound stream other rest read := by
    cases read
    exact ⟨[], rfl, rfl, rfl⟩
  complete := by
    rintro _ _ rest - ⟨rfl, rfl⟩ -
    rfl

/-- A sequence is read if what the second parser reads begins with a token that may follow the
first.  Where the first takes a token, the second has one less to read. -/
theorem bindBehind {m : Nat} {between : TokenKind → Prop} {first : Parser α}
    {second : α → Parser β} {form : Form α} {further : α → Form β}
    (firstReads : Reads n between first form)
    (secondReads : ∀ value, Reads m follow (second value) (further value))
    (enough : ∀ front value, form front value → n ≤ m + front.length)
    (opens : ∀ value, (further value).Opens follow between) :
    Reads n follow (first >>= second) (form >>= further) where
  sound stream value rest read := by
    obtain ⟨inner, middle, firstRead, secondRead⟩ := bind_eq_ok.mp read
    obtain ⟨front, rfl, written⟩ := firstReads.sound _ _ _ firstRead
    obtain ⟨back, rfl, further⟩ := (secondReads inner).sound _ _ _ secondRead
    exact ⟨front ++ back, preceded_preceded .., front, back, inner, rfl, written, further⟩
  complete := by
    rintro _ value rest short ⟨front, back, inner, rfl, written, further⟩ followed
    have fewer := enough front inner written
    rw [List.length_append] at short
    have firstRead := firstReads.complete front inner (rest.preceded back) (by omega) written
      (opens inner back value further rest followed)
    rw [preceded_preceded] at firstRead
    rw [bind_of_ok firstRead]
    exact (secondReads inner).complete back value rest (by omega) further followed

/-- Two parts are read as a sequence if the first one ends where the second one can begin.
`between` is the kinds that may stand there, and it is chosen by whoever uses the law. -/
theorem bind {between : TokenKind → Prop} {first : Parser α} {second : α → Parser β}
    {form : Form α} {further : α → Form β} (firstReads : Reads n between first form)
    (secondReads : ∀ value, Reads n follow (second value) (further value))
    (opens : ∀ value, (further value).Opens follow between) :
    Reads n follow (first >>= second) (form >>= further) :=
  firstReads.bindBehind secondReads (fun _ _ _ => Nat.le_add_right n _) opens

/-- A value that is at hand, and what is read with it. -/
theorem pureBind {value : α} {second : α → Parser β} {further : α → Form β}
    (reads : Reads n follow (second value) (further value)) :
    Reads n follow (Pure.pure value >>= second) (Pure.pure value >>= further) where
  sound stream other rest read := by
    obtain ⟨tokens, preceded, written⟩ := reads.sound stream other rest read
    exact ⟨tokens, preceded, [], tokens, value, rfl, ⟨rfl, rfl⟩, written⟩
  complete := by
    rintro _ other rest short ⟨_, back, _, rfl, ⟨rfl, rfl⟩, written⟩ followed
    exact reads.complete back other rest short written followed

/-- A value that is read, and what is made of it. -/
theorem bindPure {parser : Parser α} {form : Form α} (reads : Reads n follow parser form)
    (change : α → β) :
    Reads n follow (parser >>= fun value => Pure.pure (change value))
      (form >>= fun value => Pure.pure (change value)) :=
  reads.bind (fun value => pure (change value)) fun _ => .pure fun _ suits => suits

theorem map {parser : Parser α} {form : Form α} (reads : Reads n follow parser form)
    (change : α → β) : Reads n follow (change <$> parser) (change <$> form) := by
  rw [map_eq_pure_bind]
  exact reads.bindPure change

/-- A parser that never succeeds reads a form that allows nothing. -/
theorem never {parser : Parser α} {form : Form α}
    (fails : ∀ stream value rest, parser stream ≠ .ok value rest)
    (nothing : ∀ tokens value, ¬ form tokens value) : Reads n follow parser form where
  sound stream value rest read := absurd read (fails stream value rest)
  complete tokens value _ _ written := absurd written (nothing tokens value)

/-- A parser that reads nothing and returns what there is to return. -/
theorem gives (value : α) :
    Reads n follow (Pure.pure value) fun tokens other => tokens = [] ∧ some value = some other where
  sound stream other rest read := by
    cases read
    exact ⟨[], rfl, rfl, rfl⟩
  complete := by
    rintro _ _ rest - ⟨rfl, same⟩ -
    cases same
    rfl

/-- A parser that never succeeds, because there is nothing to return. -/
theorem refuses {parser : Parser α} (fails : ∀ stream value rest, parser stream ≠ .ok value rest) :
    Reads n follow parser fun tokens value => tokens = [] ∧ none = some value :=
  never fails fun _ _ ⟨_, same⟩ => by cases same

theorem congr {parser : Parser α} {form other : Form α} (reads : Reads n follow parser form)
    (same : ∀ tokens value, form tokens value ↔ other tokens value) :
    Reads n follow parser other where
  sound stream value rest read := by
    obtain ⟨tokens, preceded, written⟩ := reads.sound stream value rest read
    exact ⟨tokens, preceded, (same tokens value).mp written⟩
  complete tokens value rest short written followed :=
    reads.complete tokens value rest short ((same tokens value).mpr written) followed

/-- Fewer tokens may follow. -/
theorem mono {parser : Parser α} {form : Form α} {fewer : TokenKind → Prop}
    (reads : Reads n follow parser form) (stronger : ∀ kind, fewer kind → follow kind) :
    Reads n fewer parser form where
  sound := reads.sound
  complete tokens value rest short written followed :=
    reads.complete tokens value rest short written (stronger _ followed)

/-! ### Tokens -/

/-- A token that has to be there.  It is the case of a sequence whose first part is a single token,
which ends by itself. -/
theorem bindExpectAs {kind : TokenKind} (what : String) {second : Token → Parser β}
    {further : String → Form β} (notEnd : kind ≠ .endOfInput)
    (secondReads : ∀ token : Token, token.kind = kind →
      Reads n follow (second token) (further token.value)) :
    Reads n follow (expectAs kind what >>= second) (Form.token kind >>= further) where
  sound stream value rest read := by
    obtain ⟨token, middle, firstRead, secondRead⟩ := bind_eq_ok.mp read
    obtain ⟨rfl, isKind⟩ := expectAs_eq_ok firstRead notEnd
    obtain ⟨back, rfl, written⟩ := (secondReads _ isKind).sound _ _ _ secondRead
    refine ⟨token :: back, ?_, Form.token_bind_iff.mpr ⟨token, back, rfl, isKind, written⟩⟩
    rw [preceded_preceded]
    rfl
  complete tokens value rest short written followed := by
    obtain ⟨token, back, rfl, isKind, written⟩ := Form.token_bind_iff.mp written
    rw [List.length_cons] at short
    rw [bind_of_ok (expectAs_of_kind rest isKind what back)]
    exact (secondReads token isKind).complete back value rest (by omega) written followed

/-- A token that has to be there and stands for its text. -/
theorem expectValue {kind : TokenKind} (what : String) (notEnd : kind ≠ .endOfInput) :
    Reads n follow ((·.value) <$> expectAs kind what) (Form.token kind) := by
  have text : Reads n follow (expectAs kind what >>= fun token => Pure.pure token.value)
      (Form.token kind >>= fun text => Pure.pure text) :=
    bindExpectAs what notEnd fun token _ => pure token.value
  rw [map_eq_pure_bind]
  refine text.congr fun tokens value => ?_
  constructor
  · rintro ⟨front, _, text, rfl, written, rfl, rfl⟩
    rwa [List.append_nil]
  · intro written
    exact ⟨tokens, [], value, (List.append_nil _).symm, written, rfl, rfl⟩

/-- A token that may be there.  What comes behind must not begin with the same kind, or it would be
taken for the optional token. -/
theorem bindEat {kind : TokenKind} {second : Option Token → Parser β} {further : Bool → Form β}
    (notEnd : kind ≠ .endOfInput)
    (thereReads : ∀ token, Reads n follow (second (some token)) (further true))
    (absentReads : Reads n follow (second none) (further false))
    (apart : (further false).Opens follow (· ≠ kind)) :
    Reads n follow (eat kind >>= second) (Form.optional kind >>= further) where
  sound stream value rest read := by
    obtain ⟨eaten, middle, firstRead, secondRead⟩ := bind_eq_ok.mp read
    rcases eat_eq_ok firstRead notEnd with ⟨token, rfl, rfl, isKind⟩ | ⟨rfl, rfl, -⟩
    · obtain ⟨back, rfl, written⟩ := (thereReads token).sound _ _ _ secondRead
      refine ⟨token :: back, ?_,
        Form.optional_bind_iff.mpr (.inl ⟨token, back, rfl, isKind, written⟩)⟩
      rw [preceded_preceded]
      rfl
    · obtain ⟨tokens, preceded, written⟩ := absentReads.sound _ _ _ secondRead
      exact ⟨tokens, preceded, Form.optional_bind_iff.mpr (.inr written)⟩
  complete tokens value rest short written followed := by
    rcases Form.optional_bind_iff.mp written with ⟨token, back, rfl, isKind, written⟩ | written
    · rw [List.length_cons] at short
      rw [bind_of_ok (eat_of_kind rest isKind back)]
      exact (thereReads token).complete back value rest (by omega) written followed
    · rw [bind_of_ok (eat_of_ne _ (apart tokens value written rest followed))]
      exact absentReads.complete tokens value rest short written followed

/-! ### Looking at the first token

A parser that looks at the first token without taking it reads the form for each token separately.
`At` is the property for one first token; a choice is then read by cases on that token, with the
alternatives compared under its name and not under a condition. -/

/-- A parser that reads a form where a given token comes first. -/
structure At (first : Token) (n : Nat) (follow : TokenKind → Prop) (parser : Parser α)
    (form : Form α) : Prop where
  sound : ∀ stream value rest, stream.lookahead 0 = first → parser stream = .ok value rest →
    ∃ tokens, stream = rest.preceded tokens ∧ form tokens value
  complete : ∀ back value rest, back.length < n → form (first :: back) value →
    follow rest.front → parser (rest.preceded (first :: back)) = .ok value rest

/-- A parser that decides by the first token. -/
theorem peek {second : Token → Parser α} {form : Form α}
    (reads : ∀ first, At first n follow (second first) form) (notNil : ∀ value, ¬ form [] value) :
    Reads n follow (Parser.peek >>= second) form where
  sound stream value rest read := (reads _).sound stream value rest rfl read
  complete tokens value rest short written followed := by
    cases tokens with
    | nil => exact absurd written (notNil value)
    | cons first back => exact (reads first).complete back value rest short written followed

/-- The first token is taken, and the rest is read. -/
theorem At.next {m : Nat} {first : Token} {second : Token → Parser α} {form : Form α}
    (notEnd : first.kind ≠ .endOfInput) (reads : Reads m follow (second first) (form.after first))
    (enough : n ≤ m + 1) : At first n follow (Parser.next >>= second) form where
  sound stream value rest isFirst read := by
    subst isFirst
    rw [bind_of_ok (next_apply _)] at read
    obtain ⟨back, advanced, written⟩ := reads.sound _ _ _ read
    refine ⟨_ :: back, ?_, written⟩
    rw [eq_preceded_of_front rfl notEnd, advanced, preceded_preceded]
    rfl
  complete back value rest short written followed := by
    rw [bind_of_ok (next_apply _)]
    exact reads.complete back value rest (by omega) written followed

/-- The first token decides among several forms. -/
theorem At.of_reads {first : Token} {parser : Parser α} {form other : Form α}
    (reads : Reads n follow parser other)
    (allowed : ∀ tokens value, (∀ token ∈ tokens.head?, token = first) → other tokens value →
      form tokens value)
    (decided : ∀ back value, form (first :: back) value → other (first :: back) value) :
    At first n follow parser form where
  sound stream value rest isFirst read := by
    obtain ⟨tokens, rfl, written⟩ := reads.sound stream value rest read
    refine ⟨tokens, rfl, allowed tokens value (fun token head => ?_) written⟩
    obtain ⟨back, rfl⟩ := List.head?_eq_some_iff.mp head
    exact isFirst
  complete back value rest short written followed :=
    reads.complete _ value rest short (decided back value written) followed

/-- A parser that reads a form whatever comes first. -/
theorem of_at {parser : Parser α} {form : Form α}
    (reads : ∀ first, At first n follow parser form) (notNil : ∀ value, ¬ form [] value) :
    Reads n follow parser form where
  sound stream value rest read := (reads _).sound stream value rest rfl read
  complete tokens value rest short written followed := by
    cases tokens with
    | nil => exact absurd written (notNil value)
    | cons first back => exact (reads first).complete back value rest short written followed

/-- A word that makes the choice together with the token behind it.  The word by itself may be the
beginning of the other form. -/
theorem At.beforeWord {first : Token} {text : String} {kind : TokenKind} {yes no : Parser α}
    {yesForm noForm : Form α} (notEnd : kind ≠ .endOfInput) (yesReads : Reads n follow yes yesForm)
    (noReads : At first n follow no noForm)
    (apart : ∀ back value, noForm (first :: back) value → ∀ rest : TokenStream, follow rest.front →
      first.isWord text = true → ((rest.preceded (first :: back)).lookahead 1).kind ≠ kind) :
    At first n follow
      (do if ← atWordBefore text kind then
            let _ ← Parser.next
            let _ ← Parser.next
            yes
          else no)
      (Form.either (do Form.word text; let _ ← Form.token kind; yesForm) noForm) where
  sound stream value rest isFirst read := by
    rw [bind_of_ok (atWordBefore_apply stream text kind)] at read
    split at read
    next there =>
      rw [Bool.and_eq_true, beq_iff_eq] at there
      obtain ⟨isWord, isKind⟩ := there
      rw [bind_of_ok (next_apply _), bind_of_ok (next_apply _)] at read
      obtain ⟨back, advanced, written⟩ := yesReads.sound _ _ _ read
      -- both tokens are looked at before either of them is taken
      have opening := eq_preceded_of_front (show stream.front = .identifier from
        Form.kind_of_isWord isWord) (by decide)
      have behind : stream.lookahead 1 = stream.advance.lookahead 0 := by
        rw [opening]
        exact lookahead_one_preceded_singleton ..
      have second := eq_preceded_of_front (show stream.advance.front = kind from
        (congrArg Token.kind behind).symm.trans isKind) notEnd
      refine ⟨stream.lookahead 0 :: stream.advance.lookahead 0 :: back, ?_, .inl ?_⟩
      · rw [opening, second, advanced, preceded_preceded, preceded_preceded]
        rfl
      · refine Form.word_bind_iff.mpr ⟨_, _, rfl, isWord, ?_⟩
        exact Form.token_bind_iff.mpr ⟨_, _, rfl, behind ▸ isKind, written⟩
    next =>
      obtain ⟨tokens, preceded, written⟩ := noReads.sound _ _ _ isFirst read
      exact ⟨tokens, preceded, .inr written⟩
  complete back value rest short written followed := by
    rw [bind_of_ok (atWordBefore_apply _ text kind), lookahead_zero_preceded]
    rcases written with written | written
    · obtain ⟨isWord, written⟩ := Form.cons_word_bind_iff.mp written
      obtain ⟨second, back, rfl, isKind, written⟩ := Form.token_bind_iff.mp written
      rw [lookahead_one_preceded, isWord, isKind, beq_self_eq_true, Bool.and_self, if_pos rfl,
        bind_of_ok (next_apply _), bind_of_ok (next_apply _)]
      rw [List.length_cons] at short
      exact yesReads.complete back value rest (by omega) written followed
    · have other := apart back value written rest followed
      rw [if_neg]
      · exact noReads.complete back value rest short written followed
      · rw [Bool.and_eq_true, beq_iff_eq]
        exact fun there => other there.1 there.2

/-- A word that makes the choice between two forms.  Which form it is can be told from two tokens,
so the choice need not be taken back. -/
theorem beforeWord {text : String} {kind : TokenKind} {yes no : Parser α} {yesForm noForm : Form α}
    (notEnd : kind ≠ .endOfInput) (yesReads : Reads n follow yes yesForm)
    (noReads : Reads n follow no noForm) (notNil : ∀ value, ¬ noForm [] value)
    (apart : ∀ tokens value, noForm tokens value → ∀ rest : TokenStream, follow rest.front →
      ((rest.preceded tokens).lookahead 0).isWord text = true →
        ((rest.preceded tokens).lookahead 1).kind ≠ kind) :
    Reads n follow
      (do if ← atWordBefore text kind then
            let _ ← Parser.next
            let _ ← Parser.next
            yes
          else no)
      (Form.either (do Form.word text; let _ ← Form.token kind; yesForm) noForm) := by
  refine of_at (fun first => ?_) fun value written => ?_
  · exact .beforeWord notEnd yesReads (.of_reads noReads (fun _ _ _ written => written)
      fun _ _ written => written) fun back => apart (first :: back)
  · rcases written with written | written
    · exact Form.not_word_bind_nil written
    · exact notNil value written

/-- A form that allows the same where that token comes first. -/
theorem At.congr {first : Token} {parser : Parser α} {form other : Form α}
    (reads : At first n follow parser form)
    (allowed : ∀ tokens value, form tokens value → other tokens value)
    (decided : ∀ back value, other (first :: back) value → form (first :: back) value) :
    At first n follow parser other where
  sound stream value rest isFirst read := by
    obtain ⟨tokens, preceded, written⟩ := reads.sound stream value rest isFirst read
    exact ⟨tokens, preceded, allowed tokens value written⟩
  complete back value rest short written :=
    reads.complete back value rest short (decided back value written)

/-- The first token is refused. -/
theorem At.refuse {first : Token} {parser : Parser α} {form : Form α}
    (fails : ∀ stream value rest, parser stream ≠ .ok value rest)
    (never : ∀ back value, ¬ form (first :: back) value) : At first n follow parser form where
  sound stream value rest _ read := absurd read (fails stream value rest)
  complete back value _ _ written := absurd written (never back value)

theorem failAt_ne_ok (token : Token) (cause : Cause) (stream : TokenStream) (value : α)
    (rest : TokenStream) :
    (failAt token cause : Parser α) stream ≠ .ok value rest := fun read => by cases read

theorem failExpected_ne_ok (what : String) (stream : TokenStream) (value : α) (rest : TokenStream) :
    (failExpected what : Parser α) stream ≠ .ok value rest := fun read => by cases read

/-- A parser that is given a budget of as many tokens as are left. -/
theorem remaining {parser : Nat → Parser α} {form : Form α}
    (reads : ∀ budget, Reads budget follow (parser budget) form) :
    Reads n follow (Parser.remaining >>= parser) form where
  sound stream value rest read := (reads _).sound stream value rest read
  complete tokens value rest _ written followed := by
    rw [bind_of_ok (remaining_apply _)]
    refine (reads _).complete tokens value rest ?_ written followed
    rw [length_tokens_preceded]
    omega

end Reads

end Parser

end OpenResponse
