import OpenResponse.Proofs.Outcome
import OpenResponse.Proofs.Token.Layout
import OpenResponse.Proofs.Token.Lists

/-!
# Writing in symbols

A value is written as a list of symbols.  Where the grammar leaves a choice, as with the comma
behind the last item of a list, a style makes it, and it may make it in another way at every place.
What is written in symbols is related to the forms that are read: a form is written with some
symbols for a value if it allows every list of tokens with these symbols, wherever they stand.

This separates three questions.  How symbols are laid out in a text is a matter of layouts; whether
a list of tokens is accepted for a value is a matter of forms; and how a value is written is only a
function into symbols.  `Form.Writes` is where they meet, and it is proved along the form, with one
rule for each way to put forms together.

## Main definitions

* `Style` — the choices of a writer
* `punctuate` — items with commas between them
* `Form.Writes` — the symbols that are written for a value

## Main statements

* `Form.Writes.bind`, `Form.Writes.list`, `Form.Writes.keys` — sequences, lists and keys

## Design notes

A style answers one question with yes or no at each place, where a place is the path of numbers that
leads to a part of what is written.  So any two places can be styled independently, and a theorem
for all styles covers all mixtures of them.  What the answer means, a comma behind the last item or
a value in one of two spellings, is up to the writer at that place.

The symbols for a value have to be spellable, which excludes names that are no names and punctuation
that is none.  This is part of `Form.Writes` and is discharged by the rules for single tokens.
-/

namespace OpenResponse

/-! ### Names and marks -/

/-- Whether a text is a name. -/
def isName (text : String) : Bool :=
  match text.toList with
  | [] => false
  | c :: rest => beginsName c && rest.all continuesName

namespace Symbol

/-- A symbol that can be spelled. -/
def Spelled (symbol : Symbol) : Prop := ∃ text, Spells text symbol

/-- A word. -/
def word (text : String) : Symbol := ⟨.identifier, text⟩

/-- A string literal. -/
def text (value : String) : Symbol := ⟨.string, value⟩

/-- A punctuation mark. -/
def mark (c : Char) : Symbol := ⟨(TokenKind.ofMark? c).getD .endOfInput, c.toString⟩

theorem spells_word {text : String} (name : isName text = true) :
    Spells text.toList (word text) := by
  rw [isName] at name
  split at name
  next => cases name
  next c rest whole =>
    rw [Bool.and_eq_true, List.all_eq_true] at name
    have spells : Spells (c :: rest) ⟨.identifier, String.ofList (c :: rest)⟩ :=
      .name name.1 name.2
    rwa [← whole, String.ofList_toList] at spells

theorem spells_mark {c : Char} {kind : TokenKind} (isMark : TokenKind.ofMark? c = some kind) :
    Spells [c] (mark c) := by
  rw [mark, isMark]
  exact .mark isMark

theorem spelled_word {text : String} (name : isName text = true) : (word text).Spelled :=
  ⟨text.toList, spells_word name⟩

theorem spelled_text (value : String) : (text value).Spelled := by
  have spelled := Spells.string value.toList
  rw [String.ofList_toList] at spelled
  exact ⟨_, spelled⟩

theorem spelled_mark {c : Char} {kind : TokenKind} (isMark : TokenKind.ofMark? c = some kind) :
    (mark c).Spelled :=
  ⟨[c], spells_mark isMark⟩

end Symbol

/-! ### Styles -/

/-- The choices of a writer, for every place in what is written.  A place is a path of numbers, so
each part has a style of its own: what the style says of the paths that begin with its number. -/
abbrev Style := List Nat → Bool

namespace Style

/-- The choice at the place itself. -/
def here (style : Style) : Bool := style []

/-- The choices in a part of what is written there. -/
def part (style : Style) (number : Nat) : Style := fun place => style (number :: place)

end Style

/-- Items with commas between them, and perhaps one behind the last.  Whether there is one behind
the last is a choice of the style, and of no consequence for what is read. -/
def punctuate (trailing : Bool) : List (List Symbol) → List Symbol
  | [] => []
  | [item] => item ++ if trailing then [.mark ','] else []
  | item :: more => item ++ .mark ',' :: punctuate trailing more

/-- Items and commas are all that is written. -/
theorem mem_punctuate {trailing : Bool} {items : List (List Symbol)} {symbol : Symbol}
    (listed : symbol ∈ punctuate trailing items) :
    symbol = .mark ',' ∨ ∃ item ∈ items, symbol ∈ item := by
  induction items with
  | nil => cases listed
  | cons item more ih =>
    cases more with
    | nil =>
      rcases List.mem_append.mp listed with inItem | isComma
      · exact .inr ⟨item, List.mem_cons_self, inItem⟩
      · cases trailing with
        | true => exact .inl (List.mem_singleton.mp isComma)
        | false => cases isComma
    | cons second more =>
      rcases List.mem_append.mp listed with inItem | later
      · exact .inr ⟨item, List.mem_cons_self, inItem⟩
      · rcases List.mem_cons.mp later with isComma | inMore
        · exact .inl isComma
        · rcases ih inMore with isComma | ⟨other, isItem, inside⟩
          · exact .inl isComma
          · exact .inr ⟨other, List.mem_cons_of_mem _ isItem, inside⟩

/-- Tokens with the symbols of items with commas between them are a list of such items. -/
theorem CommaList.of_punctuate {α : Type} {item : List Token → α → Prop}
    {items : List (List Symbol)} {values : List α}
    (each : List.Forall₂ (fun symbols value =>
      ∀ tokens, tokens.map Token.symbol = symbols → item tokens value) items values)
    (trailing : Bool) (tokens : List Token)
    (same : tokens.map Token.symbol = punctuate trailing items) : CommaList item tokens values := by
  induction each generalizing tokens with
  | nil =>
    rw [List.map_eq_nil_iff.mp same]
    exact .nil
  | @cons symbols value items values first others ih =>
    cases others with
    | nil =>
      obtain ⟨front, more, rfl, frontSame, moreSame⟩ := List.map_eq_append_iff.mp same
      cases trailing with
      | true =>
        obtain ⟨token, rfl, isSymbol⟩ := List.map_eq_singleton_iff.mp moreSame
        exact .cons (first _ frontSame) (congrArg Symbol.kind isSymbol) .nil
      | false =>
        rw [List.map_eq_nil_iff.mp moreSame, List.append_nil]
        exact .last (first _ frontSame)
    | cons second others =>
      obtain ⟨front, more, rfl, frontSame, moreSame⟩ := List.map_eq_append_iff.mp same
      obtain ⟨token, rest, rfl, isSymbol, restSame⟩ := List.map_eq_cons_iff.mp moreSame
      exact .cons (first _ frontSame) (congrArg Symbol.kind isSymbol) (ih rest restSame)

/-- Each of several values, in a style of its own. -/
def writeEach {α : Type} (write : Style → α → List Symbol) : Style → List α → List (List Symbol)
  | _, [] => []
  | style, value :: rest => write (style.part 0) value :: writeEach write (style.part 1) rest

/-- What is written for each of several values is related to it. -/
theorem forall₂_writeEach {α : Type} {R : List Symbol → α → Prop} {write : Style → α → List Symbol}
    {values : List α} (related : ∀ value ∈ values, ∀ style, R (write style value) value)
    (style : Style) : List.Forall₂ R (writeEach write style values) values := by
  induction values generalizing style with
  | nil => exact .nil
  | cons value rest ih =>
    refine .cons (related value List.mem_cons_self _) (ih (fun other listed => ?_) _)
    exact related other (List.mem_cons_of_mem _ listed)

/-! ### What is written for a value -/

/-- The symbols that are written for a value can be spelled, and the form allows all tokens with
these symbols for it. -/
structure Form.Writes {α : Type} (form : Form α) (symbols : List Symbol) (value : α) : Prop where
  spelled : ∀ symbol ∈ symbols, symbol.Spelled
  allowed : ∀ tokens, tokens.map Token.symbol = symbols → form tokens value

/-- A key with its value. -/
def entryItem {ε : Type} (table : List (String × Form ε)) : Form ε := do
  let key ← Form.token .identifier
  keyForm table key

/-- Keys and values with commas between them are a list of keys. -/
theorem KeyList.of_commaList {ε : Type} {value : String → Form ε} {tokens : List Token}
    {settings : List ε} (list : CommaList (Form.token .identifier >>= value) tokens settings) :
    ∃ placed, placed.map Prod.snd = settings ∧ KeyList value tokens placed := by
  induction list with
  | nil => exact ⟨[], rfl, .nil⟩
  | @last tokens setting written =>
    obtain ⟨key, back, rfl, isKey, written⟩ := Form.token_bind_iff.mp written
    exact ⟨[(key.location, setting)], rfl, .last isKey written⟩
  | @cons tokens more comma setting settings written isComma others ih =>
    obtain ⟨key, back, rfl, isKey, written⟩ := Form.token_bind_iff.mp written
    obtain ⟨placed, same, list⟩ := ih
    exact ⟨(key.location, setting) :: placed, by rw [List.map_cons, same],
      .cons isKey written isComma list⟩

namespace Form.Writes

variable {α β ε σ : Type} {form other : Form α} {second : α → Form β} {value inner : α} {result : β}
  {symbols front back : List Symbol}

theorem pure (value : α) : (Pure.pure value : Form α).Writes [] value where
  spelled _ listed := by cases listed
  allowed tokens same := ⟨List.map_eq_nil_iff.mp same, rfl⟩

/-- A sequence is written by its parts, one behind the other. -/
theorem bind (first : form.Writes front inner) (rest : (second inner).Writes back result) :
    (form >>= second).Writes (front ++ back) result where
  spelled symbol listed := (List.mem_append.mp listed).elim (first.spelled symbol)
    (rest.spelled symbol)
  allowed tokens same := by
    obtain ⟨frontTokens, backTokens, rfl, frontSame, backSame⟩ := List.map_eq_append_iff.mp same
    exact ⟨frontTokens, backTokens, inner, rfl, first.allowed _ frontSame, rest.allowed _ backSame⟩

theorem map (written : form.Writes symbols value) (change : α → β) :
    (change <$> form).Writes symbols (change value) where
  spelled := written.spelled
  allowed tokens same := Form.map_iff.mpr ⟨value, written.allowed tokens same, rfl⟩

/-- A value that is written, and what is made of it. -/
theorem bindPure (written : form.Writes symbols value) (change : α → β) :
    (form >>= fun value => Pure.pure (change value)).Writes symbols (change value) := by
  rw [← List.append_nil symbols]
  exact written.bind (pure _)

/-- A form that allows as much. -/
theorem mono (written : form.Writes symbols value)
    (weaker : ∀ tokens value, form tokens value → other tokens value) :
    other.Writes symbols value where
  spelled := written.spelled
  allowed tokens same := weaker tokens value (written.allowed tokens same)

theorem left (written : form.Writes symbols value) :
    (Form.either form other).Writes symbols value where
  spelled := written.spelled
  allowed tokens same := .inl (written.allowed tokens same)

theorem right (written : other.Writes symbols value) :
    (Form.either form other).Writes symbols value where
  spelled := written.spelled
  allowed tokens same := .inr (written.allowed tokens same)

/-! ### Tokens -/

theorem token {kind : TokenKind} {text : String} (spelled : Symbol.Spelled ⟨kind, text⟩) :
    (Form.token kind).Writes [⟨kind, text⟩] text where
  spelled symbol listed := by
    rw [List.mem_singleton.mp listed]
    exact spelled
  allowed tokens same := by
    obtain ⟨token, rfl, isSymbol⟩ := List.map_eq_singleton_iff.mp same
    cases isSymbol
    exact ⟨token, rfl, rfl, rfl⟩

theorem tokenBind {kind : TokenKind} {text : String} {further : String → Form β}
    (spelled : Symbol.Spelled ⟨kind, text⟩) (rest : (further text).Writes back result) :
    (Form.token kind >>= further).Writes (⟨kind, text⟩ :: back) result :=
  (token spelled).bind rest

/-- A string literal. -/
theorem textBind {text : String} {further : String → Form β}
    (rest : (further text).Writes back result) :
    (Form.token .string >>= further).Writes (.text text :: back) result :=
  tokenBind (Symbol.spelled_text text) rest

/-- A punctuation mark. -/
theorem markBind {c : Char} {kind : TokenKind} {further : String → Form β}
    (isMark : TokenKind.ofMark? c = some kind) (rest : (further c.toString).Writes back result) :
    (Form.token kind >>= further).Writes (.mark c :: back) result := by
  have spelled := Symbol.spelled_mark isMark
  rw [Symbol.mark, isMark] at spelled ⊢
  exact tokenBind spelled rest

theorem wordBind {text : String} {further : Unit → Form β} (name : isName text = true)
    (rest : (further ()).Writes back result) :
    (Form.word text >>= further).Writes (.word text :: back) result where
  spelled symbol listed := by
    rcases List.mem_cons.mp listed with rfl | later
    · exact Symbol.spelled_word name
    · exact rest.spelled symbol later
  allowed tokens same := by
    obtain ⟨first, others, rfl, isSymbol, sameRest⟩ := List.map_eq_cons_iff.mp same
    refine Form.cons_word_bind_iff.mpr ⟨?_, rest.allowed others sameRest⟩
    exact Token.isWord_iff.mpr ⟨congrArg Symbol.kind isSymbol, congrArg Symbol.value isSymbol⟩

/-- A symbol that may be left out. -/
theorem optionalBind {symbol : Symbol} {kind : TokenKind} {further : Bool → Form β}
    (spelled : symbol.Spelled) (isKind : symbol.kind = kind) (there : Bool)
    (rest : (further there).Writes back result) :
    (Form.optional kind >>= further).Writes ((if there then [symbol] else []) ++ back) result := by
  refine bind ?_ rest
  constructor
  · intro other listed
    cases there with
    | true =>
      rw [List.mem_singleton.mp listed]
      exact spelled
    | false => cases listed
  · intro tokens same
    cases there with
    | true =>
      obtain ⟨token, rfl, isSymbol⟩ := List.map_eq_singleton_iff.mp same
      exact .inl ⟨token, rfl, (congrArg Symbol.kind isSymbol).trans isKind, rfl⟩
    | false => exact .inr ⟨List.map_eq_nil_iff.mp same, rfl⟩

/-! ### Lists -/

/-- Items with commas between them are written item by item. -/
theorem commaList {items : List (List Symbol)} {values : List α}
    (written : List.Forall₂ form.Writes items values) (trailing : Bool) :
    Form.Writes (CommaList form) (punctuate trailing items) values where
  spelled symbol listed := by
    rcases mem_punctuate listed with rfl | ⟨item, isItem, inside⟩
    · exact Symbol.spelled_mark rfl
    · obtain ⟨value, -, writes⟩ := (mem_of_forall₂ written).1 item isItem
      exact writes.spelled symbol inside
  allowed := CommaList.of_punctuate (written.imp fun _ _ writes => writes.allowed) trailing

/-- A list is closed by its mark.  The items are written each in its own style, in front of it. -/
theorem list {items : List (List Symbol)} {values : List α} {c : Char} {close : TokenKind}
    (isMark : TokenKind.ofMark? c = some close)
    (written : List.Forall₂ form.Writes items values) (trailing : Bool) :
    (listForm close form).Writes (punctuate trailing items ++ [.mark c]) values := by
  have inner := commaList written trailing
  refine ⟨fun symbol listed => ?_, fun tokens same => ?_⟩
  · rcases List.mem_append.mp listed with inItems | isClose
    · exact inner.spelled symbol inItems
    · rw [List.mem_singleton.mp isClose]
      exact Symbol.spelled_mark isMark
  · obtain ⟨innerTokens, closing, rfl, innerSame, closeSame⟩ := List.map_eq_append_iff.mp same
    obtain ⟨token, rfl, isSymbol⟩ := List.map_eq_singleton_iff.mp closeSame
    have isKind := congrArg Symbol.kind isSymbol
    rw [Symbol.mark, isMark] at isKind
    exact ⟨innerTokens, token, rfl, isKind, inner.allowed _ innerSame⟩

/-- A group stands between parentheses. -/
theorem group {items : List (List Symbol)} {values : List α}
    (written : List.Forall₂ form.Writes items values) (trailing : Bool) :
    (groupForm form).Writes (.mark '(' :: (punctuate trailing items ++ [.mark ')'])) values :=
  markBind rfl (list rfl written trailing)

/-! ### Keys -/

variable {table : List (String × Form ε)} {apply : Location → ε → σ → Option σ}

/-- A key is written with what stands behind it. -/
theorem entry {key : String} {form : Form ε} {setting : ε} (name : isName key = true)
    (listed : table.lookup key = some form) (written : form.Writes symbols setting) :
    (entryItem table).Writes (.word key :: symbols) setting :=
  tokenBind (Symbol.spelled_word name)
    ⟨written.spelled, fun tokens same => ⟨form, listed, written.allowed tokens same⟩⟩

/-- A list of keys is written entry by entry, and does what its settings do one after the other. -/
theorem keys {entries : List (List Symbol)} {settings : List ε} {state later : σ}
    (written : List.Forall₂ (entryItem table).Writes entries settings)
    (applied : ∀ placed, placed.map Prod.snd = settings → applyAll apply placed state = some later)
    (trailing : Bool) : (keysForm table apply state).Writes (punctuate trailing entries) later where
  spelled := (commaList written trailing).spelled
  allowed tokens same := by
    obtain ⟨placed, listed, list⟩ :=
      KeyList.of_commaList ((commaList written trailing).allowed _ same)
    exact ⟨placed, list, applied placed listed⟩

end Form.Writes

/-! ### Scanning what is written

What is written for a value can be laid out in front of any tail, so forms are scanned as texts are:
a sequence is scanned part by part, and only a name has to know what follows it. -/

/-- A punctuation mark is laid out in front of whatever follows. -/
theorem LaidBefore.mark {c : Char} {kind : TokenKind} {tail text : List Char}
    {symbols : List Symbol} (isMark : TokenKind.ofMark? c = some kind)
    (laid : LaidBefore tail symbols text) : LaidBefore tail (.mark c :: symbols) (c :: text) := by
  have ends : (Symbol.mark c).EndsBefore text := fun b _ => by
    rw [Symbol.mark, isMark]
    exact endsBefore_of_ofMark? isMark b
  exact .cons .nil (Symbol.spells_mark isMark) ends laid

/-- What is written for a value is scanned wherever it is laid out. -/
theorem Form.Writes.scansTo {α : Type} {form : Form α} {symbols : List Symbol} {value : α}
    {tail text : List Char} (written : form.Writes symbols value)
    (laid : LaidBefore tail symbols text) : ScansTo tail text (form · value) :=
  laid.scansTo.mono fun tokens same => written.allowed tokens same

namespace ScansTo

variable {α β : Type} {tail middle text : List Char}

/-- A sequence of two forms is scanned one behind the other. -/
theorem bind {first : Form α} {second : α → Form β} {inner : α} {value : β}
    (front : ScansTo middle text (first · inner))
    (back : ScansTo tail middle (second inner · value)) :
    ScansTo tail text ((first >>= second) · value) :=
  front.append back fun tokens more written others => ⟨tokens, more, inner, rfl, written, others⟩

/-- A punctuation mark is scanned whatever follows. -/
theorem mark {c : Char} {kind : TokenKind} (isMark : TokenKind.ofMark? c = some kind)
    (tail : List Char) : ScansTo tail (c :: tail) (Form.token kind · c.toString) := by
  have spells := Symbol.spells_mark isMark
  rw [Symbol.mark, isMark] at spells
  refine (Form.Writes.token ⟨[c], spells⟩).scansTo ?_
  exact .cons Gap.nil spells (fun b _ => endsBefore_of_ofMark? isMark b) (.nil .nil)

/-- A name is scanned in front of what does not continue it. -/
theorem name {text : String} (isName : isName text = true)
    (ends : ∀ b ∈ tail.head?, endsBefore .identifier b = true) :
    ScansTo tail (text.toList ++ tail) (Form.token .identifier · text) := by
  have spells := Symbol.spells_word isName
  exact (Form.Writes.token ⟨_, spells⟩).scansTo (.cons Gap.nil spells ends (.nil .nil))

theorem word {text : String} (isName : OpenResponse.isName text = true)
    (ends : ∀ b ∈ tail.head?, endsBefore .identifier b = true) :
    ScansTo tail (text.toList ++ tail) (Form.word text · ()) := by
  refine (name isName ends).mono ?_
  rintro _ ⟨token, rfl, isIdentifier, isText⟩
  exact ⟨token, rfl, Token.isWord_iff.mpr ⟨isIdentifier, isText⟩⟩

theorem pure (value : α) (tail : List Char) :
    ScansTo tail tail ((Pure.pure value : Form α) · value) := by
  intro here
  refine ⟨[], here, ⟨rfl, rfl⟩, ?_⟩
  cases scan here tail <;> rfl

end ScansTo

end OpenResponse
