import OpenResponse.Proofs.Token.Escapes
import OpenResponse.Proofs.Token.Numbers

/-!
# Laying out tokens

A list of tokens can be written down in many ways: blanks and comments may stand in front of each of
them, and only where two of them would run together they have to be kept apart.  However it is done,
scanning the text gives the tokens back.

Strings are written between quotes.  It is enough to escape the backslash and the quote; everything
else, line feeds included, stands for itself.

A symbol that is spelled is read back by a single step if what follows it does not continue it.  So
the one condition on a layout is `Symbol.EndsBefore`, which is about a kind of symbol and the next
character: a name must not run into another name, nor into a quote or a hash mark, because with
those the letter `r` begins something else; a numeral must not run into a point.  Everything else
ends by itself.  Gaps are passed over whatever stands behind them.

## Main definitions

* `Symbol` — what a token is, wherever it stands
* `Spells` — the texts of symbols
* `Gap` — blanks and comments
* `LaidBefore`, `Laid` — the texts of lists of symbols, in front of another text and alone
* `ScansTo` — texts that are scanned up to their tail

## Main statements

* `scan_laid` — **scanning a text that is laid out**
* `ScansTo.append` — scanning one text behind the other
* `laid_spaced` — whatever can be spelled can be laid out

## Design notes

`Spells` does not list all texts that are scanned as a token, only one for each symbol, which is
enough to write things down.  Other spellings, raw names and raw literals, escapes and numbers in
other bases, are read by laws of their own.

`ScansTo` forgets how a text is laid out and remembers the sort of tokens that it makes in front of
its tail.  It is what texts that are put together from parts of different origin are read with, and
it quantifies over all places where a text may begin, so that parts can be put anywhere.
-/

namespace OpenResponse

/-! ### Symbols -/

/-- What a token is, wherever it stands.  A symbol is a token without its location, and that is all
that a text has to spell. -/
structure Symbol where
  /-- Its kind. -/
  kind : TokenKind
  /-- Its text or value. -/
  value : String
deriving DecidableEq

/-- What a token is, without its place. -/
def Token.symbol (token : Token) : Symbol := ⟨token.kind, token.value⟩

/-- A character of a string literal.  The backslash and the quote are escaped. -/
def literalChar (c : Char) : List Char := if c = '\\' ∨ c = '"' then ['\\', c] else [c]

/-- What stands behind the opening quote of a string literal. -/
def literalTail (value : List Char) : List Char := value.flatMap literalChar ++ ['"']

/-- The texts of symbols.  Not every text of a symbol is among them: a string is spelled with as few
escapes as possible, and a number by its decimal digits alone. -/
inductive Spells : List Char → Symbol → Prop
  | name {c : Char} {rest : List Char} (begins : beginsName c = true)
      (continues : ∀ d ∈ rest, continuesName d = true) :
      Spells (c :: rest) ⟨.identifier, String.ofList (c :: rest)⟩
  | string (value : List Char) : Spells ('"' :: literalTail value) ⟨.string, String.ofList value⟩
  | numeral {c : Char} {rest : List Char} (digits : ∀ d ∈ c :: rest, d ∈ asciiDigits) :
      Spells (c :: rest) ⟨.integer, String.ofList (c :: rest)⟩
  | colon : Spells [':'] ⟨.colon, ":"⟩
  | separator : Spells [':', ':'] ⟨.pathSeparator, "::"⟩
  | mark {c : Char} {kind : TokenKind} (isMark : TokenKind.ofMark? c = some kind) :
      Spells [c] ⟨kind, c.toString⟩

/-- The text of a symbol.  A string literal is quoted. -/
def Symbol.spelling (symbol : Symbol) : List Char :=
  if symbol.kind = .string then '"' :: literalTail symbol.value.toList else symbol.value.toList

/-- A symbol has one text. -/
theorem Spells.eq_spelling {text : List Char} {symbol : Symbol} (spelled : Spells text symbol) :
    text = symbol.spelling := by
  cases spelled with
  | name begins continues =>
    rw [Symbol.spelling, if_neg (fun same => (by cases same)), String.toList_ofList]
  | string value => rw [Symbol.spelling, if_pos rfl, String.toList_ofList]
  | numeral digits =>
    rw [Symbol.spelling, if_neg (fun same => (by cases same)), String.toList_ofList]
  | colon => decide
  | separator => decide
  | @mark c kind isMark =>
    rw [Symbol.spelling, if_neg (ne_of_ofMark? isMark _ (by decide))]
    exact (String.toList_singleton c).symm

/-- Whether a symbol of a kind ends in front of a character. -/
def endsBefore : TokenKind → Char → Bool
  | .identifier, b => !continuesName b && b != '"' && b != '#'
  | .integer, b => !continuesName b && !isDigit b && b != '.'
  | .colon, b => b != ':'
  | _, _ => true

/-- A punctuation mark ends in front of any character. -/
theorem endsBefore_of_ofMark? {c : Char} {kind : TokenKind}
    (isMark : TokenKind.ofMark? c = some kind) (b : Char) : endsBefore kind b = true := by
  unfold TokenKind.ofMark? at isMark
  split at isMark <;> cases isMark <;> rfl

/-- A symbol ends in front of a text. -/
def Symbol.EndsBefore (symbol : Symbol) (text : List Char) : Prop :=
  ∀ b ∈ text.head?, endsBefore symbol.kind b = true

/-! ### One symbol -/

section Symbols

variable {here : Location} {back : List Char}

/-- A character of a string literal is written as a piece that denotes it. -/
theorem exists_piece_literalChar (c : Char) :
    ∃ piece : LiteralPiece, piece.text = literalChar c ∧ piece.denoted = [c] := by
  by_cases escaped : c = '\\' ∨ c = '"'
  · rcases escaped with rfl | rfl
    · exact ⟨.simple '\\' '\\' (by decide), rfl, rfl⟩
    · exact ⟨.simple '"' '"' (by decide), rfl, rfl⟩
  · rw [literalChar, if_neg escaped]
    rw [not_or] at escaped
    exact ⟨.plain c escaped.2 escaped.1, rfl, rfl⟩

/-- The text of a string literal is read back. -/
theorem readString_literalTail (start here : Location) (value back : List Char) :
    readString start here (literalTail value ++ back) =
      .ok (value, (literalTail value).length) := by
  rw [literalTail, List.append_assoc, readString_flatMap fun c _ => exists_piece_literalChar c,
    List.singleton_append, readString.eq_2, List.length_append]
  show Except.ok (value ++ [], _) = _
  rw [List.append_nil]
  rfl

/-- Behind the letter of raw literals stands a quote or a hash mark. -/
theorem not_raw {text : List Char} (plain : ∀ b ∈ text.head?, b ≠ '"' ∧ b ≠ '#') :
    beginsRawString text = false ∧ rawName? text = none := by
  cases text with
  | nil => exact ⟨rfl, rfl⟩
  | cons b rest =>
    obtain ⟨notQuote, notHash⟩ := plain b rfl
    refine ⟨beginsRawString.eq_4 _ ?_ ?_ ?_, rawName?.eq_2 _ ?_⟩
    · intro _ same
      cases same
      exact notQuote rfl
    · intro _ same
      cases same
      exact notHash rfl
    · intro _ same
      cases same
      exact notHash rfl
    · intro _ _ same
      cases same
      exact notHash rfl

/-- What continues a name is neither a quote nor a hash mark. -/
theorem plain_of_continuesName {c : Char} (continues : continuesName c = true) :
    c ≠ '"' ∧ c ≠ '#' := by
  constructor
  · rintro rfl
    revert continues
    decide
  · rintro rfl
    revert continues
    decide

/-- A name ends where a character follows that does not continue it. -/
theorem readLexeme_name {c : Char} {rest : List Char} (begins : beginsName c = true)
    (continues : ∀ d ∈ rest, continuesName d = true)
    (ends : ∀ b ∈ back.head?, endsBefore .identifier b = true) :
    readLexeme here c (rest ++ back) =
      .ok ⟨rest.length, some (.identifier, String.ofList (c :: rest))⟩ := by
  have stops : ∀ b ∈ back.head?, continuesName b = false ∧ b ≠ '"' ∧ b ≠ '#' := by
    intro b first
    have := ends b first
    simpa [endsBefore, and_assoc] using this
  have run : (rest ++ back).takeWhile continuesName = rest :=
    takeWhile_append_of_forall continues fun b first => (stops b first).1
  have plain : ∀ b ∈ (rest ++ back).head?, b ≠ '"' ∧ b ≠ '#' := by
    intro b first
    cases rest with
    | nil => exact (stops b first).2
    | cons d rest =>
      cases first
      exact plain_of_continuesName (continues b List.mem_cons_self)
  have step := @ScanStep.name here c (rest ++ back) begins fun _ => not_raw plain
  rw [nameRun, run] at step
  exact step.readLexeme_eq

/-- A numeral ends where a character follows that does not continue it. -/
theorem readLexeme_numeral {c : Char} {rest : List Char} (digits : ∀ d ∈ c :: rest, d ∈ asciiDigits)
    (ends : ∀ b ∈ back.head?, endsBefore .integer b = true) :
    readLexeme here c (rest ++ back) =
      .ok ⟨rest.length, some (.integer, String.ofList (c :: rest))⟩ := by
  have stops : ∀ b ∈ back.head?, continuesName b = false ∧ b ≠ '.' := by
    intro b first
    have := ends b first
    simp only [endsBefore, Bool.and_eq_true, bne_iff_ne, Bool.not_eq_true'] at this
    exact ⟨this.1.1, this.2⟩
  have digit : ∀ d ∈ asciiDigits, isDigit d = true ∧ (d == '_' || isDigit d) = true :=
    forall_mem_of_all (by decide)
  obtain ⟨isFirst, others⟩ := List.forall_mem_cons.mp digits
  let integer : IntegerText :=
    { first := c
      digits := rest
      suffix := []
      isFirst := (digit c isFirst).1
      areDigits := fun d listed => (digit d (others d listed)).2
      isSuffix := nofun
      ends := nofun
      noExponent := nofun }
  have noExponent : exponentRun back = 0 := by
    refine exponentRun_of_head fun b first isLetter => ?_
    have other := (stops b first).1
    rcases isLetter with rfl | rfl <;> exact absurd other (by decide)
  have read : readLexeme here c (rest ++ [] ++ back) = _ :=
    readLexeme_integer integer (fun b first => (stops b first).1)
      (fun b first => (stops b first).2) noExponent
  rwa [List.append_nil, IntegerText.chars, List.append_nil] at read

/-- A symbol is read back where it ends. -/
theorem readLexeme_of_spells {c : Char} {rest : List Char} {symbol : Symbol}
    (spelled : Spells (c :: rest) symbol) (ends : symbol.EndsBefore back) :
    readLexeme here c (rest ++ back) =
      .ok ⟨rest.length, some (symbol.kind, symbol.value)⟩ := by
  cases spelled with
  | name begins continues => exact readLexeme_name begins continues ends
  | string value =>
    exact (ScanStep.string (readString_literalTail here (here.next '"') value back)).readLexeme_eq
  | numeral digits => exact readLexeme_numeral digits ends
  | colon =>
    have single : ¬ ([] ++ back).head? = some ':' :=
      fun first => absurd (ends ':' first) (by decide)
    exact (ScanStep.colon single).readLexeme_eq
  | separator => exact (ScanStep.separator back).readLexeme_eq
  | mark isMark => exact (ScanStep.mark isMark).readLexeme_eq

/-- Scanning goes on behind a token that is read. -/
theorem scan_token {c : Char} {rest : List Char} {symbol : Symbol}
    (read : readLexeme here c (rest ++ back) =
      .ok ⟨rest.length, some (symbol.kind, symbol.value)⟩) :
    scan here (c :: rest ++ back) =
      (⟨symbol.kind, symbol.value, here⟩ :: ·) <$> scan (here.behind (c :: rest)) back := by
  rw [List.cons_append, scan_cons read]
  dsimp only
  rw [List.take_left, List.drop_left, ← Location.behind_cons]
  rfl

/-- Scanning goes on behind a symbol that is spelled where it ends. -/
theorem scan_of_spells {text : List Char} {symbol : Symbol} (spelled : Spells text symbol)
    (ends : symbol.EndsBefore back) :
    scan here (text ++ back) =
      (⟨symbol.kind, symbol.value, here⟩ :: ·) <$> scan (here.behind text) back := by
  cases text with
  | nil => cases spelled
  | cons c rest => exact scan_token (readLexeme_of_spells spelled ends)

end Symbols

/-! ### Gaps

A block comment is a gap only if its closing mark does not stand inside it.  The star in front of
that mark counts as inside, because it may be the first half of one. -/

/-- Blanks and comments.  A gap may be empty; a line comment in it is ended by its line break, and a
block comment at its first closing mark. -/
inductive Gap : List Char → Prop
  | nil : Gap []
  /-- A blank. -/
  | blank {c : Char} {rest : List Char} (isBlank : isBlank c = true) (gap : Gap rest) :
      Gap (c :: rest)
  /-- A comment up to the end of its line. -/
  | line {comment rest : List Char} (inLine : '\n' ∉ comment) (gap : Gap rest) :
      Gap ('/' :: '/' :: (comment ++ '\n' :: rest))
  /-- A comment up to its closing mark, which does not stand inside it. -/
  | block {comment rest : List Char} (unclosed : ¬ ['*', '/'] <:+: comment ++ ['*'])
      (gap : Gap rest) : Gap ('/' :: '*' :: (comment ++ '*' :: '/' :: rest))

/-- One gap behind another is a gap.  So gaps can be made longer without looking at what is in them.
-/
theorem Gap.append {front back : List Char} (first : Gap front) (second : Gap back) :
    Gap (front ++ back) := by
  induction first with
  | nil => exact second
  | blank isBlank _ ih => exact .blank isBlank ih
  | line inLine _ ih =>
    have longer := Gap.line inLine ih
    simpa using longer
  | block unclosed _ ih =>
    have longer := Gap.block unclosed ih
    simpa using longer

/-- Scanning passes over what makes no token. -/
theorem scan_silent {here : Location} {c : Char} {text : List Char} {back : List Char}
    (read : readLexeme here c (text ++ back) = .ok ⟨text.length, none⟩) :
    scan here (c :: (text ++ back)) = scan (here.behind (c :: text)) back := by
  rw [scan_cons read]
  dsimp only
  rw [List.take_left, List.drop_left, ← Location.behind_cons]
  cases scan (here.behind (c :: text)) back <;> rfl

/-- Scanning passes over a gap. -/
theorem scan_gap {gap : List Char} (isGap : Gap gap) (here : Location) (back : List Char) :
    scan here (gap ++ back) = scan (here.behind gap) back := by
  induction isGap generalizing here with
  | nil => rfl
  | @blank c rest isBlank _ ih =>
    have read : readLexeme here c ([] ++ (rest ++ back)) = .ok ⟨0, none⟩ :=
      (ScanStep.blank isBlank).readLexeme_eq
    rw [List.cons_append]
    exact (scan_silent read).trans (ih _)
  | @line comment rest inLine _ ih =>
    -- the comment stops in front of the line feed, which the next step passes over
    have run : (comment ++ '\n' :: (rest ++ back)).takeWhile (· != '\n') = comment := by
      refine takeWhile_append_of_forall (fun c listed => ?_) fun b first => ?_
      · rw [bne_iff_ne]
        rintro rfl
        exact inLine listed
      · cases first
        rfl
    have read : readLexeme here '/' ('/' :: comment ++ '\n' :: (rest ++ back)) =
        .ok ⟨('/' :: comment).length, none⟩ := by
      rw [List.cons_append, (ScanStep.lineComment _).readLexeme_eq, run, List.length_cons]
    have whole : '/' :: '/' :: (comment ++ '\n' :: rest) ++ back =
        '/' :: ('/' :: comment ++ '\n' :: (rest ++ back)) := by simp
    rw [whole, scan_silent read, scan_lineFeed, ih, ← Location.behind_cons,
      ← Location.behind_append]
    simp
  | @block comment rest unclosed _ ih =>
    have read : readLexeme here '/' ('*' :: comment ++ ['*', '/'] ++ (rest ++ back)) =
        .ok ⟨('*' :: comment ++ ['*', '/']).length, none⟩ := by
      have closed := commentExtent?_eq_some_iff.mpr ⟨comment, rest ++ back, unclosed, rfl, rfl⟩
      have step := @ScanStep.blockComment here _ _ closed
      have count : comment.length + 2 + 1 = ('*' :: comment ++ ['*', '/']).length := by simp
      rw [count] at step
      rw [List.append_assoc]
      exact step.readLexeme_eq
    have whole : '/' :: '*' :: (comment ++ '*' :: '/' :: rest) ++ back =
        '/' :: ('*' :: comment ++ ['*', '/'] ++ (rest ++ back)) := by simp
    rw [whole, scan_silent read, ih, ← Location.behind_append]
    simp

/-! ### Lists of symbols -/

/-- The texts of lists of symbols in front of another text.  The text behind takes part, because a
symbol may be prolonged by what follows it. -/
inductive LaidBefore (tail : List Char) : List Symbol → List Char → Prop
  | nil {gap : List Char} (isGap : Gap gap) : LaidBefore tail [] (gap ++ tail)
  | cons {gap spelling text : List Char} {symbol : Symbol} {symbols : List Symbol}
      (isGap : Gap gap) (spelled : Spells spelling symbol) (ends : symbol.EndsBefore text)
      (others : LaidBefore tail symbols text) :
      LaidBefore tail (symbol :: symbols) (gap ++ (spelling ++ text))

/-- The texts of lists of symbols.  Nothing follows, so the last symbol ends with the text. -/
def Laid (symbols : List Symbol) (text : List Char) : Prop := LaidBefore [] symbols text

/-- A gap in front of symbols belongs to the gap in front of the first. -/
theorem LaidBefore.behindGap {gap tail text : List Char} {symbols : List Symbol} (isGap : Gap gap)
    (laid : LaidBefore tail symbols text) : LaidBefore tail symbols (gap ++ text) := by
  cases laid with
  | nil second =>
    rw [← List.append_assoc]
    exact .nil (isGap.append second)
  | cons second spelled ends others =>
    rw [← List.append_assoc]
    exact .cons (isGap.append second) spelled ends others

/-- Symbols are laid out one list behind the other.  The first list is laid in front of the text of
the second one. -/
theorem LaidBefore.append {tail middle text : List Char} {front back : List Symbol}
    (first : LaidBefore middle front text) (second : LaidBefore tail back middle) :
    LaidBefore tail (front ++ back) text := by
  induction first with
  | nil isGap => exact second.behindGap isGap
  | cons isGap spelled ends _ ih => exact .cons isGap spelled ends ih

/-- Scanning reads the symbols that are laid out and goes on behind them. -/
theorem scan_laidBefore {tail text : List Char} {symbols : List Symbol}
    (laid : LaidBefore tail symbols text) (here : Location) :
    ∃ tokens there, tokens.map Token.symbol = symbols ∧
      scan here text = (tokens ++ ·) <$> scan there tail := by
  induction laid generalizing here with
  | @nil gap isGap =>
    refine ⟨[], here.behind gap, rfl, ?_⟩
    rw [scan_gap isGap]
    cases scan (here.behind gap) tail <;> rfl
  | @cons gap spelling text symbol symbols isGap spelled ends others ih =>
    obtain ⟨tokens, there, same, scanned⟩ := ih ((here.behind gap).behind spelling)
    refine ⟨⟨symbol.kind, symbol.value, here.behind gap⟩ :: tokens, there, ?_, ?_⟩
    · rw [List.map_cons, same]
      rfl
    · rw [scan_gap isGap, scan_of_spells spelled ends, scanned]
      cases scan there tail <;> rfl

/-! ### Texts one behind the other

A text may be scanned differently in front of different tails, so the tail belongs to the statement,
and two texts are put together where the tail of the first is the second with its own. -/

/-- Scanning a text makes tokens of a sort, wherever the text begins, and goes on with its tail. -/
def ScansTo (tail text : List Char) (sort : List Token → Prop) : Prop :=
  ∀ here, ∃ tokens there, sort tokens ∧ scan here text = (tokens ++ ·) <$> scan there tail

/-- The symbols that are laid out are scanned. -/
theorem LaidBefore.scansTo {tail text : List Char} {symbols : List Symbol}
    (laid : LaidBefore tail symbols text) :
    ScansTo tail text fun tokens => tokens.map Token.symbol = symbols :=
  scan_laidBefore laid

/-- A text that can be scanned alone is scanned in front of what closes it. -/
theorem ScansTo.of_closes {front : List Char} {sort : List Token → Prop} {b : Char}
    (scans : ∀ here, ∃ tokens, scan here front = .ok tokens ∧ sort tokens)
    (closes : Closes b front) (back : List Char) :
    ScansTo (b :: back) (front ++ b :: back) sort := by
  intro here
  obtain ⟨tokens, scanned, isSort⟩ := scans here
  exact ⟨tokens, here.behind front, isSort, scan_append scanned closes back⟩

/-- A blank in front of a text. -/
theorem ScansTo.blank {tail text : List Char} {sort : List Token → Prop} {c : Char}
    (isBlank : isBlank c = true) (scans : ScansTo tail text sort) :
    ScansTo tail (c :: text) sort := by
  intro here
  have passed := scan_gap (.blank isBlank .nil) here text
  rw [List.singleton_append] at passed
  rw [passed]
  exact scans _

/-- A blank behind a text. -/
theorem ScansTo.blankBehind {tail text : List Char} {sort : List Token → Prop} {c : Char}
    (isBlank : OpenResponse.isBlank c = true) (scans : ScansTo (c :: tail) text sort) :
    ScansTo tail text sort := by
  intro here
  obtain ⟨tokens, there, isSort, scanned⟩ := scans here
  exact ⟨tokens, there.behind [c], isSort, scan_gap (.blank isBlank .nil) there tail ▸ scanned⟩

theorem ScansTo.mono {tail text : List Char} {sort other : List Token → Prop}
    (scans : ScansTo tail text sort) (weaker : ∀ tokens, sort tokens → other tokens) :
    ScansTo tail text other := by
  intro here
  obtain ⟨tokens, there, isSort, scanned⟩ := scans here
  exact ⟨tokens, there, weaker tokens isSort, scanned⟩

/-- What is scanned of a text and of its tail.  The tokens of the tail are those that it has at its
own location. -/
theorem ScansTo.append {tail middle text : List Char} {first second sort : List Token → Prop}
    (front : ScansTo middle text first) (back : ScansTo tail middle second)
    (joined : ∀ tokens more, first tokens → second more → sort (tokens ++ more)) :
    ScansTo tail text sort := by
  intro here
  obtain ⟨tokens, there, isFirst, scanned⟩ := front here
  obtain ⟨more, behind, isSecond, scannedMore⟩ := back there
  refine ⟨tokens ++ more, behind, joined _ _ isFirst isSecond, ?_⟩
  rw [scanned, scannedMore]
  cases scan behind tail with
  | error fault => rfl
  | ok others => exact congrArg Except.ok (List.append_assoc ..).symm

/-- A text without a tail is scanned as a whole. -/
theorem ScansTo.eq_ok {text : List Char} {sort : List Token → Prop} (scans : ScansTo [] text sort)
    (here : Location) : ∃ tokens, scan here text = .ok tokens ∧ sort tokens := by
  obtain ⟨tokens, there, isSort, scanned⟩ := scans here
  refine ⟨tokens, ?_, isSort⟩
  rw [scanned, scan]
  exact congrArg Except.ok (List.append_nil tokens)

/-- **Scanning a text that is laid out** gives the tokens back.  Each has the kind and the value of
its symbol, and the location behind what is written in front of it. -/
theorem scan_laid {text : List Char} {symbols : List Symbol} (laid : Laid symbols text)
    (here : Location) :
    ∃ tokens, scan here text = .ok tokens ∧ tokens.map Token.symbol = symbols :=
  laid.scansTo.eq_ok here

/-- The symbols with a blank in front of each. -/
def spaced (symbols : List Symbol) : List Char :=
  symbols.flatMap fun symbol => ' ' :: symbol.spelling

/-- Whatever can be spelled is laid out with blanks between the symbols.  So for every list of
symbols that can be spelled there is a text. -/
theorem laid_spaced {symbols : List Symbol}
    (spelled : ∀ symbol ∈ symbols, ∃ text, Spells text symbol) : Laid symbols (spaced symbols) := by
  induction symbols with
  | nil => exact .nil .nil
  | cons symbol symbols ih =>
    obtain ⟨text, isSpelling⟩ := spelled symbol List.mem_cons_self
    have laid := ih fun other listed => spelled other (List.mem_cons_of_mem _ listed)
    rw [isSpelling.eq_spelling] at isSpelling
    have space : Gap [' '] := .blank (by decide) .nil
    refine .cons space isSpelling (fun b first => ?_) laid
    -- what follows is a blank or nothing
    have isBlank : b = ' ' := by
      cases symbols with
      | nil => cases first
      | cons next others =>
        cases first
        rfl
    rw [isBlank]
    cases symbol.kind <;> decide

end OpenResponse
