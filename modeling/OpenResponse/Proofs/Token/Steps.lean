import OpenResponse.Proofs.Text.Classes
import OpenResponse.Token.Scan

/-!
# Steps of scanning

A step of scanning tries one form after the other, so what it makes of a text depends on all the
forms that come first.  Here each form stands for itself, with what it asks of the text, and a step
has the form that its text shows.  Whatever holds of every step is shown form by form, and what a
text is read as follows from its form, with no mention of the others.

The conditions of the forms exclude one another.  Names alone need one more, because the letter of
raw literals begins names as well.

That every step has a form is the one place where the order of the forms in `readLexeme` is walked
through.  It is used in both directions: a proof about all steps takes the form of a step apart by
`cases`, and a proof about one text gives the form and gets the outcome.  Two forms that gave a text
different outcomes would make `readLexeme_eq` false, so there is no need to state that the
conditions exclude each other.

## Main definitions

* `punctuation` — the punctuation marks and their kinds
* `ScanStep` — the forms of a step, as outcomes of the text that it reads

## Main statements

* `forall_ofMark?` — what holds of all punctuation marks
* `ScanStep.readLexeme_eq` — a step has the outcome of its form
* `scanStep` — every step has a form
* `readLexeme_eq_iff` — **the outcome of a step is that of its form**

## Design notes

The forms carry no more of the failed conditions in front of them than is needed to tell them apart.
A name needs that no raw literal and no raw name stands there, and a stray character needs all of
the conditions, because it is what is left.  Everything else is fixed by its first characters.

The punctuation marks are listed once.  Properties of single marks are then decided over that list
by `forall_ofMark?`, and no proof splits on the marks.
-/

namespace OpenResponse

/-! ### Punctuation -/

section Punctuation

open TokenKind

/-- The punctuation marks and their kinds.  Each is a single character; the separator of paths is
not among them, since it takes two. -/
def punctuation : List (Char × TokenKind) :=
  [('(', openParen), (')', closeParen), ('[', openBracket), (']', closeBracket), ('{', openBrace),
    ('}', closeBrace), (',', comma), ('=', equals), ('<', less), ('>', greater), ('&', ampersand),
    ('!', bang), (';', semicolon), ('-', minus), ('#', pound)]

private theorem mem_punctuation_of_ofMark?
    {c : Char} {kind : TokenKind} (isMark : ofMark? c = some kind) :
    (c, kind) ∈ punctuation := by
  unfold ofMark? at isMark
  split at isMark <;> cases isMark <;> decide

/-- What holds of all punctuation marks holds of a character that is one.  The table is finite, so
the property can be decided for each of its marks. -/
theorem forall_ofMark? {p : Char → TokenKind → Prop} [∀ c kind, Decidable (p c kind)]
    (all : (punctuation.all fun mark => p mark.1 mark.2) = true) ⦃c : Char⦄ ⦃kind : TokenKind⦄
    (isMark : ofMark? c = some kind) : p c kind :=
  of_decide_eq_true (List.all_eq_true.mp all (c, kind) (mem_punctuation_of_ofMark? isMark))

/-- The punctuation marks are told from whatever else a token begins with. -/
theorem not_other_of_ofMark? : ∀ ⦃c kind⦄, ofMark? c = some kind →
    isBlank c = false ∧ c ≠ '/' ∧ c ≠ '"' ∧ c ≠ '\'' ∧ c ≠ ':' ∧ beginsName c = false ∧
      isDigit c = false := forall_ofMark? (by decide)

/-- No punctuation mark is a name, a literal, a separator or the end of the input. -/
theorem ne_of_ofMark? : ∀ ⦃c kind⦄, ofMark? c = some kind →
    ∀ other ∈ [identifier, lifetime, integer, string, pathSeparator, endOfInput], kind ≠ other :=
  forall_ofMark? (by decide)

/-- A kind is that of one punctuation mark at most. -/
theorem eq_of_ofMark? {c d : Char} {kind : TokenKind} (isMark : ofMark? c = some kind)
    (isOther : ofMark? d = some kind) : c = d := by
  have only : ∀ ⦃c kind⦄, ofMark? c = some kind →
      ∀ mark ∈ punctuation, mark.2 = kind → mark.1 = c :=
    forall_ofMark? (by decide)
  exact (only isMark (d, kind) (mem_punctuation_of_ofMark? isOther) rfl).symm

end Punctuation

/-! ### Forms of steps

The constructors say what a text has to look like, with the first characters written out where the
form fixes them, so that `cases` on a step also says what text it was given.  A form with an end of
its own, a literal or a block comment, comes twice: with its end, and as a fault without it. -/

/-- The outcome of a step that reads a text at a place, one constructor for each form: a blank, the
comments, the literals, names, numbers, lifetimes and punctuation.  Where a form has an end of its
own that is missing, the outcome is a fault. -/
inductive ScanStep (here : Location) : Char → List Char → Except Fault Lexeme → Prop
  | blank {c : Char} {rest : List Char} (isBlank : isBlank c = true) :
      ScanStep here c rest (.ok ⟨0, none⟩)
  | lineComment (text : List Char) :
      ScanStep here '/' ('/' :: text) (.ok ⟨(text.takeWhile (· != '\n')).length + 1, none⟩)
  | blockComment {text : List Char} {extent : Nat} (closed : commentExtent? text = some extent) :
      ScanStep here '/' ('*' :: text) (.ok ⟨extent + 1, none⟩)
  | openComment {text : List Char} (unclosed : commentExtent? text = none) :
      ScanStep here '/' ('*' :: text) (.error (.found here .openComment))
  | string {rest value : List Char} {used : Nat}
      (read : readString here (here.next '"') rest = .ok (value, used)) :
      ScanStep here '"' rest (.ok ⟨used, some (.string, String.ofList value)⟩)
  | badString {rest : List Char} {fault : Fault}
      (failed : readString here (here.next '"') rest = .error fault) :
      ScanStep here '"' rest (.error fault)
  | rawString {rest value : List Char} {used : Nat} (begins : beginsRawString rest = true)
      (read : readRawString here rest = .ok (value, used)) :
      ScanStep here 'r' rest (.ok ⟨used, some (.string, String.ofList value)⟩)
  | badRawString {rest : List Char} {fault : Fault} (begins : beginsRawString rest = true)
      (failed : readRawString here rest = .error fault) : ScanStep here 'r' rest (.error fault)
  | rawName {c : Char} {rest : List Char} (begins : beginsName c = true) :
      ScanStep here 'r' ('#' :: c :: rest)
        (.ok ⟨nameRun rest + 2,
          some (.identifier, String.ofList (c :: rest.takeWhile continuesName))⟩)
  | name {c : Char} {rest : List Char} (begins : beginsName c = true)
      (plain : c = 'r' → beginsRawString rest = false ∧ rawName? rest = none) :
      ScanStep here c rest
        (.ok ⟨nameRun rest,
          some (.identifier, String.ofList (c :: rest.takeWhile continuesName))⟩)
  | number {c : Char} {rest : List Char} {kind : TokenKind} {length : Nat}
      (digit : isDigit c = true) (extent : numberExtent (c :: rest) = (kind, length)) :
      ScanStep here c rest
        (.ok ⟨length - 1, some (kind, String.ofList ((c :: rest).take length))⟩)
  | lifetime {rest : List Char} (named : rest.takeWhile continuesName ≠ []) :
      ScanStep here '\'' rest
        (.ok ⟨(rest.takeWhile continuesName).length,
          some (.lifetime, String.ofList (rest.takeWhile continuesName))⟩)
  | badLifetime {rest : List Char} (nameless : rest.takeWhile continuesName = []) :
      ScanStep here '\'' rest (.error (.found here .lifetimeWithoutName))
  | separator (text : List Char) :
      ScanStep here ':' (':' :: text) (.ok ⟨1, some (.pathSeparator, "::")⟩)
  | colon {rest : List Char} (single : rest.head? ≠ some ':') :
      ScanStep here ':' rest (.ok ⟨0, some (.colon, ":")⟩)
  | mark {c : Char} {rest : List Char} {kind : TokenKind}
      (isMark : TokenKind.ofMark? c = some kind) :
      ScanStep here c rest (.ok ⟨0, some (kind, c.toString)⟩)
  | stray {c : Char} {rest : List Char} (notBlank : isBlank c = false)
      (notComment : c = '/' → rest.head? ≠ some '/' ∧ rest.head? ≠ some '*')
      (notName : beginsName c = false) (notDigit : isDigit c = false)
      (notQuote : c ∉ ['"', '\'', ':']) (notMark : TokenKind.ofMark? c = none) :
      ScanStep here c rest (.error (.found here (.strayCharacter c)))

/-- Behind the letter of raw literals and a hash mark, a name tells a raw name from a literal. -/
theorem not_beginsRawString_of_beginsName {c : Char} (begins : beginsName c = true)
    (rest : List Char) : beginsRawString ('#' :: c :: rest) = false := by
  refine beginsRawString.eq_4 _ nofun (fun _ same => ?_) fun _ same => ?_
  · cases same
    exact absurd begins (by decide)
  · cases same
    exact absurd begins (by decide)

namespace ScanStep

variable {here : Location} {c : Char} {rest : List Char} {outcome : Except Fault Lexeme}

/-- A step has the outcome of its form.  So a proof that builds a step need not open the scanner. -/
theorem readLexeme_eq (step : ScanStep here c rest outcome) :
    readLexeme here c rest = outcome := by
  -- where the form fixes the character, every condition can be decided
  cases step with
  | blank isBlank => exact if_pos isBlank
  | lineComment text => simp +decide [readLexeme]
  | blockComment closed => simp +decide [readLexeme, closed, Nat.add_comm]
  | openComment unclosed => simp +decide [readLexeme, unclosed]
  | string read => simp +decide [readLexeme, read]
  | badString failed => simp +decide [readLexeme, failed]
  | rawString begins read => simp +decide [readLexeme, begins, read]
  | badRawString begins failed => simp +decide [readLexeme, begins, failed]
  | @rawName first rest begins =>
    have notLiteral := not_beginsRawString_of_beginsName begins rest
    have count : 1 + ((rest.takeWhile continuesName).length + 1) = nameRun rest + 2 := by
      rw [nameRun]
      omega
    simp +decide [readLexeme, notLiteral, rawName?, begins, count]
  | name begins plain =>
    have differ {d : Char} (other : beginsName d = false) : c ≠ d := ne_of_beginsName begins other
    have notSlash : c ≠ '/' := differ (by decide)
    have notQuote : c ≠ '"' := differ (by decide)
    have notLiteral : ¬ (c = 'r' ∧ beginsRawString rest = true) := by
      rintro ⟨isR, literal⟩
      rw [(plain isR).1] at literal
      cases literal
    have notRaw : (if c = 'r' then rawName? rest else none) = none := by
      split
      next isR => exact (plain isR).2
      next => rfl
    simp only [readLexeme, not_isBlank_of_beginsName begins, notSlash, notQuote, notLiteral, begins,
      notRaw, false_and, if_true, if_false, Bool.false_eq_true]
  | number digit extent =>
    obtain ⟨notBlank, notName⟩ := not_other_of_isDigit digit
    have differ {d : Char} (other : isDigit d = false) : c ≠ d := by
      rintro rfl
      rw [digit] at other
      cases other
    have notSlash : c ≠ '/' := differ (by decide)
    have notQuote : c ≠ '"' := differ (by decide)
    have notR : c ≠ 'r' := differ (by decide)
    simp [readLexeme, notBlank, notSlash, notQuote, notR, notName, digit, extent]
  | lifetime named => simp +decide [readLexeme, named]
  | badLifetime nameless => simp +decide [readLexeme, nameless]
  | separator text => simp +decide [readLexeme]
  | colon single => simp +decide [readLexeme, single]
  | mark isMark =>
    obtain ⟨notBlank, notSlash, notQuote, notTick, notColon, notName, notDigit⟩ :=
      not_other_of_ofMark? isMark
    have notR : c ≠ 'r' := by
      rintro rfl
      cases isMark
    simp [readLexeme, notBlank, notSlash, notQuote, notR, notName, notDigit, notTick, notColon,
      isMark]
  | stray notBlank notComment notName notDigit notQuote notMark =>
    simp only [List.mem_cons, List.not_mem_nil, or_false, not_or] at notQuote
    have notR : c ≠ 'r' := by
      rintro rfl
      exact absurd notName (by decide)
    have notLine : ¬ (c = '/' ∧ rest.head? = some '/') := fun both => (notComment both.1).1 both.2
    have notBlock : ¬ (c = '/' ∧ rest.head? = some '*') := fun both => (notComment both.1).2 both.2
    simp [readLexeme, notBlank, notLine, notBlock, notR, notName, notDigit, notQuote, notMark]

end ScanStep

/-- A raw name stands behind the letter and a hash mark. -/
theorem exists_of_rawName? {rest name : List Char} (raw : rawName? rest = some name) :
    ∃ first tail, rest = '#' :: first :: tail ∧ beginsName first = true ∧
      name = first :: tail.takeWhile continuesName := by
  unfold rawName? at raw
  split at raw
  next first tail =>
    split at raw
    next begins =>
      cases raw
      exact ⟨first, tail, rfl, begins, rfl⟩
    next => cases raw
  next => cases raw

/-- Every step has a form.  The forms are listed in the order in which the scanner tries them, each
with what excludes the earlier ones. -/
theorem scanStep (here : Location) (c : Char) (rest : List Char) :
    ScanStep here c rest (readLexeme here c rest) := by
  -- of the conditions that failed before, only names and stray characters need any
  fun_cases readLexeme here c rest
  case case1 isBlank => exact .blank isBlank
  case case2 both =>
    obtain ⟨rfl, slash⟩ := both
    obtain ⟨text, rfl⟩ := List.head?_eq_some_iff.mp slash
    exact .lineComment text
  case case3 both extent closed =>
    obtain ⟨rfl, star⟩ := both
    obtain ⟨text, rfl⟩ := List.head?_eq_some_iff.mp star
    rw [Nat.add_comm]
    exact .blockComment closed
  case case4 both unclosed =>
    obtain ⟨rfl, star⟩ := both
    obtain ⟨text, rfl⟩ := List.head?_eq_some_iff.mp star
    exact .openComment unclosed
  case case5 isQuote value used read =>
    subst isQuote
    exact .string read
  case case6 isQuote fault failed =>
    subst isQuote
    exact .badString failed
  case case7 both value used read =>
    obtain ⟨rfl, begins⟩ := both
    exact .rawString begins read
  case case8 both fault failed =>
    obtain ⟨rfl, begins⟩ := both
    exact .badRawString begins failed
  case case9 name raw =>
    split at raw
    next isR =>
      obtain ⟨first, tail, rfl, begins, rfl⟩ := exists_of_rawName? raw
      rw [isR, Nat.add_comm, List.length_cons]
      exact .rawName begins
    next => cases raw
  case case10 notLiteral begins plain =>
    refine .name begins fun isR => ?_
    rw [if_pos isR] at plain
    exact ⟨Bool.eq_false_iff.mpr fun literal => notLiteral ⟨isR, literal⟩, plain⟩
  case case11 digit kind length extent => exact .number digit extent
  case case12 isTick name nameless =>
    subst isTick
    exact .badLifetime (List.isEmpty_iff.mp nameless)
  case case13 isTick name named =>
    subst isTick
    exact .lifetime fun nameless => named (List.isEmpty_iff.mpr nameless)
  case case14 isColon second =>
    subst isColon
    obtain ⟨text, rfl⟩ := List.head?_eq_some_iff.mp second
    exact .separator text
  case case15 isColon single =>
    subst isColon
    exact .colon single
  case case16 kind isMark => exact .mark isMark
  case case17 notBlank notLine notBlock notQuote _ notName notDigit notTick notColon notMark =>
    refine .stray (Bool.eq_false_iff.mpr notBlank) (fun isSlash => ?_)
      (Bool.eq_false_iff.mpr notName) (Bool.eq_false_iff.mpr notDigit) ?_ notMark
    · exact ⟨fun second => notLine ⟨isSlash, second⟩, fun second => notBlock ⟨isSlash, second⟩⟩
    · simp [notQuote, notTick, notColon]

/-- **The outcome of a step is that of its form.** A law about scanning is therefore a case split
over forms, and nothing about the scanner is unfolded for it. -/
theorem readLexeme_eq_iff {here : Location} {c : Char} {rest : List Char}
    {outcome : Except Fault Lexeme} :
    readLexeme here c rest = outcome ↔ ScanStep here c rest outcome :=
  ⟨fun read => read ▸ scanStep here c rest, ScanStep.readLexeme_eq⟩

end OpenResponse
