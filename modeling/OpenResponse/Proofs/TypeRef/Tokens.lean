import OpenResponse.Proofs.Token.Tiling
import OpenResponse.Proofs.TypeRef.Writing

/-!
# The tokens of types

The same token can be written in several ways: a name may be marked as raw, and an integer may have
underscores, the mark of a base and a suffix.  Names, lifetimes and numbers end where a character
stands that would not continue them.

A number reaches as far as it can, and so does an exponent, which would make it no integer.  But
none of the characters that begin an exponent's sign, a fraction, a string or a raw name can begin a
token of a type, so nothing that may follow changes what a number or a name is.

The texts of a token are given by a relation, and two laws tie it to the scanner.  What is written
is read, if it ends where it should and no stray follows; and whatever a step of scanning makes of a
text, if it is a token of types, is one of the texts of this token and ends where it should.  The
second law holds for every step, so it is proved with one case for each sort of step, most of which
make no token of types at all.

## Main definitions

* `TokenKind.standsInType` — the kinds of the tokens of types
* `Denotes` — the texts of these tokens
* `Symbol.Apart` — where a token ends
* `strays` — what does not stand behind a token of a type

## Main statements

* `Denotes.readLexeme` — a text of a token is read as that token
* `readLexeme_takesText` — what is read as a token of a type is one of its texts

## Hypotheses

`Symbol.Apart` says where a token ends, and it is asked only of kinds that run on.  The strays are
asked about separately, because they do not continue names: a number in front of a point may be a
float, a letter in front of a quote may begin a literal, and this is the only reason to exclude
them.  Since no token of types and no gap begins with a stray, the condition is always met inside of
types.
-/

namespace OpenResponse

/-! ### Texts of tokens

A name has two texts and an integer is its own text, with underscores, the mark of a base and a
suffix as they stand.  The text of a lifetime has any characters of names behind the quote, also
digits first. -/

/-- The punctuation marks of types. -/
def typeMarks : List Char := ['&', '[', ']', ';', '(', ')', '<', '>', ',']

/-- Every one of them is a punctuation mark of some kind. -/
theorem exists_ofMark? {c : Char} (listed : c ∈ typeMarks) :
    ∃ kind, TokenKind.ofMark? c = some kind := by
  have all : ∀ c ∈ typeMarks, (TokenKind.ofMark? c).isSome = true := forall_mem_of_all (by decide)
  exact Option.isSome_iff_exists.mp (all c listed)

/-- Whether a token of a kind can stand in a type.  Strings, for one, cannot, and neither can
braces. -/
def TokenKind.standsInType : TokenKind → Bool
  | .identifier | .lifetime | .integer | .pathSeparator | .ampersand | .openBracket
  | .closeBracket | .semicolon | .openParen | .closeParen | .less | .greater | .comma => true
  | _ => false

/-- The texts of the tokens of types.  A token may have several, as a name has with and without its
mark. -/
inductive Denotes : List Char → Symbol → Prop
  /-- A name. -/
  | name {name : String} (isName : isName name = true) : Denotes name.toList (.word name)
  /-- A name that is marked as raw. -/
  | rawName {name : String} (isName : isName name = true) :
      Denotes ('r' :: '#' :: name.toList) (.word name)
  /-- A lifetime. -/
  | lifetime {name : List Char} (notNil : name ≠ [])
      (continues : ∀ c ∈ name, continuesName c = true) :
      Denotes ('\'' :: name) ⟨.lifetime, String.ofList name⟩
  /-- An integer, which is its own text. -/
  | integer (text : IntegerText) : Denotes text.chars ⟨.integer, String.ofList text.chars⟩
  /-- The separator of paths. -/
  | separator : Denotes [':', ':'] .separator
  /-- A punctuation mark. -/
  | mark {c : Char} (isMark : c ∈ typeMarks) : Denotes [c] (.mark c)

/-- Whether tokens of a kind go on as long as characters of names follow. -/
def TokenKind.runsOn : TokenKind → Bool
  | .identifier | .lifetime | .integer => true
  | _ => false

/-- A token that would go on with the characters of names ends in front of a text. -/
def Symbol.Apart (symbol : Symbol) (text : List Char) : Prop :=
  symbol.kind.runsOn = true → ∀ c ∈ text.head?, continuesName c = false

/-! ### What tokens begin with

The first character of a text decides how it is read.  None of the first characters is a stray. -/

/-- A name begins with the character that is said to begin one. -/
theorem exists_cons_of_isName {name : String} (isName : isName name = true) :
    ∃ c rest, name.toList = c :: rest ∧ beginsName c = true ∧
      ∀ d ∈ rest, continuesName d = true := by
  rw [OpenResponse.isName] at isName
  split at isName
  next => cases isName
  next c rest whole =>
    rw [Bool.and_eq_true, List.all_eq_true] at isName
    exact ⟨c, rest, whole, isName.1, isName.2⟩

/-- The characters with which a number or a name would go on that ends in front of other characters
that continue no name. -/
def strays : List Char := ['"', '#', '.', '+', '-']

/-- A text of a token begins with a character that is no stray. -/
theorem Denotes.exists_cons {text : List Char} {symbol : Symbol} (denotes : Denotes text symbol) :
    ∃ c rest, text = c :: rest ∧ c ∉ strays := by
  have notBegins : ∀ d ∈ strays, beginsName d = false ∧ isDigit d = false ∧ d ∉ typeMarks :=
    forall_mem_of_all (by decide)
  cases denotes with
  | name isName =>
    obtain ⟨c, rest, whole, begins, -⟩ := exists_cons_of_isName isName
    refine ⟨c, rest, whole, fun stray => ?_⟩
    rw [(notBegins c stray).1] at begins
    cases begins
  | rawName => exact ⟨_, _, rfl, by decide⟩
  | lifetime => exact ⟨_, _, rfl, by decide⟩
  | integer integer =>
    refine ⟨_, _, rfl, fun stray => ?_⟩
    have digit := integer.isFirst
    rw [(notBegins _ stray).2.1] at digit
    cases digit
  | separator => exact ⟨_, _, rfl, by decide⟩
  | mark isMark => exact ⟨_, _, rfl, fun stray => (notBegins _ stray).2.2 isMark⟩

/-! ### Reading one token

The text behind the token is arbitrary, up to its first character. -/

section Reading

variable {here : Location} {back : List Char}

/-- A name that is marked as raw ends where a character follows that does not continue it. -/
theorem readLexeme_rawName {name : List Char} {c : Char} (begins : beginsName c = true)
    (continues : ∀ d ∈ name, continuesName d = true)
    (apart : ∀ b ∈ back.head?, continuesName b = false) :
    readLexeme here 'r' ('#' :: (c :: name ++ back)) =
      .ok ⟨('#' :: c :: name).length, some (.identifier, String.ofList (c :: name))⟩ := by
  have step := @ScanStep.rawName here c (name ++ back) begins
  rw [nameRun, takeWhile_append_of_forall continues apart] at step
  exact step.readLexeme_eq

/-- A lifetime ends where a character follows that does not continue it. -/
theorem readLexeme_lifetime {name : List Char} (notNil : name ≠ [])
    (continues : ∀ d ∈ name, continuesName d = true)
    (apart : ∀ b ∈ back.head?, continuesName b = false) :
    readLexeme here '\'' (name ++ back) =
      .ok ⟨name.length, some (.lifetime, String.ofList name)⟩ := by
  have run := takeWhile_append_of_forall continues apart
  have step := @ScanStep.lifetime here (name ++ back) (by rwa [run])
  rw [run] at step
  exact step.readLexeme_eq

/-- A text of a token is read as that token.  What follows must not prolong it. -/
theorem Denotes.readLexeme {text : List Char} {symbol : Symbol} (denotes : Denotes text symbol)
    (apart : symbol.Apart back) (plain : ∀ b ∈ back.head?, b ∉ strays) :
    ∃ c rest, text = c :: rest ∧ OpenResponse.readLexeme here c (rest ++ back) =
      .ok ⟨rest.length, some (symbol.kind, symbol.value)⟩ := by
  cases denotes with
  | @name name isName =>
    obtain ⟨c, rest, whole, begins, continues⟩ := exists_cons_of_isName isName
    have ends : ∀ b ∈ back.head?, endsBefore .identifier b = true := by
      intro b first
      have notStray := plain b first
      have other := apart rfl b first
      simp only [strays, List.mem_cons, not_or] at notStray
      simp [endsBefore, other, notStray]
    refine ⟨c, rest, whole, ?_⟩
    rw [readLexeme_name begins continues ends, ← whole, String.ofList_toList]
    rfl
  | @rawName name isName =>
    obtain ⟨c, rest, whole, begins, continues⟩ := exists_cons_of_isName isName
    refine ⟨'r', '#' :: name.toList, rfl, ?_⟩
    rw [whole]
    refine (readLexeme_rawName begins continues (apart rfl)).trans ?_
    rw [← whole, String.ofList_toList]
    rfl
  | lifetime notNil continues =>
    exact ⟨_, _, rfl, readLexeme_lifetime notNil continues (apart rfl)⟩
  | integer integer =>
    have notStray {d : Char} (stray : d ∈ strays) : ∀ b ∈ back.head?, b ≠ d := by
      rintro b first rfl
      exact plain b first stray
    -- an integer is the one form that two characters behind it could prolong
    have noExponent := integer.exponentRun_eq_zero (apart rfl) fun b first isSign =>
      isSign.elim (notStray (by decide) b first) (notStray (by decide) b first)
    exact ⟨_, _, rfl, readLexeme_integer integer (apart rfl) (notStray (by decide)) noExponent⟩
  | separator =>
    exact ⟨_, _, rfl, (ScanStep.separator back).readLexeme_eq⟩
  | @mark c isMark =>
    obtain ⟨kind, isKind⟩ := exists_ofMark? isMark
    refine ⟨c, [], rfl, ?_⟩
    rw [List.nil_append, (ScanStep.mark isKind).readLexeme_eq, Symbol.mark, isKind]
    rfl

end Reading

/-! ### What is read as a token

Here the text is given and the step of scanning is looked at.  How many characters it takes is what
has to be shown to be the length of a text of its token. -/

/-- An outcome of a step of scanning that takes the text of a token of types, if it makes a token of
such a kind, and ends where no character follows that would continue it. -/
def TakesText (c : Char) (rest : List Char) (step : Except Fault Lexeme) : Prop :=
  ∀ lexeme, step = .ok lexeme → ∀ token ∈ lexeme.token, token.1.standsInType = true →
    Denotes (c :: rest.take lexeme.more) ⟨token.1, token.2⟩ ∧
      Symbol.Apart ⟨token.1, token.2⟩ (rest.drop lexeme.more)

namespace TakesText

variable {c : Char} {rest : List Char}

private theorem token {more : Nat} {kind : TokenKind} {value : String}
    (denotes : Denotes (c :: rest.take more) ⟨kind, value⟩)
    (apart : kind.runsOn = true → ∀ b ∈ (rest.drop more).head?, continuesName b = false) :
    TakesText c rest (.ok ⟨more, some (kind, value)⟩) := by
  rintro _ ⟨⟩ _ ⟨⟩ -
  exact ⟨denotes, apart⟩

/-- A token that stands in no type. -/
theorem other {more : Nat} {kind : TokenKind} {value : String}
    (outside : kind.standsInType = false) : TakesText c rest (.ok ⟨more, some (kind, value)⟩) := by
  rintro _ ⟨⟩ _ ⟨⟩ inside
  rw [outside] at inside
  cases inside

private theorem silent (more : Nat) : TakesText c rest (.ok ⟨more, none⟩) := by
  rintro _ ⟨⟩ token made
  cases made

private theorem error (fault : Fault) : TakesText c rest (.error fault) := by
  intro lexeme same
  cases same

end TakesText

/-- A text begins with a run of characters, behind which another character stands or nothing. -/
theorem exists_run (p : Char → Bool) (text : List Char) :
    ∃ run back, text = run ++ back ∧ text.takeWhile p = run ∧ (∀ c ∈ run, p c = true) ∧
      ∀ b ∈ back.head?, p b = false := by
  refine ⟨text.takeWhile p, text.drop (text.takeWhile p).length, ?_, rfl,
    List.all_eq_true.mp List.all_takeWhile, head?_drop_takeWhile text⟩
  conv_lhs => rw [← List.take_append_drop (text.takeWhile p).length text, take_length_takeWhile]

/-- A number that is an integer takes the text of one, and ends where no name goes on. -/
theorem exists_integerText {c : Char} {rest : List Char} {length : Nat} (digit : isDigit c = true)
    (extent : numberExtent (c :: rest) = (.integer, length)) :
    ∃ (text : IntegerText) (back : List Char), c :: rest = text.chars ++ back ∧
      length = text.chars.length ∧ ∀ b ∈ back.head?, continuesName b = false := by
  by_cases based : BeginsBase (c :: rest)
  · obtain ⟨letter, isLetter, tail, same⟩ := based
    obtain ⟨name, back, rfl, isRun, continues, stops⟩ := exists_run continuesName tail
    rw [same, numberExtent_of_base isLetter, nameRun, isRun] at extent
    cases extent
    refine ⟨.based isLetter continues, back, same, ?_, stops⟩
    simp [IntegerText.based, IntegerText.chars]
    omega
  · obtain ⟨digits, behind, rfl, isRun, areDigits, ends⟩ :=
      exists_run (fun c => c == '_' || isDigit c) rest
    obtain ⟨suffix, back, rfl, isSuffixRun, isSuffix, stops⟩ := exists_run continuesName behind
    have whole : digitRun (c :: (digits ++ (suffix ++ back))) = (c :: digits).length := by
      rw [digitRun, List.takeWhile_cons, digit, Bool.or_true, if_pos rfl, isRun]
    rw [numberExtent_of_not based, whole, ← List.cons_append, Prod.mk.injEq] at extent
    rw [List.drop_left] at extent
    obtain ⟨isInteger, isLength⟩ := extent
    -- a fraction or an exponent would make the number a float
    have nothing : fractionRun (suffix ++ back) + exponentRun (List.drop
        ((c :: digits).length + fractionRun (suffix ++ back))
        (c :: digits ++ (suffix ++ back))) = 0 := by
      by_contra something
      rw [if_neg something] at isInteger
      cases isInteger
    obtain ⟨noFraction, noExponent⟩ := Nat.add_eq_zero_iff.mp nothing
    rw [noFraction, Nat.add_zero, List.drop_left] at noExponent
    rw [noFraction, Nat.add_zero, List.drop_left, noExponent, Nat.add_zero, List.drop_left, nameRun,
      isSuffixRun] at isLength
    have notBegins : ¬ BeginsExponent suffix := by
      rintro ⟨letter, second, more, rfl, isLetter, isDigit⟩
      rw [List.cons_append, List.cons_append, exponentRun, if_pos isLetter, if_pos isDigit]
        at noExponent
      omega
    have noDigit : ∀ d ∈ suffix.head?, (d == '_' || isDigit d) = false := by
      intro d first
      refine ends d ?_
      cases suffix with
      | nil => cases first
      | cons e suffix => exact first
    refine ⟨⟨c, digits, suffix, digit, areDigits, isSuffix, noDigit, notBegins⟩, back, ?_, ?_,
      stops⟩
    · simp [IntegerText.chars]
    · simp only [IntegerText.chars, List.length_cons, List.length_append] at isLength ⊢
      omega

/-- Characters of a name are one. -/
theorem isName_ofList {c : Char} {rest : List Char} (begins : beginsName c = true)
    (continues : ∀ d ∈ rest, continuesName d = true) :
    isName (String.ofList (c :: rest)) = true := by
  rw [isName, String.toList_ofList]
  dsimp only
  rw [begins, List.all_eq_true.mpr continues]
  rfl

/-- A punctuation mark of a kind that stands in types is one of theirs, and does not run on. -/
theorem mem_typeMarks : ∀ ⦃c kind⦄, TokenKind.ofMark? c = some kind →
    kind.runsOn = false ∧ (kind.standsInType = true → c ∈ typeMarks) :=
  forall_ofMark? (by decide)

namespace TakesText

variable {c : Char} {rest : List Char}

/-- A raw name stands behind the letter and a hash mark. -/
theorem rawName (begins : beginsName c = true) :
    TakesText 'r' ('#' :: c :: rest) (.ok ⟨nameRun rest + 2,
      some (.identifier, String.ofList (c :: rest.takeWhile continuesName))⟩) := by
  obtain ⟨run, back, rfl, isRun, continues, stops⟩ := exists_run continuesName rest
  have denotes := Denotes.rawName (isName_ofList begins continues)
  rw [String.toList_ofList] at denotes
  rw [nameRun, isRun]
  refine token ?_ fun _ => ?_
  · rw [List.take_succ_cons, List.take_succ_cons, List.take_left]
    exact denotes
  · rw [List.drop_succ_cons, List.drop_succ_cons, List.drop_left]
    exact stops

/-- A name goes on as long as characters follow that continue it. -/
theorem name (begins : beginsName c = true) :
    TakesText c rest (.ok ⟨nameRun rest,
      some (.identifier, String.ofList (c :: rest.takeWhile continuesName))⟩) := by
  obtain ⟨run, back, rfl, isRun, continues, stops⟩ := exists_run continuesName rest
  have denotes := Denotes.name (isName_ofList begins continues)
  rw [String.toList_ofList] at denotes
  rw [nameRun, isRun]
  refine token ?_ fun _ => ?_
  · rw [List.take_left]
    exact denotes
  · rw [List.drop_left]
    exact stops

/-- Of numbers, only integers stand in types. -/
theorem number {kind : TokenKind} {length : Nat} (digit : isDigit c = true)
    (extent : numberExtent (c :: rest) = (kind, length)) :
    TakesText c rest (.ok ⟨length - 1, some (kind, String.ofList ((c :: rest).take length))⟩) := by
  rcases kind_of_numberExtent (c :: rest) with isInteger | isFloat
  · rw [extent] at isInteger
    cases isInteger
    obtain ⟨text, back, whole, rfl, stops⟩ := exists_integerText digit extent
    obtain ⟨isFirst, behind⟩ : c = text.first ∧ rest = (text.digits ++ text.suffix) ++ back :=
      List.cons.inj whole
    have denotes := Denotes.integer text
    have count : text.chars.length - 1 = (text.digits ++ text.suffix).length := rfl
    rw [whole, List.take_left, count]
    refine token ?_ fun _ => ?_
    · rw [behind, List.take_left, isFirst]
      exact denotes
    · rw [behind, List.drop_left]
      exact stops
  · rw [extent] at isFloat
    cases isFloat
    exact other rfl

/-- Behind the quote of a lifetime stands its name. -/
theorem lifetime (named : rest.takeWhile continuesName ≠ []) :
    TakesText '\'' rest (.ok ⟨(rest.takeWhile continuesName).length,
      some (.lifetime, String.ofList (rest.takeWhile continuesName))⟩) := by
  obtain ⟨run, back, rfl, isRun, continues, stops⟩ := exists_run continuesName rest
  rw [isRun] at named ⊢
  refine token ?_ fun _ => ?_
  · rw [List.take_left]
    exact .lifetime named continues
  · rw [List.drop_left]
    exact stops

/-- A punctuation mark is its own text. -/
theorem mark {kind : TokenKind} (isMark : TokenKind.ofMark? c = some kind) :
    TakesText c rest (.ok ⟨0, some (kind, c.toString)⟩) := by
  obtain ⟨stops, listed⟩ := mem_typeMarks isMark
  cases stands : kind.standsInType with
  | false => exact other stands
  | true =>
    have denotes := Denotes.mark (listed stands)
    rw [Symbol.mark, isMark] at denotes
    refine token denotes fun runs => ?_
    rw [stops] at runs
    cases runs

end TakesText

open TakesText in
/-- A step of scanning that makes a token of types takes one of its texts. -/
theorem readLexeme_takesText (here : Location) (c : Char) (rest : List Char) :
    TakesText c rest (readLexeme here c rest) := by
  have step := scanStep here c rest
  generalize readLexeme here c rest = outcome at step ⊢
  cases step with
  | blank | lineComment | blockComment => exact silent _
  | openComment | badString | badRawString | badLifetime | stray => exact error _
  | string | rawString | colon => exact other rfl
  | rawName begins => exact rawName begins
  | name begins => exact name begins
  | number digit extent => exact number digit extent
  | lifetime named => exact lifetime named
  | separator => exact token .separator nofun
  | mark isMark => exact mark isMark

end OpenResponse
