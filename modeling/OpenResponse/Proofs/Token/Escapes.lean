import OpenResponse.Proofs.Number.Spelling
import OpenResponse.Proofs.Text.Classes
import OpenResponse.Proofs.Token.Lines

/-!
# Escapes in string literals

A string literal is written in pieces.  A character stands for itself, a letter behind a backslash
for another character, and two digits or a number between braces for the character of that number.
A line break behind a backslash stands for nothing and takes along the blanks behind it, so that the
piece behind those must not begin with a blank of its own.

Each piece is read back in front of whatever follows and leaves just that to be read.  Hence a
literal is read piece by piece, and its value is what the pieces denote, one behind the other.

Two of the pieces have no fixed length.  Digits between braces end at the closing brace, which is no
digit, and the blanks behind a line break end where something else begins.  The second one depends
on the next piece: this is the only condition between two pieces, and `LiteralPiece.EndsBefore`
states it for all of them, trivially true for five of the six forms.

## Main definitions

* `hexValue` — the numbers of hexadecimal digits
* `LiteralPiece` — pieces of string literals, with their texts and what they denote
* `LiteralPiece.EndsBefore` — where a piece ends

## Main statements

* `readString_piece`, `readString_pieces` — reading one piece, and one behind the other
* `readString_flatMap` — characters that are each written as a piece
* `tokenize_pieces` — **a literal in pieces is the token of what they denote**

## Hypotheses

The number between braces has to be that of a character.  Surrogates are excluded by this condition,
as no piece denotes one: escapes with their numbers are refused, which is the limit of strings of
characters.  The number of two digits always is a character.

Underscores between the braces are left out before the number is read.  That is why digits alone are
asked of what remains, and why at least one has to remain.
-/

namespace OpenResponse

/-! ### Hexadecimal numbers -/

/-- The number that hexadecimal digits stand for.  Underscores among them have no value.  The fold
is the one that numerals are valued with, so it agrees with what the reader of escapes makes of
them. -/
def hexValue (body : List Char) : Nat :=
  Nat.ofDigits 16 (body.filterMap (baseDigit? 16)).reverse

private theorem hexValue_lt (body : List Char) : hexValue body < 16 ^ body.length := by
  have small : ∀ value ∈ (body.filterMap (baseDigit? 16)).reverse, value < 16 := by
    intro value listed
    obtain ⟨c, -, isValue⟩ := List.mem_filterMap.mp (List.mem_reverse.mp listed)
    exact lt_of_baseDigit? isValue
  refine (Nat.ofDigits_lt_base_pow_length (by decide) small).trans_le
    (Nat.pow_le_pow_right (by decide) ?_)
  rw [List.length_reverse]
  exact List.length_filterMap_le _ _

/-- Neither case of the letter of a mark is a hexadecimal digit. -/
theorem toLower_ne_of_hexDigit {c : Char} (digit : (baseDigit? 16 c).isSome = true) :
    c.toLower ≠ 'x' := by
  intro same
  have notDigit : c ≠ 'x' ∧ c ≠ 'X' := by
    constructor <;>
    · rintro rfl
      revert digit
      decide
  unfold Char.toLower at same
  split at same
  next =>
    refine notDigit.2 (Char.ext ?_)
    have value : c.val + 32 = 120 := congrArg Char.val same
    exact (UInt32.add_left_inj 32).mp (value.trans (by decide))
  next => exact notDigit.1 same

/-- Hexadecimal digits have no mark in front. -/
theorem withoutPrefix_hexDigits {text : List Char}
    (digit : ∀ c ∈ text, (baseDigit? 16 c).isSome = true) : withoutPrefix 16 text = text := by
  unfold withoutPrefix
  split
  next first letter rest =>
    refine if_neg fun both => toLower_ne_of_hexDigit (digit letter (by simp)) ?_
    exact Option.some.inj both.2
  next => rfl

/-- Digits have no blanks around them. -/
theorem trimNumeral_of_forall {text : List Char}
    (solid : ∀ c ∈ text, isNumeralBlank c = false) : trimNumeral text = text := by
  have kept : ∀ {chars : List Char}, (∀ c ∈ chars, isNumeralBlank c = false) →
      chars.dropWhile isNumeralBlank = chars := by
    intro chars solid
    cases chars with
    | nil => rfl
    | cons c rest => rw [List.dropWhile_cons, solid c List.mem_cons_self]; rfl
  rw [trimNumeral, kept solid, kept fun c listed => solid c (List.mem_reverse.mp listed),
    List.reverse_reverse]

/-- A numeral of hexadecimal digits has their number as its value. -/
theorem readNumeral?_hexDigits {body : List Char}
    (digit : ∀ c ∈ body, c ≠ '_' → (baseDigit? 16 c).isSome = true)
    (filled : ∃ c ∈ body, c ≠ '_') :
    readNumeral? 16 (body.filter (· != '_')) = some (hexValue body : Int) := by
  let spelling : IntegerSpelling := ⟨.hexadecimal, body, "", digit, filled, .inl rfl⟩
  have isDigit : ∀ c ∈ spelling.bare, (baseDigit? spelling.base.radix c).isSome = true :=
    spelling.isDigit_of_mem_bare
  have solid : ∀ c ∈ spelling.bare, isNumeralBlank c = false := fun c listed => by
    rw [isNumeralBlank, not_isBlank_of_baseDigit? (isDigit c listed), Bool.false_and]
  have separated : separatedDigits? 16 spelling.bare = some spelling.digits :=
    (separatedDigits?_eq_filterMap isDigit spelling.bare_ne_nil).trans
      (congrArg some spelling.filterMap_bare)
  have magnitude : readMagnitude? 16 spelling.bare = some (hexValue body) := by
    rw [readMagnitude?, withoutPrefix_hexDigits isDigit, separated, Option.map_some,
      digitsValue_eq_ofDigits]
    rfl
  -- a sign is no digit, so none of the readings with one applies
  have noSign (c : Char) (sign : baseDigit? 16 c = none) (rest : List Char) :
      spelling.bare ≠ c :: rest := by
    intro same
    have digit : (baseDigit? 16 c).isSome = true := isDigit c (same ▸ List.mem_cons_self)
    rw [sign] at digit
    cases digit
  show readNumeral? 16 spelling.bare = _
  rw [readNumeral?, trimNumeral_of_forall solid]
  split
  next rest same => exact absurd same (noSign '-' (by decide) rest)
  next rest same => exact absurd same (noSign '+' (by decide) rest)
  next => rw [magnitude]; rfl

/-- The character of a number that has one. -/
theorem escapedChar_of_isValidChar {bad : Cause} {n : Nat} (scalar : n.isValidChar) :
    escapedChar bad (some (n : Int)) = .ok (Char.ofNat n) := by
  have small : n < 0x110000 := by
    rcases scalar with low | high <;> omega
  rw [escapedChar, if_neg (by omega), if_neg (by simp [scalar]), Int.toNat_natCast]

/-! ### Pieces -/

/-- The letters that stand for a character behind a backslash. -/
def simpleEscapes : List (Char × Char) :=
  [('n', '\n'), ('r', '\r'), ('t', '\t'), ('\\', '\\'), ('0', '\x00'), ('\'', '\''), ('"', '"')]

/-- The pieces of a string literal.  Each stands for the characters that it denotes: a plain
character for itself, an escape for one character, a line break behind a backslash for none. -/
inductive LiteralPiece
  /-- A character that stands for itself. -/
  | plain (c : Char) (notQuote : c ≠ '"') (notBackslash : c ≠ '\\')
  /-- A letter that stands for a character. -/
  | simple (letter denoted : Char) (listed : (letter, denoted) ∈ simpleEscapes)
  /-- Two digits. -/
  | digits (high low : Char) (isHigh : (baseDigit? 16 high).isSome = true)
      (isLow : (baseDigit? 16 low).isSome = true)
  /-- Digits and underscores between braces, with the number of a character. -/
  | braced (body : List Char) (digit : ∀ c ∈ body, c ≠ '_' → (baseDigit? 16 c).isSome = true)
      (filled : ∃ c ∈ body, c ≠ '_') (scalar : (hexValue body).isValidChar)
  /-- A line break with blanks behind it. -/
  | lineBreak (blanks : List Char) (blank : ∀ c ∈ blanks, isBlank c = true)

namespace LiteralPiece

/-- The text of a piece. -/
def text : LiteralPiece → List Char
  | plain c _ _ => [c]
  | simple letter _ _ => ['\\', letter]
  | digits high low _ _ => ['\\', 'x', high, low]
  | braced body _ _ _ => '\\' :: 'u' :: '{' :: (body ++ ['}'])
  | lineBreak blanks _ => '\\' :: '\n' :: blanks

/-- The characters that a piece denotes. -/
def denoted : LiteralPiece → List Char
  | plain c _ _ => [c]
  | simple _ denoted _ => [denoted]
  | digits high low _ _ => [Char.ofNat (hexValue [high, low])]
  | braced body _ _ _ => [Char.ofNat (hexValue body)]
  | lineBreak _ _ => []

/-- A piece ends in front of a text: a line break takes along all the blanks behind it. -/
def EndsBefore : LiteralPiece → List Char → Prop
  | lineBreak _ _, text => ∀ b ∈ text.head?, isBlank b = false
  | _, _ => True

/-- A piece that denotes something ends in front of any text. -/
theorem endsBefore_of_denoted {piece : LiteralPiece} (notNil : piece.denoted ≠ [])
    (text : List Char) : piece.EndsBefore text := by
  cases piece with
  | lineBreak => exact absurd rfl notNil
  | _ => trivial

/-- Only the first character behind a piece matters to it. -/
theorem endsBefore_append (piece : LiteralPiece) {text back : List Char} (notNil : text ≠ []) :
    piece.EndsBefore (text ++ back) ↔ piece.EndsBefore text := by
  cases piece with
  | lineBreak =>
    rw [EndsBefore, EndsBefore, List.head?_append_of_ne_nil text notNil]
  | _ => exact Iff.rfl

private theorem text_ne_nil (piece : LiteralPiece) : piece.text ≠ [] := by
  cases piece <;> exact List.cons_ne_nil _ _

end LiteralPiece

/-! ### Reading pieces

Every law here has an arbitrary text behind the piece and says that reading goes on there.  The
value of a literal is then a fold of these laws over its pieces. -/

/-- A letter that stands for a character behind a backslash is read as that character. -/
theorem readEscape_letter {letter c : Char} (simple : simpleEscape? letter = some c)
    (back : List Char) : readEscape (letter :: back) = .ok ([c], 1) := by
  rw [readEscape.eq_4 letter back, simple]
  · rintro _ rfl -
    cases simple
  · rintro rfl
    cases simple
  · rintro rfl
    cases simple

/-- Two digits are read as the character of their number. -/
theorem readEscape_digits {high low : Char} (isHigh : (baseDigit? 16 high).isSome = true)
    (isLow : (baseDigit? 16 low).isSome = true) (back : List Char) :
    readEscape ('x' :: high :: low :: back) = .ok ([Char.ofNat (hexValue [high, low])], 3) := by
  have isDigit : ∀ c ∈ [high, low], (baseDigit? 16 c).isSome = true := by simp [isHigh, isLow]
  have plain : ∀ c ∈ [high, low], c ≠ '_' := by
    rintro c listed rfl
    have digit := isDigit '_' listed
    revert digit
    decide
  have number : readNumeral? 16 [high, low] = some (hexValue [high, low] : Int) := by
    have read := readNumeral?_hexDigits (fun c listed _ => isDigit c listed)
      ⟨high, List.mem_cons_self, plain high List.mem_cons_self⟩
    rwa [List.filter_eq_self.mpr fun c listed => bne_iff_ne.mpr (plain c listed)] at read
  have scalar : (hexValue [high, low]).isValidChar := by
    have bound : hexValue [high, low] < 16 ^ 2 := hexValue_lt [high, low]
    exact .inl (by omega)
  rw [readEscape.eq_2]
  dsimp only [List.take_succ_cons, List.take_zero]
  rw [number, escapedChar_of_isValidChar scalar]
  rfl

/-- A number between braces is read as its character. -/
theorem readEscape_braced {body : List Char}
    (digit : ∀ c ∈ body, c ≠ '_' → (baseDigit? 16 c).isSome = true)
    (filled : ∃ c ∈ body, c ≠ '_') (scalar : (hexValue body).isValidChar) (back : List Char) :
    readEscape ('u' :: '{' :: (body ++ '}' :: back)) =
      .ok ([Char.ofNat (hexValue body)], body.length + 3) := by
  have inside : ∀ c ∈ body, (c != '}') = true := by
    intro c listed
    refine bne_iff_ne.mpr ?_
    rintro rfl
    have isDigit := digit '}' listed (by decide)
    revert isDigit
    decide
  have run : (body ++ '}' :: back).takeWhile (· != '}') = body :=
    takeWhile_append_of_forall inside fun b first => by
      cases first
      rfl
  rw [readEscape.eq_1, run, readNumeral?_hexDigits digit filled,
    escapedChar_of_isValidChar scalar]

/-- A line break takes along the blanks behind it. -/
theorem readEscape_lineBreak {blanks back : List Char} (blank : ∀ c ∈ blanks, isBlank c = true)
    (ends : ∀ b ∈ back.head?, isBlank b = false) :
    readEscape ('\n' :: (blanks ++ back)) = .ok ([], blanks.length + 1) := by
  have run : ('\n' :: blanks ++ back).takeWhile isBlank = '\n' :: blanks :=
    takeWhile_append_of_forall (List.forall_mem_cons.mpr ⟨by decide, blank⟩) ends
  rw [readEscape.eq_3, ← List.cons_append, run, List.length_cons]

section Reading

variable {start here : Location} {back : List Char}

/-- Behind an escape, reading goes on. -/
theorem readString_escape {escape denoted : List Char}
    (read : readEscape (escape ++ back) = .ok (denoted, escape.length)) :
    readString start here ('\\' :: escape ++ back) =
      (fun read => (denoted ++ read.1, ('\\' :: escape).length + read.2)) <$>
        readString start (here.behind ('\\' :: escape)) back := by
  rw [List.cons_append, readString.eq_3, read]
  dsimp only
  rw [List.take_left, List.drop_left, ← Location.behind_cons, List.length_cons, Nat.add_comm 1]
  cases readString start (here.behind ('\\' :: escape)) back <;> rfl

/-- A piece is read where it ends, and reading goes on behind it.  What is behind matters to one
form only, a line break that is passed over with the blanks behind it. -/
theorem readString_piece {piece : LiteralPiece} (ends : piece.EndsBefore back) :
    readString start here (piece.text ++ back) =
      (fun read => (piece.denoted ++ read.1, piece.text.length + read.2)) <$>
        readString start (here.behind piece.text) back := by
  cases piece with
  | plain c notQuote notBackslash =>
    have step : readString start here (c :: back) = _ :=
      readString.eq_4 start here c back notQuote notBackslash
    refine step.trans ?_
    show _ = _ <$> readString start (here.next c) back
    cases readString start (here.next c) back <;> rfl
  | simple letter denoted listed =>
    have known : ∀ escape ∈ simpleEscapes, simpleEscape? escape.1 = some escape.2 := by decide
    exact readString_escape (readEscape_letter (known _ listed) back)
  | digits high low isHigh isLow =>
    exact readString_escape (readEscape_digits isHigh isLow back)
  | braced body digit filled scalar =>
    refine readString_escape ?_
    have read := readEscape_braced digit filled scalar back
    simpa [LiteralPiece.denoted] using read
  | lineBreak blanks blank =>
    exact readString_escape (readEscape_lineBreak blank ends)

/-- Pieces are read one behind the other, each where it ends.  The literal goes on with what is read
of the rest, from the location behind the pieces. -/
theorem readString_pieces {pieces : List LiteralPiece}
    (separate : pieces.IsChain fun first second => first.EndsBefore second.text)
    (ends : ∀ piece ∈ pieces.getLast?, piece.EndsBefore back) :
    readString start here (pieces.flatMap LiteralPiece.text ++ back) =
      (fun read => (pieces.flatMap LiteralPiece.denoted ++ read.1,
        (pieces.flatMap LiteralPiece.text).length + read.2)) <$>
        readString start (here.behind (pieces.flatMap LiteralPiece.text)) back := by
  induction pieces generalizing here with
  | nil =>
    rw [List.flatMap_nil, List.nil_append, Location.behind_nil]
    cases readString start here back with
    | error fault => rfl
    | ok read => simp
  | cons piece pieces ih =>
    obtain ⟨next, others⟩ := List.isChain_cons.mp separate
    -- a piece is ended by the next one, and the last piece by what is behind
    have firstEnds : piece.EndsBefore (pieces.flatMap LiteralPiece.text ++ back) := by
      cases pieces with
      | nil => exact ends piece rfl
      | cons second pieces =>
        rw [List.flatMap_cons, List.append_assoc]
        exact (piece.endsBefore_append second.text_ne_nil).mpr (next second rfl)
    have lastEnds : ∀ last ∈ pieces.getLast?, last.EndsBefore back := by
      intro last isLast
      refine ends last ?_
      rw [List.getLast?_cons, Option.mem_def.mp isLast]
      rfl
    rw [List.flatMap_cons, List.flatMap_cons, List.append_assoc, readString_piece firstEnds,
      ih others lastEnds, Location.behind_append, Functor.map_map]
    cases readString start _ back with
    | error fault => rfl
    | ok read => simp [Nat.add_assoc]

/-- Characters that are each written as a piece are read back in front of what comes behind them. -/
theorem readString_flatMap {write : Char → List Char} {text : List Char}
    (written : ∀ c ∈ text, ∃ piece : LiteralPiece, piece.text = write c ∧ piece.denoted = [c]) :
    readString start here (text.flatMap write ++ back) =
      (fun read => (text ++ read.1, (text.flatMap write).length + read.2)) <$>
        readString start (here.behind (text.flatMap write)) back := by
  obtain ⟨pieces, isText, isDenoted, filled⟩ : ∃ pieces : List LiteralPiece,
      pieces.flatMap LiteralPiece.text = text.flatMap write ∧
      pieces.flatMap LiteralPiece.denoted = text ∧ ∀ piece ∈ pieces, piece.denoted ≠ [] := by
    induction text with
    | nil => exact ⟨[], rfl, rfl, nofun⟩
    | cons c text ih =>
      obtain ⟨⟨piece, isFirst, isChar⟩, others⟩ := List.forall_mem_cons.mp written
      obtain ⟨pieces, isText, isDenoted, filled⟩ := ih others
      exact ⟨piece :: pieces, by simp [isFirst, isText], by simp [isChar, isDenoted],
        List.forall_mem_cons.mpr ⟨by simp [isChar], filled⟩⟩
  have separate : pieces.IsChain fun first second => first.EndsBefore second.text :=
    (List.pairwise_of_forall_mem_list fun first listed second _ =>
      LiteralPiece.endsBefore_of_denoted (filled first listed) second.text).isChain
  have read : readString start here (pieces.flatMap LiteralPiece.text ++ back) = _ :=
    readString_pieces separate fun piece last =>
      piece.endsBefore_of_denoted (filled piece (List.mem_of_getLast? last)) back
  rwa [isText, isDenoted] at read

end Reading

/-- A text that is a literal up to its end is the token of the literal. -/
theorem tokenize_literal {origin : Location} {body value : List Char}
    (read : ∀ start here, readString start here (body ++ ['"']) =
      (fun read => (value ++ read.1, body.length + read.2)) <$>
        readString start (here.behind body) ['"']) :
    tokenize origin (String.ofList ('"' :: (body ++ ['"']))) =
      .ok ⟨[⟨.string, String.ofList value, origin⟩], origin.behind ('"' :: (body ++ ['"']))⟩ := by
  have closed (here : Location) : readString origin here ['"'] = .ok ([], 1) :=
    readString.eq_2 origin here []
  refine tokenize_lexeme (ScanStep.readLexeme_eq (.string ?_))
  rw [read, closed, List.length_append]
  show Except.ok (value ++ [], _) = _
  rw [List.append_nil]
  rfl

/-- **A literal in pieces is the token of what they denote.**  Whatever the pieces between the
quotes of a literal are, the text is a single token, and its value is what they denote, one behind
the other.  Only behind a line break the next piece must not begin with a blank. -/
theorem tokenize_pieces (origin : Location) {pieces : List LiteralPiece}
    (separate : pieces.IsChain fun first second => first.EndsBefore second.text) :
    tokenize origin (String.ofList ('"' :: (pieces.flatMap LiteralPiece.text ++ ['"']))) =
      .ok ⟨[⟨.string, String.ofList (pieces.flatMap LiteralPiece.denoted), origin⟩],
        origin.behind ('"' :: (pieces.flatMap LiteralPiece.text ++ ['"']))⟩ := by
  refine tokenize_literal fun start here => readString_pieces separate fun piece _ => ?_
  cases piece with
  | lineBreak =>
    intro b first
    cases first
    decide
  | _ => trivial

/-- A literal with pieces of every form, two line breaks in a row among them. -/
theorem tokenize_pieces_forms :
    tokenize .start "\"a\\n\\x4A\\u\x7b1_F600\x7d\\\n \t\\\n\\u\x7b41\x7db\"" =
      .ok ⟨[⟨.string, "a\nJ😀Ab", .start⟩], ⟨3, 9⟩⟩ := by
  let pieces : List LiteralPiece :=
    [.plain 'a' (by decide) (by decide), .simple 'n' '\n' (by decide),
      .digits '4' 'A' (by decide) (by decide),
      .braced ['1', '_', 'F', '6', '0', '0'] (forall_mem_of_all (by decide))
        ⟨'1', List.mem_cons_self, by decide⟩ (by decide),
      .lineBreak [' ', '\t'] (forall_mem_of_all (by decide)), .lineBreak [] nofun,
      .braced ['4', '1'] (forall_mem_of_all (by decide)) ⟨'4', List.mem_cons_self, by decide⟩
        (by decide),
      .plain 'b' (by decide) (by decide)]
  have separate : pieces.IsChain fun first second => first.EndsBefore second.text := by
    simp [pieces, LiteralPiece.EndsBefore, LiteralPiece.text]
    decide
  have text : '"' :: (pieces.flatMap LiteralPiece.text ++ ['"']) =
      "\"a\\n\\x4A\\u\x7b1_F600\x7d\\\n \t\\\n\\u\x7b41\x7db\"".toList := by decide
  have denoted : pieces.flatMap LiteralPiece.denoted = "a\nJ😀Ab".toList := by decide
  have read := tokenize_pieces .start separate
  rw [text, denoted, String.ofList_toList, String.ofList_toList] at read
  exact read

end OpenResponse
