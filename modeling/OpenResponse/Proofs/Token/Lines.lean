import OpenResponse.Proofs.Outcome
import OpenResponse.Proofs.Token.RawValues
import OpenResponse.Proofs.Token.Text

/-!
# Texts in front of a closing character

A line feed ends whatever lexeme stands in front of it, but for literals and block comments, which
have an end of their own.  A closing parenthesis ends the same lexemes except a line comment, which
goes on over it.  A text that can be scanned is therefore cut into the same tokens when one of them
and more text follow, and scanning goes on behind it as if nothing stood in front.

The proof is about single steps.  A step in front of a closing character has the form that it has
without it, and takes as many characters, because each run of characters that a step looks for ends
at the closing character at the latest, and each literal or comment that is closed is closed before
it.  Scanning the longer text therefore takes the same steps until it stands in front of the closing
character, and from there on it does not look back.

## Main definitions

* `closers` — the line feed and the closing parenthesis
* `EndsInComment` — texts that end inside a line comment

## Main statements

* `readLexeme_append` — one step of scanning in front of a closing character
* `scan_append` — **a text, a closing character, and more text**
* `tokenize_lines` — **a text, a line feed, and more text**

## Hypotheses

A line comment is the one form that does look different in front of a parenthesis.  `Closes`
excludes it: a line feed closes every text, a parenthesis only those that do not end inside a
comment.  The text in front has to be one that can be scanned, or else an open literal would go on
over the closing character; nothing is asked of the text behind, whose faults are faults of the
whole.
-/

namespace OpenResponse

/-! ### Runs of characters -/

section Runs

variable {p : Char → Bool}

/-- A run of characters that ends inside a text ends there whatever follows the text. -/
theorem takeWhile_append_of_lt {text : List Char} (ends : (text.takeWhile p).length < text.length)
    (more : List Char) : (text ++ more).takeWhile p = text.takeWhile p := by
  induction text with
  | nil => cases ends
  | cons c rest ih =>
    rw [List.cons_append, List.takeWhile_cons, List.takeWhile_cons]
    rw [List.takeWhile_cons] at ends
    split
    · next holds =>
      rw [if_pos holds, List.length_cons, List.length_cons] at ends
      rw [ih (by omega)]
    · rfl

/-- A run of characters does not go on into a text that begins with another character. -/
theorem takeWhile_append_of_head {back : List Char} (stops : ∀ b ∈ back.head?, p b = false)
    (text : List Char) : (text ++ back).takeWhile p = text.takeWhile p := by
  induction text with
  | nil =>
    cases back with
    | nil => rfl
    | cons b back =>
      have other : p b = false := stops b rfl
      rw [List.nil_append, List.takeWhile_cons, other]
      rfl
  | cons c rest ih =>
    rw [List.cons_append, List.takeWhile_cons, List.takeWhile_cons, ih]

/-- A run of characters that a text with another character follows is the run itself. -/
theorem takeWhile_append_of_forall {text back : List Char} (all : ∀ c ∈ text, p c = true)
    (stops : ∀ b ∈ back.head?, p b = false) : (text ++ back).takeWhile p = text := by
  rw [List.takeWhile_append_of_pos all, ← List.nil_append back,
    takeWhile_append_of_head stops, List.takeWhile_nil, List.append_nil]

private theorem length_takeWhile_le (text : List Char) : (text.takeWhile p).length ≤ text.length :=
  (List.takeWhile_sublist p).length_le

end Runs

/-! ### Literals and comments with an end of their own

These forms are read to a mark of their own and so may hold the closing character.  What they need
is that the mark is found inside the text: then what follows the text is never looked at. -/

/-- An escape that ends inside a text means the same whatever follows the text. -/
theorem readEscape_append {text denoted : List Char} {used : Nat}
    (read : readEscape text = .ok (denoted, used)) (ends : used < text.length) (more : List Char) :
    readEscape (text ++ more) = .ok (denoted, used) := by
  -- each form of escape ends inside of the text, so what it looks at is the same with more behind
  unfold readEscape at read
  split at read
  next rest =>
    dsimp only at read
    split at read
    next c escaped =>
      cases read
      have inside : (rest.takeWhile (· != '}')).length < rest.length := by
        simp only [List.length_cons] at ends
        omega
      rw [List.cons_append, List.cons_append, readEscape.eq_1, takeWhile_append_of_lt inside,
        escaped]
    next => cases read
  next rest =>
    dsimp only at read
    split at read
    next c escaped =>
      cases read
      have inside : 2 ≤ rest.length := by
        simp only [List.length_cons, List.length_take] at ends
        omega
      rw [List.cons_append, readEscape.eq_2, List.take_append_of_le_length inside, escaped]
    next => cases read
  next rest =>
    cases read
    rw [List.cons_append, readEscape.eq_3, ← List.cons_append, takeWhile_append_of_lt ends]
  next c rest _ notHex notFeed =>
    split at read
    next simple =>
      cases read
      -- the letter of an escape with braces has no simple meaning
      have notUnicode : ∀ tail, c = 'u' → rest ++ more = '{' :: tail → False := by
        rintro _ rfl -
        cases simple
      rw [List.cons_append, readEscape.eq_4 c _ notUnicode notHex notFeed, simple]
    next => cases read
  next => cases read

/-- A string literal ends inside its text, and means the same whatever follows. -/
theorem readString_append {start here : Location} {text value : List Char} {used : Nat}
    (read : readString start here text = .ok (value, used)) (more : List Char) :
    used ≤ text.length ∧ readString start here (text ++ more) = .ok (value, used) := by
  generalize size : text.length = n
  induction n using Nat.strongRecOn generalizing here text value used with
  | _ n ih =>
    subst size
    rcases text with _ | ⟨c, rest⟩
    · rw [readString.eq_1] at read
      cases read
    by_cases isQuote : c = '"'
    · subst isQuote
      rw [readString.eq_2] at read
      cases read
      exact ⟨Nat.le_add_left 1 _, readString.eq_2 ..⟩
    by_cases isBackslash : c = '\\'
    · subst isBackslash
      rw [readString.eq_3] at read
      rw [List.cons_append, readString.eq_3]
      split at read
      next => cases read
      next denoted taken escape =>
        split at read
        next => cases read
        next others used readRest =>
          cases read
          -- the closing quote stands behind the escape
          have ends : taken < rest.length := by
            refine Nat.lt_of_not_le fun outside => ?_
            rw [List.drop_eq_nil_of_le outside, readString.eq_1] at readRest
            cases readRest
          obtain ⟨short, readMore⟩ := ih (rest.drop taken).length
            (by rw [List.length_drop, List.length_cons]; omega) readRest rfl
          refine ⟨?_, ?_⟩
          · rw [List.length_drop] at short
            rw [List.length_cons]
            omega
          · rw [readEscape_append escape ends more]
            dsimp only
            rw [List.take_append_of_le_length (Nat.le_of_lt ends),
              List.drop_append_of_le_length (Nat.le_of_lt ends), readMore]
    · rw [readString.eq_4 _ _ _ _ isQuote isBackslash] at read
      rw [List.cons_append, readString.eq_4 _ _ _ _ isQuote isBackslash]
      split at read
      next => cases read
      next others used readRest =>
        cases read
        obtain ⟨short, readMore⟩ := ih rest.length (Nat.lt_succ_self _) readRest rfl
        rw [readMore]
        exact ⟨by rw [List.length_cons]; omega, rfl⟩

/-- A comment holds the closing mark behind its first character, or begins with it. -/
theorem not_infix_closing_cons {c : Char} {comment : List Char} :
    (¬ ['*', '/'] <:+: c :: comment ++ ['*']) ↔
      (¬ ['*', '/'] <:+: comment ++ ['*']) ∧ ¬ (c = '*' ∧ comment.head? = some '/') := by
  rw [List.cons_append, List.infix_cons_iff, not_or, and_comm, List.cons_prefix_cons]
  refine and_congr_right fun _ => not_congr (and_congr eq_comm ?_)
  cases comment with
  | nil => decide
  | cons d comment => simp [List.cons_prefix_cons, eq_comm]

/-- A block comment reaches to the first closing mark of the text. -/
theorem commentExtent?_eq_some_iff {text : List Char} {extent : Nat} :
    commentExtent? text = some extent ↔
      ∃ comment back, (¬ ['*', '/'] <:+: comment ++ ['*']) ∧
        text = comment ++ '*' :: '/' :: back ∧ extent = comment.length + 2 := by
  induction text generalizing extent with
  | nil => simp [commentExtent?]
  | cons c rest ih =>
    by_cases ends : c = '*' ∧ rest.head? = some '/'
    · obtain ⟨rfl, slash⟩ := ends
      obtain ⟨tail, rfl⟩ := List.head?_eq_some_iff.mp slash
      rw [commentExtent?.eq_2]
      constructor
      · rintro ⟨⟩
        exact ⟨[], tail, by decide, rfl, rfl⟩
      · rintro ⟨comment, back, unclosed, same, rfl⟩
        -- a longer comment would hold the mark that the text begins with
        cases comment with
        | nil => rfl
        | cons d comment =>
          obtain ⟨rfl, behind⟩ := List.cons.inj same
          refine absurd ⟨rfl, ?_⟩ (not_infix_closing_cons.mp unclosed).2
          cases comment with
          | nil => cases behind
          | cons e comment =>
            cases behind
            rfl
    · have goesOn : ∀ tail, c = '*' → rest = '/' :: tail → False := by
        rintro tail isStar rfl
        exact ends ⟨isStar, rfl⟩
      rw [commentExtent?.eq_3 _ _ goesOn, Option.map_eq_some_iff]
      constructor
      · rintro ⟨others, closed, rfl⟩
        obtain ⟨comment, back, unclosed, rfl, rfl⟩ := ih.mp closed
        refine ⟨c :: comment, back, not_infix_closing_cons.mpr ⟨unclosed, fun both => ?_⟩, rfl, rfl⟩
        refine ends ⟨both.1, ?_⟩
        rw [List.head?_append, both.2]
        rfl
      · rintro ⟨comment, back, unclosed, same, rfl⟩
        cases comment with
        | nil =>
          cases same
          exact absurd rfl (goesOn back rfl)
        | cons d comment =>
          obtain ⟨rfl, rfl⟩ := List.cons.inj same
          exact ⟨_, ih.mpr ⟨comment, back, (not_infix_closing_cons.mp unclosed).1, rfl, rfl⟩, rfl⟩

/-- A block comment ends inside its text whatever follows. -/
theorem commentExtent?_append {text : List Char} {extent : Nat}
    (closed : commentExtent? text = some extent) (more : List Char) :
    extent ≤ text.length ∧ commentExtent? (text ++ more) = some extent := by
  obtain ⟨comment, back, unclosed, rfl, rfl⟩ := commentExtent?_eq_some_iff.mp closed
  refine ⟨?_, commentExtent?_eq_some_iff.mpr ⟨comment, back ++ more, unclosed, by simp, rfl⟩⟩
  simp only [List.length_append, List.length_cons]
  omega

/-! ### Numbers -/

/-- A text that begins with the mark of a base. -/
def BeginsBase (text : List Char) : Prop :=
  ∃ letter ∈ ['x', 'o', 'b'], ∃ rest, text = '0' :: letter :: rest

/-- Behind the mark of a base the whole name belongs to the number. -/
theorem numberExtent_of_base {letter : Char} (isLetter : letter ∈ ['x', 'o', 'b'])
    (rest : List Char) :
    numberExtent ('0' :: letter :: rest) = (.integer, 2 + nameRun rest) := by
  rcases List.mem_cons.mp isLetter with rfl | more
  · rfl
  rcases List.mem_cons.mp more with rfl | last
  · rfl
  · rw [List.mem_singleton.mp last]
    rfl

/-- The fraction, the exponent and the suffix of a number begin one behind the other. -/
theorem numberExtent_of_not {text : List Char} (decimal : ¬ BeginsBase text) :
    numberExtent text =
      let whole := digitRun text
      let fraction := fractionRun (text.drop whole)
      let exponent := exponentRun (text.drop (whole + fraction))
      let suffix := nameRun (text.drop (whole + fraction + exponent))
      (if fraction + exponent = 0 then .integer else .float,
        whole + fraction + exponent + suffix) :=
  numberExtent.eq_4 text (fun rest same => decimal ⟨'x', by decide, rest, same⟩)
    (fun rest same => decimal ⟨'o', by decide, rest, same⟩)
    fun rest same => decimal ⟨'b', by decide, rest, same⟩

/-! ### Lexemes that a closing character ends

Names and numbers have no mark at their end.  They go on as long as characters of a kind follow, and
neither closing character is of any of these kinds. -/

/-- The characters in front of which lexemes end.  No name and no number goes on over one of them,
so putting one behind a text does not change how the text is read. -/
def closers : List Char := ['\n', ')']

section Closers

variable {b : Char} (closer : b ∈ closers) (text back : List Char)

include closer

private theorem eq_lineFeed_or_eq_paren : b = '\n' ∨ b = ')' := by
  simpa [closers] using closer

private theorem not_continuesName_of_closer : continuesName b = false := by
  rcases eq_lineFeed_or_eq_paren closer with rfl | rfl <;> decide

private theorem not_isDigit_of_closer : isDigit b = false := by
  rcases eq_lineFeed_or_eq_paren closer with rfl | rfl <;> decide

private theorem ne_of_closer {c : Char} (other : c ∉ closers) : b ≠ c := by
  rintro rfl
  exact other closer

omit closer in
/-- A run of characters ends at a character that is not among them. -/
theorem takeWhile_append_cons {p : Char → Bool} (stops : p b = false) :
    (text ++ b :: back).takeWhile p = text.takeWhile p :=
  takeWhile_append_of_head (fun b same => by cases same; exact stops) text

private theorem head?_append_closer {c : Char} (other : c ∉ closers) :
    (text ++ b :: back).head? = some c ↔ text.head? = some c := by
  cases text with
  | nil => simp [ne_of_closer closer other]
  | cons d rest => rfl

private theorem nameRun_append : nameRun (text ++ b :: back) = nameRun text := by
  rw [nameRun, takeWhile_append_cons text back (not_continuesName_of_closer closer), nameRun]

private theorem digitRun_append : digitRun (text ++ b :: back) = digitRun text := by
  rw [digitRun, takeWhile_append_cons text back, digitRun]
  rw [not_isDigit_of_closer closer, Bool.or_false, beq_eq_false_iff_ne]
  exact ne_of_closer closer (by decide)

omit closer in
private theorem digitRun_le : digitRun text ≤ text.length := length_takeWhile_le text

omit closer in
private theorem nameRun_le : nameRun text ≤ text.length := length_takeWhile_le text

omit closer in
private theorem any_head?_append_cons {p : Char → Bool} (stops : p b = false) :
    (text ++ b :: back).head?.any p = text.head?.any p := by
  cases text with
  | nil => exact stops
  | cons d rest => rfl

/-- A fraction ends inside its text. -/
theorem fractionRun_append :
    fractionRun text ≤ text.length ∧ fractionRun (text ++ b :: back) = fractionRun text := by
  rcases text with _ | ⟨c, rest⟩
  · exact ⟨Nat.zero_le _, fractionRun.eq_2 _ fun _ _ same =>
      ne_of_closer closer (by decide) (List.cons.inj same).1⟩
  by_cases isPoint : c = '.'
  · subst isPoint
    rcases rest with _ | ⟨d, rest⟩
    · refine ⟨Nat.zero_le _, ?_⟩
      rw [List.singleton_append, fractionRun, not_isDigit_of_closer closer]
      rfl
    · rw [List.cons_append, List.cons_append, fractionRun, fractionRun, ← List.cons_append,
        digitRun_append closer]
      have short := digitRun_le (d :: rest)
      refine ⟨?_, rfl⟩
      split
      · rw [List.length_cons]
        omega
      · exact Nat.zero_le _
  · have noFraction (tail : List Char) : fractionRun (c :: tail) = 0 :=
      fractionRun.eq_2 _ fun _ _ same => isPoint (List.cons.inj same).1
    rw [List.cons_append, noFraction, noFraction]
    exact ⟨Nat.zero_le _, rfl⟩

/-- An exponent ends inside its text. -/
theorem exponentRun_append :
    exponentRun text ≤ text.length ∧ exponentRun (text ++ b :: back) = exponentRun text := by
  -- with fewer than two characters the run would have to go over the closing one
  rcases text with _ | ⟨letter, _ | ⟨c, rest⟩⟩
  · refine ⟨Nat.zero_le _, ?_⟩
    cases back with
    | nil => rfl
    | cons c back =>
      refine if_neg ?_
      rintro (same | same) <;> exact ne_of_closer closer (by decide) same
  · refine ⟨Nat.zero_le _, ?_⟩
    have noSign : ¬ (b = '+' ∨ b = '-') := by
      rintro (same | same) <;> exact ne_of_closer closer (by decide) same
    rw [List.singleton_append, exponentRun, not_isDigit_of_closer closer]
    simp [exponentRun, noSign]
  · rw [List.cons_append, List.cons_append, exponentRun, exponentRun, digitRun_append closer,
      any_head?_append_cons rest back (not_isDigit_of_closer closer)]
    have short := digitRun_le rest
    refine ⟨?_, rfl⟩
    simp only [List.length_cons]
    split
    · split
      · omega
      · split
        · omega
        · exact Nat.zero_le _
    · exact Nat.zero_le _

/-- A number ends inside its text. -/
theorem numberExtent_append :
    (numberExtent text).2 ≤ text.length ∧
      numberExtent (text ++ b :: back) = numberExtent text := by
  by_cases based : BeginsBase text
  · obtain ⟨letter, isLetter, rest, rfl⟩ := based
    have short := nameRun_le rest
    rw [List.cons_append, List.cons_append, numberExtent_of_base isLetter,
      numberExtent_of_base isLetter, nameRun_append closer]
    refine ⟨?_, rfl⟩
    simp only [List.length_cons]
    omega
  have stillNot : ¬ BeginsBase (text ++ b :: back) := by
    rintro ⟨letter, isLetter, rest, same⟩
    rcases text with _ | ⟨c, _ | ⟨d, tail⟩⟩
    · exact ne_of_closer closer (by decide) (List.cons.inj same).1
    · cases same
      revert isLetter
      rcases eq_lineFeed_or_eq_paren closer with rfl | rfl <;> decide
    · cases same
      exact based ⟨letter, isLetter, tail, rfl⟩
  rw [numberExtent_of_not based, numberExtent_of_not stillNot, digitRun_append closer]
  dsimp only
  -- each part begins inside the text, so that the closer stands behind what is left for it
  have wholeShort := digitRun_le text
  rw [List.drop_append_of_le_length wholeShort]
  obtain ⟨fractionShort, fractionSame⟩ := fractionRun_append closer (text.drop (digitRun text)) back
  rw [fractionSame]
  rw [List.length_drop] at fractionShort
  generalize fractionRun (text.drop (digitRun text)) = fraction at *
  have fractionEnds : digitRun text + fraction ≤ text.length := by omega
  rw [List.drop_append_of_le_length fractionEnds]
  obtain ⟨exponentShort, exponentSame⟩ :=
    exponentRun_append closer (text.drop (digitRun text + fraction)) back
  rw [exponentSame]
  rw [List.length_drop] at exponentShort
  generalize exponentRun (text.drop (digitRun text + fraction)) = exponent at *
  have exponentEnds : digitRun text + fraction + exponent ≤ text.length := by omega
  rw [List.drop_append_of_le_length exponentEnds, nameRun_append closer]
  have suffixShort := nameRun_le (text.drop (digitRun text + fraction + exponent))
  rw [List.length_drop] at suffixShort
  exact ⟨by omega, rfl⟩

/-! ### Raw literals -/

private theorem readRawString_append {start : Location} {text value : List Char} {used : Nat}
    (read : readRawString start text = .ok (value, used)) (back : List Char) :
    used ≤ text.length ∧ readRawString start (text ++ b :: back) = .ok (value, used) := by
  have hashesShort := length_takeWhile_le (p := (· == '#')) text
  have notHash : (b == '#') = false := beq_eq_false_iff_ne.mpr (ne_of_closer closer (by decide))
  rw [readRawString] at read ⊢
  rw [takeWhile_append_cons (p := (· == '#')) text back notHash,
    List.drop_append_of_le_length hashesShort]
  generalize (text.takeWhile (· == '#')).length = hashes at *
  split at read
  next rest behind =>
    have whole : hashes + (rest.length + 1) = text.length := by
      have := congrArg List.length behind
      rw [List.length_drop, List.length_cons] at this
      omega
    rw [behind]
    split at read
    next value found =>
      cases read
      obtain ⟨short, foundMore⟩ := rawValue?_append found (b :: back)
      refine ⟨by omega, ?_⟩
      simp only [List.cons_append, foundMore]
    next => cases read
  next => cases read

private theorem beginsRawString_append :
    beginsRawString (text ++ b :: back) = beginsRawString text := by
  rcases text with _ | ⟨c, rest⟩
  · rcases eq_lineFeed_or_eq_paren closer with rfl | rfl <;> rfl
  by_cases isQuote : c = '"'
  · subst isQuote
    rfl
  by_cases isHash : c = '#'
  · subst isHash
    rcases rest with _ | ⟨d, rest⟩
    · rcases eq_lineFeed_or_eq_paren closer with rfl | rfl <;> rfl
    by_cases second : d = '"' ∨ d = '#'
    · rcases second with rfl | rfl <;> rfl
    · have neither (tail : List Char) : beginsRawString ('#' :: d :: tail) = false :=
        beginsRawString.eq_4 _ (fun _ same => by cases same)
          (fun _ same => by cases same; exact second (.inl rfl))
          fun _ same => by cases same; exact second (.inr rfl)
      rw [List.cons_append, List.cons_append, neither, neither]
  · have neither (tail : List Char) : beginsRawString (c :: tail) = false :=
      beginsRawString.eq_4 _ (fun _ same => by cases same; exact isQuote rfl)
        (fun _ same => by cases same; exact isHash rfl)
        fun _ same => by cases same; exact isHash rfl
    rw [List.cons_append, neither, neither]

private theorem rawName?_append : rawName? (text ++ b :: back) = rawName? text := by
  rcases text with _ | ⟨c, rest⟩
  · exact rawName?.eq_2 _ fun _ _ same => ne_of_closer closer (by decide) (List.cons.inj same).1
  by_cases isHash : c = '#'
  · subst isHash
    rcases rest with _ | ⟨d, rest⟩
    · rw [List.singleton_append, rawName?]
      refine if_neg fun begins => ?_
      have continues := not_continuesName_of_closer closer
      rw [continuesName_of_beginsName begins] at continues
      cases continues
    · rw [List.cons_append, List.cons_append, rawName?, rawName?,
        takeWhile_append_cons rest back (not_continuesName_of_closer closer)]
  · have noName (tail : List Char) : rawName? (c :: tail) = none :=
      rawName?.eq_2 _ fun _ _ same => by cases same; exact isHash rfl
    rw [List.cons_append, noName, noName]

end Closers

/-! ### Steps

What a step does in front of the closing character is stated for outcomes that are lexemes only: a
step that fails on the text alone, such as an open literal, may succeed with more behind it. -/

/-- A step that stays within a text of a length and is the same when the text goes on. -/
def StaysWithin (length : Nat) (step other : Except Fault Lexeme) : Prop :=
  ∀ lexeme, step = .ok lexeme → lexeme.more ≤ length ∧ other = .ok lexeme

/-- Texts that end inside a line comment.  What is put behind such a text belongs to the comment, up
to the next line break. -/
inductive EndsInComment : List Char → Prop
  | comment {text : List Char} (inLine : '\n' ∉ text) : EndsInComment ('/' :: '/' :: text)
  /-- The comment begins behind the first lexeme. -/
  | behind {here : Location} {c : Char} {rest : List Char} {lexeme : Lexeme}
      (read : readLexeme here c rest = .ok lexeme)
      (ends : EndsInComment (rest.drop lexeme.more)) : EndsInComment (c :: rest)

/-- A text without a slash does not end inside a comment. -/
theorem not_endsInComment {text : List Char} (noSlash : '/' ∉ text) : ¬ EndsInComment text := by
  intro ends
  induction ends with
  | comment => exact noSlash List.mem_cons_self
  | behind _ _ ih =>
    exact ih fun listed => noSlash (List.mem_cons_of_mem _ (List.mem_of_mem_drop listed))

/-- What closes a text: a line feed, or a parenthesis unless the text ends inside a comment. -/
def Closes (b : Char) (text : List Char) : Prop := b ∈ closers ∧ (b = '\n' ∨ ¬ EndsInComment text)

theorem Closes.lineFeed (text : List Char) : Closes '\n' text := ⟨by decide, .inl rfl⟩

theorem Closes.paren {text : List Char} (closed : ¬ EndsInComment text) : Closes ')' text :=
  ⟨by decide, .inr closed⟩

/-- What closes a text closes what stands behind its first lexeme. -/
theorem Closes.behind {b c : Char} {rest : List Char} {here : Location} {lexeme : Lexeme}
    (closes : Closes b (c :: rest)) (read : readLexeme here c rest = .ok lexeme) :
    Closes b (rest.drop lexeme.more) :=
  ⟨closes.1, closes.2.imp_right fun endsBefore ends => endsBefore (.behind read ends)⟩

/-- One step of scanning in front of a closing character takes what it would take without it. -/
theorem readLexeme_append {b c : Char} {rest : List Char} (closes : Closes b (c :: rest))
    (here : Location) (back : List Char) :
    StaysWithin rest.length (readLexeme here c rest) (readLexeme here c (rest ++ b :: back)) := by
  obtain ⟨closer, ends⟩ := closes
  have stops := not_continuesName_of_closer closer
  intro lexeme step
  -- in front of more text the step has the same form, which ends where it did
  cases readLexeme_eq_iff.mp step with
  | blank isBlank => exact ⟨Nat.zero_le _, (ScanStep.blank isBlank).readLexeme_eq⟩
  | lineComment text =>
    have run : (text ++ b :: back).takeWhile (· != '\n') = text.takeWhile (· != '\n') := by
      rcases ends with rfl | endsBefore
      · exact takeWhile_append_cons text back (by decide)
      · refine takeWhile_append_of_lt (Nat.lt_of_not_le fun whole => endsBefore ?_) _
        have all := List.all_takeWhile (p := (· != '\n')) (l := text)
        rw [(List.takeWhile_prefix _).eq_of_length_le whole, List.all_eq_true] at all
        exact .comment fun feed => absurd (all '\n' feed) (by decide)
    have longer := @ScanStep.lineComment here (text ++ b :: back)
    rw [run] at longer
    exact ⟨Nat.succ_le_succ (length_takeWhile_le text), longer.readLexeme_eq⟩
  | blockComment closed =>
    obtain ⟨short, closedMore⟩ := commentExtent?_append closed (b :: back)
    exact ⟨Nat.succ_le_succ short, (ScanStep.blockComment closedMore).readLexeme_eq⟩
  | string read =>
    obtain ⟨short, readMore⟩ := readString_append read (b :: back)
    exact ⟨short, (ScanStep.string readMore).readLexeme_eq⟩
  | rawString begins read =>
    obtain ⟨short, readMore⟩ := readRawString_append closer read back
    rw [← beginsRawString_append closer rest back] at begins
    exact ⟨short, (ScanStep.rawString begins readMore).readLexeme_eq⟩
  | @rawName first tail begins =>
    have longer := @ScanStep.rawName here first (tail ++ b :: back) begins
    rw [nameRun_append closer, takeWhile_append_cons tail back stops] at longer
    exact ⟨Nat.add_le_add_right (nameRun_le tail) 2, longer.readLexeme_eq⟩
  | name begins plain =>
    rw [← beginsRawString_append closer rest back, ← rawName?_append closer rest back] at plain
    have longer := @ScanStep.name here c (rest ++ b :: back) begins plain
    rw [nameRun_append closer, takeWhile_append_cons rest back stops] at longer
    exact ⟨nameRun_le rest, longer.readLexeme_eq⟩
  | @number _ _ kind length digit extent =>
    obtain ⟨short, sameExtent⟩ := numberExtent_append closer (c :: rest) back
    rw [extent] at short sameExtent
    have longer := @ScanStep.number here c (rest ++ b :: back) kind length digit sameExtent
    rw [← List.cons_append, List.take_append_of_le_length short] at longer
    exact ⟨Nat.sub_le_of_le_add short, longer.readLexeme_eq⟩
  | lifetime named =>
    rw [← takeWhile_append_cons rest back stops] at named
    have longer := @ScanStep.lifetime here (rest ++ b :: back) named
    rw [takeWhile_append_cons rest back stops] at longer
    exact ⟨length_takeWhile_le rest, longer.readLexeme_eq⟩
  | separator text =>
    exact ⟨Nat.succ_le_succ (Nat.zero_le _), (ScanStep.separator _).readLexeme_eq⟩
  | colon single =>
    rw [ne_eq, ← head?_append_closer closer rest back (by decide)] at single
    exact ⟨Nat.zero_le _, (ScanStep.colon single).readLexeme_eq⟩
  | mark isMark => exact ⟨Nat.zero_le _, (ScanStep.mark isMark).readLexeme_eq⟩

/-! ### Texts -/

/-- **A text, a closing character, and more text.**  The tokens in front of the closing character
are those of the text alone, and the others are read as if nothing stood in front. -/
theorem scan_append {here : Location} {front : List Char} {tokens : List Token} {b : Char}
    (scanned : scan here front = .ok tokens) (closes : Closes b front) (back : List Char) :
    scan here (front ++ b :: back) =
      (tokens ++ ·) <$> scan (here.behind front) (b :: back) := by
  generalize size : front.length = n
  induction n using Nat.strongRecOn generalizing here front tokens with
  | _ n ih =>
    subst size
    cases front with
    | nil =>
      rw [scan] at scanned
      cases scanned
      rw [List.nil_append, Location.behind_nil]
      cases scan here (b :: back) <;> rfl
    | cons c rest =>
      obtain ⟨lexeme, others, read, scannedRest, rfl⟩ := scan_cons_eq_ok.mp scanned
      obtain ⟨short, readMore⟩ := readLexeme_append closes here back lexeme read
      rw [List.cons_append, scan_cons readMore, List.take_append_of_le_length short,
        List.drop_append_of_le_length short]
      rw [ih (rest.drop lexeme.more).length (by rw [List.length_drop, List.length_cons]; omega)
        scannedRest (closes.behind read) rfl]
      -- the place behind the text is the place behind its first lexeme and the rest
      rw [← Location.behind_append, List.take_append_drop, ← Location.behind_cons]
      cases scan (here.behind (c :: rest)) (b :: back) with
      | error fault => rfl
      | ok more => exact congrArg Except.ok (List.append_assoc ..).symm

/-- A line feed makes no token. -/
theorem scan_lineFeed (here : Location) (text : List Char) :
    scan here ('\n' :: text) = scan (here.next '\n') text := by
  have read : readLexeme here '\n' text = .ok ⟨0, none⟩ := if_pos (by decide)
  rw [scan_cons read]
  dsimp only
  rw [List.take_zero, List.drop_zero, Location.behind_nil]
  cases scan (here.next '\n') text <;> rfl

/-- The tokens of a text are those that scanning finds, up to the place where the text ends. -/
theorem tokenize_eq_ok {origin : Location} {text : String} {stream : TokenStream} :
    tokenize origin text = .ok stream ↔
      scan origin text.toList = .ok stream.tokens ∧ stream.finish = origin.behind text.toList := by
  obtain ⟨tokens, finish⟩ := stream
  rw [tokenize]
  cases scan origin text.toList with
  | error fault => simp
  | ok others => simp [eq_comm]

/-- **A text, a line feed, and more text.**  The tokens are those of the first text without the end
of the input, and then those of the second text, which begins on the line behind the end of the
first; and a fault in the second text is the fault of the whole. -/
theorem tokenize_lines {origin : Location} {front : String} {stream : TokenStream}
    (read : tokenize origin front = .ok stream) (back : String) :
    TokenStream.listed <$> tokenize origin (front ++ "\n" ++ back) =
      (stream.listed.dropLast ++ ·.listed) <$> tokenize ⟨stream.finish.line + 1, 1⟩ back := by
  obtain ⟨scanned, ended⟩ := tokenize_eq_ok.mp read
  have lines : (front ++ "\n" ++ back).toList = front.toList ++ '\n' :: back.toList := by simp
  have begins : (origin.behind front.toList).next '\n' = ⟨stream.finish.line + 1, 1⟩ := by
    rw [ended]
    rfl
  -- the end of the whole text is the end of the second one
  have finish : origin.behind (front.toList ++ '\n' :: back.toList) =
      Location.behind ⟨stream.finish.line + 1, 1⟩ back.toList := by
    rw [Location.behind_append, Location.behind_cons, begins]
  rw [tokenize, tokenize, lines, scan_append scanned (.lineFeed _), scan_lineFeed, begins, finish,
    TokenStream.dropLast_listed]
  cases scan ⟨stream.finish.line + 1, 1⟩ back.toList with
  | error fault => rfl
  | ok more => exact congrArg Except.ok (List.append_assoc ..)

/-- A text that ends inside a comment, and a raw literal on the line behind it. -/
theorem tokenize_lines_comment :
    ∃ stream, tokenize .start "status = 200 // `ok`" = .ok stream ∧
      TokenStream.listed <$> tokenize .start ("status = 200 // `ok`" ++ "\n" ++ ", r#\"a\"#") =
        (stream.listed.dropLast ++ ·.listed) <$>
          tokenize ⟨stream.finish.line + 1, 1⟩ ", r#\"a\"#" := by
  have read : (tokenize .start "status = 200 // `ok`").isOk = true := by decide +kernel
  obtain ⟨stream, scanned⟩ := exists_of_isOk read
  exact ⟨stream, scanned, tokenize_lines scanned _⟩

end OpenResponse
