import OpenResponse.Proofs.Number.Numeral
import OpenResponse.Proofs.Text.Classes
import OpenResponse.Proofs.Token.Lines

/-!
# Numbers

A number is cut into four runs of characters: digits, a fraction, an exponent, and the name that
follows them.  Each run begins where the one before it ends, so the extent of a number is known from
its parts as soon as each part is known to end there.  Of all that may follow, only a point, the
letter of an exponent and a further digit could change what the parts are.

For decimal numbers this is a computation with the lengths of the runs.  Behind the mark of a base
there are no such parts, the whole name belongs to the number, and an integer with such a mark is a
digit with a suffix as far as its text is concerned: a zero with a name behind it that begins with
the letter of the base.  Both cases give the same extent, so integers are treated alike.

## Main definitions

* `BeginsExponent` — exponents without a sign
* `IntegerText` — the texts of integers

## Main statements

* `numberExtent_parts` — the extent of a number with known parts
* `numberExtent_integer` — the extent of an integer
* `readLexeme_integer`, `tokenize_integer` — integers are read

## Hypotheses

`IntegerText` carries what makes the cut unique.  The suffix begins with something that is no digit,
or else the digits would go on, and it is no exponent, because digits behind the letter `e` make a
float.  Behind an integer there may be neither a character of a name nor a point, and if the suffix
is a single letter `e`, no sign either; the last is asked as `exponentRun (suffix ++ back) = 0`,
since the sign and the digits of an exponent may lie behind the text.
-/

namespace OpenResponse

/-! ### The parts of a number

The hypotheses of `numberExtent_parts` are about one run each, on the text from which this run
begins, with everything behind it still there. -/

/-- A fraction begins with a point. -/
theorem fractionRun_of_head {text : List Char} (other : ∀ b ∈ text.head?, b ≠ '.') :
    fractionRun text = 0 :=
  fractionRun.eq_2 text fun _ _ same => other '.' (by rw [same]; rfl) rfl

/-- An exponent begins with its letter. -/
theorem exponentRun_of_head {text : List Char}
    (other : ∀ b ∈ text.head?, ¬ (b = 'e' ∨ b = 'E')) : exponentRun text = 0 := by
  rcases text with _ | ⟨b, _ | ⟨c, rest⟩⟩
  · rfl
  · rfl
  · exact if_neg (other b rfl)

/-- The extent of a number whose parts are known: each of them is the run that begins where the one
before it ends. -/
theorem numberExtent_parts {whole fraction exponent suffix back : List Char}
    (decimal : ¬ BeginsBase (whole ++ (fraction ++ (exponent ++ (suffix ++ back)))))
    (wholeRun : digitRun (whole ++ (fraction ++ (exponent ++ (suffix ++ back)))) = whole.length)
    (isFraction : fractionRun (fraction ++ (exponent ++ (suffix ++ back))) = fraction.length)
    (isExponent : exponentRun (exponent ++ (suffix ++ back)) = exponent.length)
    (isSuffix : nameRun (suffix ++ back) = suffix.length) :
    numberExtent (whole ++ (fraction ++ (exponent ++ (suffix ++ back)))) =
      (if fraction.length + exponent.length = 0 then .integer else .float,
        (whole ++ (fraction ++ (exponent ++ suffix))).length) := by
  have behindFraction : (whole ++ (fraction ++ (exponent ++ (suffix ++ back)))).drop
      (whole.length + fraction.length) = exponent ++ (suffix ++ back) := by
    rw [← List.append_assoc, ← List.length_append, List.drop_left]
  have behindExponent : (whole ++ (fraction ++ (exponent ++ (suffix ++ back)))).drop
      (whole.length + fraction.length + exponent.length) = suffix ++ back := by
    rw [← List.drop_drop, behindFraction, List.drop_left]
  rw [numberExtent_of_not decimal]
  dsimp only
  rw [wholeRun, List.drop_left, isFraction, behindFraction, isExponent, behindExponent, isSuffix]
  simp only [List.length_append, Nat.add_assoc]

/-! ### Integers -/

/-- An exponent: digits behind its letter, without a sign.  An integer that is followed by one would
be read as a float. -/
def BeginsExponent (text : List Char) : Prop :=
  ∃ letter digit rest, text = letter :: digit :: rest ∧ (letter = 'e' ∨ letter = 'E') ∧
    isDigit digit = true

/-- The text of an integer: a digit, further digits and underscores, and the rest of the name that
begins behind them, which is a suffix or belongs to the mark of a base. -/
structure IntegerText where
  /-- The first digit. -/
  first : Char
  /-- Digits and underscores. -/
  digits : List Char
  /-- Characters of a name. -/
  suffix : List Char
  isFirst : isDigit first = true
  areDigits : ∀ c ∈ digits, (c == '_' || isDigit c) = true
  isSuffix : ∀ c ∈ suffix, continuesName c = true
  ends : ∀ c ∈ suffix.head?, (c == '_' || isDigit c) = false
  noExponent : ¬ BeginsExponent suffix

namespace IntegerText

/-- The characters of an integer. -/
def chars (integer : IntegerText) : List Char :=
  integer.first :: (integer.digits ++ integer.suffix)

/-- The text of an integer with the mark of a base. -/
def based {letter : Char} (isLetter : letter ∈ ['x', 'o', 'b']) {name : List Char}
    (continues : ∀ c ∈ name, continuesName c = true) : IntegerText :=
  have letters : ∀ letter ∈ ['x', 'o', 'b'], (letter == '_' || isDigit letter) = false ∧
      continuesName letter = true ∧ letter ≠ 'e' ∧ letter ≠ 'E' := forall_mem_of_all (by decide)
  { first := '0'
    digits := []
    suffix := letter :: name
    isFirst := by decide
    areDigits := fun _ listed => by cases listed
    isSuffix := List.forall_mem_cons.mpr ⟨(letters letter isLetter).2.1, continues⟩
    ends := fun c first => by
      cases first
      exact (letters letter isLetter).1
    noExponent := by
      rintro ⟨_, digit, rest, same, isE, -⟩
      cases same
      exact isE.elim (letters letter isLetter).2.2.1 (letters letter isLetter).2.2.2 }

variable {back : List Char}

/-- Behind the zero of the mark of a base stands its letter, and no further digit. -/
theorem eq_of_beginsBase {integer : IntegerText}
    (apart : ∀ b ∈ back.head?, continuesName b = false) {letter : Char} {rest : List Char}
    (isLetter : letter ∈ ['x', 'o', 'b']) (based : integer.chars ++ back = '0' :: letter :: rest) :
    ∃ suffix, integer.chars = '0' :: letter :: suffix ∧
      (∀ c ∈ suffix, continuesName c = true) ∧ rest = suffix ++ back := by
  obtain ⟨first, digits, suffix, _, areDigits, isSuffix, _, _⟩ := integer
  have letters : ∀ letter ∈ ['x', 'o', 'b'], (letter == '_' || isDigit letter) = false ∧
      continuesName letter = true := forall_mem_of_all (by decide)
  obtain ⟨noDigit, continues⟩ := letters letter isLetter
  simp only [chars, List.cons_append, List.cons.injEq] at based ⊢
  obtain ⟨rfl, based⟩ := based
  cases digits with
  | cons d digits =>
    cases based
    rw [areDigits letter List.mem_cons_self] at noDigit
    cases noDigit
  | nil =>
    cases suffix with
    | nil =>
      have other := apart letter (by rw [show back = letter :: rest from based]; rfl)
      rw [continues] at other
      cases other
    | cons d suffix =>
      cases based
      exact ⟨suffix, ⟨rfl, rfl⟩, fun c listed => isSuffix c (List.mem_cons_of_mem _ listed), rfl⟩

/-- Behind the letter of an exponent would stand a digit, or a sign. -/
theorem exponentRun_eq_zero (integer : IntegerText)
    (apart : ∀ b ∈ back.head?, continuesName b = false)
    (noSign : ∀ b ∈ back.head?, ¬ (b = '+' ∨ b = '-')) :
    exponentRun (integer.suffix ++ back) = 0 := by
  obtain ⟨first, digits, suffix, _, _, isSuffix, _, noExponent⟩ := integer
  dsimp only
  have signs : ∀ c, continuesName c = true → ¬ (c = '+' ∨ c = '-') := by
    rintro c continues (rfl | rfl) <;> exact absurd continues (by decide)
  have noDigit : ∀ c, continuesName c = false → ¬ isDigit c = true := by
    intro c other digit
    rw [continuesName_of_isDigit digit] at other
    cases other
  cases whole : suffix ++ back with
  | nil => rfl
  | cons letter behind =>
    cases behind with
    | nil => rfl
    | cons c rest =>
      rw [exponentRun]
      by_cases isLetter : letter = 'e' ∨ letter = 'E'
      · have stops : ¬ isDigit c = true ∧ ¬ (c = '+' ∨ c = '-') := by
          -- an exponent would need a second character, which is in the suffix or behind it
          rcases suffix with _ | ⟨d, _ | ⟨second, suffix⟩⟩
          · -- the letter would continue a name
            have other := apart letter (by rw [show back = letter :: c :: rest from whole]; rfl)
            rcases isLetter with rfl | rfl <;> exact absurd other (by decide)
          · cases whole
            exact ⟨noDigit c (apart c rfl), noSign c rfl⟩
          · cases whole
            exact ⟨fun digit => noExponent ⟨_, _, _, rfl, isLetter, digit⟩,
              signs c (isSuffix c (by simp))⟩
        rw [if_pos isLetter, if_neg stops.1, if_neg fun both => stops.2 both.1]
      · rw [if_neg isLetter]

end IntegerText

/-- An integer ends where a character follows that could not continue it.  Neither a point nor an
exponent may follow either; they would make it a float. -/
theorem numberExtent_integer (integer : IntegerText) {back : List Char}
    (apart : ∀ b ∈ back.head?, continuesName b = false) (noPoint : ∀ b ∈ back.head?, b ≠ '.')
    (noExponent : exponentRun (integer.suffix ++ back) = 0) :
    numberExtent (integer.chars ++ back) = (.integer, integer.chars.length) := by
  -- digits and a suffix may look like the mark of a base: then the suffix is the name behind it
  by_cases based : BeginsBase (integer.chars ++ back)
  · obtain ⟨letter, isLetter, rest, same⟩ := based
    obtain ⟨suffix, isText, continues, rfl⟩ := integer.eq_of_beginsBase apart isLetter same
    rw [same, numberExtent_of_base isLetter, nameRun, takeWhile_append_of_forall continues apart,
      isText]
    simp only [List.length_cons]
    congr 1
    omega
  · have split : integer.chars ++ back =
        (integer.first :: integer.digits) ++ ([] ++ ([] ++ (integer.suffix ++ back))) := by
      simp [IntegerText.chars]
    rw [split] at based ⊢
    have digits : ∀ c ∈ integer.first :: integer.digits, (c == '_' || isDigit c) = true :=
      List.forall_mem_cons.mpr ⟨by rw [integer.isFirst, Bool.or_true], integer.areDigits⟩
    have stops : ∀ b ∈ (integer.suffix ++ back).head?,
        (b == '_' || isDigit b) = false ∧ b ≠ '.' := by
      intro b isHead
      cases suffix : integer.suffix with
      | nil =>
        rw [suffix] at isHead
        exact ⟨not_digitRun_of_not_continuesName (apart b isHead), noPoint b isHead⟩
      | cons d rest =>
        rw [suffix] at isHead
        cases isHead
        refine ⟨integer.ends b (by rw [suffix]; rfl), ?_⟩
        rintro rfl
        exact absurd (integer.isSuffix '.' (by simp [suffix])) (by decide)
    have extent := numberExtent_parts based
      (by rw [digitRun]
          exact congrArg List.length (takeWhile_append_of_forall digits fun b isHead =>
            (stops b isHead).1))
      (fractionRun_of_head fun b isHead => (stops b isHead).2) noExponent
      (by rw [nameRun, takeWhile_append_of_forall integer.isSuffix apart])
    rw [extent]
    simp [IntegerText.chars]

/-- An integer is read where a character follows that could not continue it.  Its token has the text
of the integer, suffix included. -/
theorem readLexeme_integer (integer : IntegerText) {here : Location} {back : List Char}
    (apart : ∀ b ∈ back.head?, continuesName b = false) (noPoint : ∀ b ∈ back.head?, b ≠ '.')
    (noExponent : exponentRun (integer.suffix ++ back) = 0) :
    readLexeme here integer.first (integer.digits ++ integer.suffix ++ back) =
      .ok ⟨(integer.digits ++ integer.suffix).length,
        some (.integer, String.ofList integer.chars)⟩ := by
  have extent : numberExtent (integer.first :: (integer.digits ++ integer.suffix ++ back)) =
      (.integer, integer.chars.length) := numberExtent_integer integer apart noPoint noExponent
  have taken : (integer.first :: (integer.digits ++ integer.suffix ++ back)).take
      integer.chars.length = integer.chars := List.take_left
  rw [(ScanStep.number integer.isFirst extent).readLexeme_eq, taken]
  rfl

/-- The text of an integer is a single token.  That nothing follows is a case of a character that
could not continue it. -/
theorem tokenize_integer (integer : IntegerText) (origin : Location) :
    tokenize origin (String.ofList integer.chars) =
      .ok ⟨[⟨.integer, String.ofList integer.chars, origin⟩], origin.behind integer.chars⟩ := by
  have apart : ∀ b ∈ ([] : List Char).head?, continuesName b = false := by
    intro b first
    cases first
  have read : readLexeme origin integer.first (integer.digits ++ integer.suffix ++ []) = _ :=
    readLexeme_integer integer apart (fun _ first => by cases first)
      (integer.exponentRun_eq_zero apart fun _ first => by cases first)
  rw [List.append_nil] at read
  exact tokenize_lexeme read

end OpenResponse
