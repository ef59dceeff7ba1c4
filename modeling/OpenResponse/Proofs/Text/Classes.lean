import OpenResponse.Proofs.Text.CodeRange
import OpenResponse.Text.Blank
import OpenResponse.Text.Digit
import OpenResponse.Text.Letter

/-!
# Classes of characters

Letters, digits and blanks are told apart by their tables.  What begins a name is not blank; a digit
continues a name, begins none, and is not blank either.  The digits with a value, whatever script or
base they belong to, are letters or digits in the wide sense.

Each statement is about two tables of ranges, and is settled by one of two walks over them: that no
ranges overlap, or that each range of one lies in a range of the other.  The walks are computed
once, and the statement for characters follows by looking the character up in both.

## Main statements

* `not_isBlank_of_beginsName`, `not_other_of_isDigit` — the classes exclude each other
* `continuesName_of_isDigit` — digits continue names
* `isDigit_of_decimalDigit?`, `continuesName_of_baseDigit?` — the digits that have a value

## Design notes

The tables are sorted, which is also computed.  It is needed because looking a code point up stops
at the first range behind it, so that an unsorted table would have members that are not found.

The large tables are compared by the walk that passes through both of them together.
-/

namespace OpenResponse

/-! ### Letters

The table of blanks is short, so all pairs of ranges are compared. -/

/-- No code point lies in both of two tables. -/
def CodeRanges.apart (table other : CodeRanges) : Bool :=
  table.all fun range => other.all fun second => range.2 < second.1 || second.2 < range.1

/-- A code point of one of two tables that are apart is not in the other. -/
theorem CodeRanges.not_contains_of_apart {table other : CodeRanges}
    (apart : table.apart other = true) {n : Nat} (listed : table.contains n = true) :
    other.contains n = false := by
  refine Bool.eq_false_iff.mpr fun also => ?_
  obtain ⟨range, inTable, first, last⟩ := exists_of_contains listed
  obtain ⟨second, inOther, first', last'⟩ := exists_of_contains also
  have differ := List.all_eq_true.mp (List.all_eq_true.mp apart range inTable) second inOther
  rw [Bool.or_eq_true, decide_eq_true_eq, decide_eq_true_eq] at differ
  omega

/-- No letter is blank. -/
theorem letterRanges_apart_blankRanges : letterRanges.apart blankRanges = true := by decide +kernel

/-- What begins a name is not blank.  The two tables are walked together, since neither could be
checked range by range against the other. -/
theorem not_isBlank_of_beginsName {c : Char} (begins : beginsName c = true) :
    isBlank c = false := by
  rw [beginsName, Bool.or_eq_true, beq_iff_eq] at begins
  rcases begins with rfl | letter
  · decide
  · exact CodeRanges.not_contains_of_apart letterRanges_apart_blankRanges letter

/-- A character that begins a name differs from one that does not. -/
theorem ne_of_beginsName {c d : Char} (begins : beginsName c = true)
    (other : beginsName d = false) : c ≠ d := by
  rintro rfl
  rw [begins] at other
  cases other

/-! ### Digits

Digits continue names because they are among the numerals that do. -/

private theorem increasing_numeralRanges : numeralRanges.Increasing := by decide +kernel

private theorem digitRanges_within_numeralRanges : digitRanges.within numeralRanges = true := by
  decide +kernel

/-- Every digit continues a name.  So a number and a name cannot be told apart by where they end. -/
theorem continuesName_of_isDigit {c : Char} (digit : isDigit c = true) :
    continuesName c = true := by
  have numeral : isNumeral c = true :=
    CodeRanges.contains_of_within increasing_numeralRanges digitRanges_within_numeralRanges digit
  rw [continuesName, numeral, Bool.or_true]

/-- What does not continue a name does not continue a run of digits either. -/
theorem not_digitRun_of_not_continuesName {c : Char} (other : continuesName c = false) :
    (c == '_' || isDigit c) = false := by
  rw [Bool.or_eq_false_iff, beq_eq_false_iff_ne]
  constructor
  · rintro rfl
    revert other
    decide
  · refine Bool.eq_false_iff.mpr fun digit => ?_
    rw [continuesName_of_isDigit digit] at other
    cases other

private theorem digitRanges_separate : digitRanges.separate blankRanges = true ∧
    digitRanges.separate letterRanges = true := by decide +kernel

/-- A digit begins nothing but a number.  It is none of the characters that the scanner asks for
before it asks for digits. -/
theorem not_other_of_isDigit {c : Char} (digit : isDigit c = true) :
    isBlank c = false ∧ beginsName c = false := by
  refine ⟨CodeRanges.not_contains_of_separate digitRanges_separate.1 digit, ?_⟩
  rw [beginsName, Bool.or_eq_false_iff, beq_eq_false_iff_ne]
  refine ⟨?_, CodeRanges.not_contains_of_separate digitRanges_separate.2 digit⟩
  rintro rfl
  revert digit
  decide

/-! ### Digits with a value

The value of a decimal digit is its distance from the zero of its script.  Other bases have letters
too. -/

private theorem increasing_digitRanges : digitRanges.Increasing := by decide +kernel

/-- The ten digits of every script lie in one range of the digits in the wide sense. -/
theorem decimalZeros_within_digitRanges :
    CodeRanges.within (decimalZeros.map fun first => (first, first + 9)) digitRanges = true := by
  decide +kernel

/-- The decimal digits of all scripts are digits in the wide sense.  So whatever has a value as a
digit begins a number. -/
theorem isDigit_of_decimalDigit? {c : Char} (digit : (decimalDigit? c).isSome = true) :
    isDigit c = true := by
  rw [decimalDigit?, Option.isSome_map, List.find?_isSome] at digit
  obtain ⟨first, listed, inside⟩ := digit
  rw [Bool.and_eq_true, decide_eq_true_eq, decide_eq_true_eq] at inside
  obtain ⟨range, isRange, covers⟩ := List.any_eq_true.mp
    (List.all_eq_true.mp decimalZeros_within_digitRanges _ (List.mem_map_of_mem listed))
  rw [Bool.and_eq_true, decide_eq_true_eq, decide_eq_true_eq] at covers
  dsimp only at covers
  exact CodeRanges.contains_of_mem increasing_digitRanges isRange (by omega) (by omega)

/-- The digits of base ten are decimal digits. -/
theorem decimalDigit?_of_baseDigit? {c : Char} {value : Nat}
    (digit : baseDigit? 10 c = some value) : decimalDigit? c = some value := by
  obtain ⟨isValue, small⟩ := Option.filter_eq_some_iff.mp digit
  have small := of_decide_eq_true small
  split at isValue
  · cases isValue
    omega
  · split at isValue
    · cases isValue
      omega
    · exact isValue

private theorem increasing_letterRanges : letterRanges.Increasing := by decide +kernel

/-- The digits of every base are letters or decimal digits. -/
theorem letter_or_digit_of_baseDigit? {base : Nat} {c : Char}
    (digit : (baseDigit? base c).isSome = true) : beginsName c = true ∨ isDigit c = true := by
  have letter {low high : Char} (listed : (low.toNat, high.toNat) ∈ letterRanges)
      (between : low ≤ c ∧ c ≤ high) : beginsName c = true := by
    have isLetter : isLetter c = true :=
      CodeRanges.contains_of_mem increasing_letterRanges listed between.1 between.2
    rw [beginsName, isLetter, Bool.or_true]
  unfold baseDigit? at digit
  split at digit
  next lower => exact .inl (letter (by decide) lower)
  next =>
  split at digit
  next upper => exact .inl (letter (by decide) upper)
  next =>
    obtain ⟨value, isValue⟩ := Option.isSome_iff_exists.mp digit
    have decimal := (Option.filter_eq_some_iff.mp isValue).1
    exact .inr (isDigit_of_decimalDigit? (Option.isSome_of_eq_some decimal))

/-- The digits of every base continue names.  They are digits of some script, or letters. -/
theorem continuesName_of_baseDigit? {base : Nat} {c : Char}
    (digit : (baseDigit? base c).isSome = true) : continuesName c = true :=
  (letter_or_digit_of_baseDigit? digit).elim continuesName_of_beginsName continuesName_of_isDigit

/-- No digit of any base is blank. -/
theorem not_isBlank_of_baseDigit? {base : Nat} {c : Char}
    (digit : (baseDigit? base c).isSome = true) : isBlank c = false :=
  (letter_or_digit_of_baseDigit? digit).elim not_isBlank_of_beginsName
    fun isDigit => (not_other_of_isDigit isDigit).1

end OpenResponse
