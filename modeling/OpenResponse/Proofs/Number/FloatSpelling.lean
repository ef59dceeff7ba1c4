import OpenResponse.Document.Literal
import OpenResponse.Proofs.Number.Spelling

/-!
# Spellings of floats

A float is spelled with decimal digits, perhaps a fraction and an exponent, and the name of a type.
Underscores may stand among the digits of every part.  Neither they nor the name of the type have a
value, and the name holds a letter that none of the other parts does, so that it is cut off as a
whole.  What is left is read as the number that the digits stand for, scaled by the exponent and by
the number of digits behind the point.

The reader works on the text without underscores and without the name of the type, from the left:
digits, a point and digits, the letter of an exponent.  Each of these ends where something else
begins, so a text that is put together from such parts is taken apart into the same ones.  What the
reader does with the name of the type is simpler than it looks, because the letter with which the
name begins stands nowhere in front of it, and so only one place in the text can be its beginning.

## Main definitions

* `SeparatedDigits` — digits with underscores among them
* `FloatExponent` — exponents
* `FloatSpelling` — the spellings of floats, with their texts and values

## Main statements

* `FloatSpelling.readFloat?_text` — the value of a literal
* `FloatSpelling.readFloat?_stem` — literals without a value

## Hypotheses

A spelling carries what makes it a literal.  The digits in front of the point and those behind it
begin with a digit, while the digits of an exponent may begin with an underscore; each run holds a
digit at least.  The name of a type is always there, since floats without one are literals of a
simpler kind and are not spelled here.
-/

namespace OpenResponse

/-! ### Digits

The value of a run is that of its digits, wherever underscores stand among them.  Decimal digits of
any script count. -/

/-- Decimal digits with underscores among them.  There is a digit among them, so that they have a
value; underscores may stand in any number and place. -/
structure SeparatedDigits where
  /-- The digits and underscores. -/
  chars : List Char
  /-- There is nothing but digits and underscores. -/
  digit : ∀ c ∈ chars, c ≠ '_' → (decimalDigit? c).isSome = true
  /-- There is a digit. -/
  filled : ∃ c ∈ chars, c ≠ '_'

namespace SeparatedDigits

variable (run : SeparatedDigits)

/-- The values of the digits, the most significant one first. -/
def values : List Nat := run.chars.filterMap decimalDigit?

/-- The number that the digits stand for. -/
def value : Nat := Nat.ofDigits 10 run.values.reverse

/-- No underscore stands in front of the digits. -/
def Leads : Prop := run.chars.head? ≠ some '_'

instance : Decidable run.Leads := inferInstanceAs (Decidable (run.chars.head? ≠ some '_'))

/-- The digits without the underscores among them. -/
def bare : List Char := run.chars.filter (· != '_')

private theorem isDigit_of_mem_bare : ∀ c ∈ run.bare, (decimalDigit? c).isSome = true := by
  intro c listed
  obtain ⟨inChars, notUnderscore⟩ := List.mem_filter.mp listed
  exact run.digit c inChars (bne_iff_ne.mp notUnderscore)

private theorem filterMap_bare : run.bare.filterMap decimalDigit? = run.values :=
  filterMap_withoutUnderscores (by decide) run.chars

private theorem values_ne_nil : run.values ≠ [] := by
  obtain ⟨c, listed, notUnderscore⟩ := run.filled
  obtain ⟨value, isValue⟩ := Option.isSome_iff_exists.mp (run.digit c listed notUnderscore)
  exact List.ne_nil_of_mem (List.mem_filterMap.mpr ⟨c, listed, isValue⟩)

end SeparatedDigits

/-- Digits are taken off a text up to where something else begins. -/
theorem takeDigits_append {digits back : List Char}
    (digit : ∀ c ∈ digits, (decimalDigit? c).isSome = true)
    (ends : ∀ b ∈ back.head?, decimalDigit? b = none) :
    takeDigits (digits ++ back) = (digits.filterMap decimalDigit?, back) := by
  induction digits with
  | nil =>
    cases back with
    | nil => rfl
    | cons b back =>
      rw [List.nil_append, takeDigits, ends b rfl]
      rfl
  | cons c digits ih =>
    obtain ⟨first, others⟩ := List.forall_mem_cons.mp digit
    obtain ⟨value, isValue⟩ := Option.isSome_iff_exists.mp first
    rw [List.cons_append, takeDigits, isValue, ih others, List.filterMap_cons_some isValue]

/-- The value of decimal digits. -/
theorem decimalValue_eq_ofDigits (digits : List Nat) :
    decimalValue digits = Nat.ofDigits 10 digits.reverse :=
  digitsValue_eq_ofDigits 10 digits

/-! ### Exponents

Behind the letter there may be a sign.  A digit is no sign, so the two are told apart by one
character. -/

/-- An exponent: its letter, perhaps a sign, and digits.  The digits may have underscores in front,
where a sign makes a difference. -/
structure FloatExponent where
  /-- The letter. -/
  letter : Char
  /-- The sign. -/
  sign : Option Char
  /-- The digits. -/
  digits : SeparatedDigits
  isLetter : letter = 'e' ∨ letter = 'E'
  isSign : ∀ c ∈ sign, c = '+' ∨ c = '-'

namespace FloatExponent

variable (exponent : FloatExponent)

/-- The characters of an exponent. -/
def chars : List Char := exponent.letter :: (exponent.sign.toList ++ exponent.digits.chars)

/-- The number that an exponent stands for. -/
def value : Int :=
  if exponent.sign = some '-' then -(exponent.digits.value : Int) else exponent.digits.value

/-- An exponent without the underscores among its digits. -/
def bare : List Char := exponent.letter :: (exponent.sign.toList ++ exponent.digits.bare)

/-- An exponent is read as its number. -/
theorem readExponent?_bare : readExponent? exponent.bare = some exponent.value := by
  obtain ⟨letter, sign, digits, isLetter, isSign⟩ := exponent
  have taken : takeDigits digits.bare = (digits.values, []) := by
    have taken := takeDigits_append digits.isDigit_of_mem_bare
      fun b (isHead : b ∈ ([] : List Char).head?) => by cases isHead
    rwa [List.append_nil, digits.filterMap_bare] at taken
  have isValue : decimalValue digits.values = digits.value := decimalValue_eq_ofDigits _
  obtain ⟨first, others, filled⟩ := List.exists_cons_of_ne_nil digits.values_ne_nil
  rw [filled] at taken isValue
  cases sign with
  | none =>
    -- the first character behind the letter is a digit, and neither sign
    have noSign (c : Char) (isSign : decimalDigit? c = none) (rest : List Char) :
        digits.bare ≠ c :: rest := by
      intro same
      have isDigit := digits.isDigit_of_mem_bare c (same ▸ List.mem_cons_self)
      rw [isSign] at isDigit
      cases isDigit
    show readExponent? (letter :: digits.bare) = some (digits.value : Int)
    rw [readExponent?.eq_4 _ _ (noSign '-' (by decide)) (noSign '+' (by decide)),
      if_pos isLetter, taken]
    dsimp only
    rw [isValue]
    rfl
  | some c =>
    rcases isSign c rfl with rfl | rfl
    · show readExponent? (letter :: '+' :: digits.bare) = some (digits.value : Int)
      rw [readExponent?.eq_3, if_pos isLetter, taken]
      dsimp only
      rw [isValue]
      rfl
    · show readExponent? (letter :: '-' :: digits.bare) = some (-(digits.value : Int))
      rw [readExponent?.eq_2, if_pos isLetter, taken]
      dsimp only
      rw [isValue]
      rfl

end FloatExponent

/-- Nothing is cut off a text with another ending. -/
theorem withoutEnding_of_not_suffix {ending : String} {text : List Char}
    (other : ¬ ending.toList <:+ text) : withoutEnding ending text = text := by
  rw [withoutEnding, withoutSuffix?, if_neg fun ends => other (List.isSuffixOf_iff_suffix.mp ends)]
  rfl

/-! ### Floats

A number is its digits scaled by a power of ten.  The digits behind the point are put behind those
in front of it, and the power is smaller by as many as they are. -/

/-- A spelling of a float: digits, perhaps a fraction and an exponent, and the name of a type. -/
structure FloatSpelling where
  /-- The digits in front of the point. -/
  whole : SeparatedDigits
  /-- The digits behind the point. -/
  fraction : Option SeparatedDigits
  /-- The exponent. -/
  exponent : Option FloatExponent
  /-- The name of the type. -/
  suffix : String
  /-- A literal begins with a digit. -/
  leads : whole.Leads
  /-- A digit stands behind the point. -/
  fractionLeads : ∀ digits ∈ fraction, digits.Leads
  named : suffix = "f32" ∨ suffix = "f64"

namespace FloatSpelling

variable (spelling : FloatSpelling)

/-- The characters of the fraction. -/
def fractionChars : List Char := spelling.fraction.elim [] fun digits => '.' :: digits.chars

/-- The characters of the exponent. -/
def exponentChars : List Char := spelling.exponent.elim [] FloatExponent.chars

/-- The characters of a spelling. -/
def chars : List Char :=
  spelling.whole.chars ++
    (spelling.fractionChars ++ (spelling.exponentChars ++ spelling.suffix.toList))

/-- The text of a spelling. -/
def text : String := String.ofList spelling.chars

/-- The values of the digits behind the point. -/
def places : List Nat := spelling.fraction.elim [] SeparatedDigits.values

/-- The number that a spelling stands for: that of all its digits, scaled by the exponent and by the
number of digits behind the point. -/
def value : Binary :=
  Binary.ofDecimal (Nat.ofDigits 10 (spelling.whole.values ++ spelling.places).reverse)
    (spelling.exponent.elim 0 FloatExponent.value - spelling.places.length)

/-- The characters of the fraction without underscores. -/
def bareFraction : List Char := spelling.fraction.elim [] fun digits => '.' :: digits.bare

/-- The characters of the exponent without underscores. -/
def bareExponent : List Char := spelling.exponent.elim [] FloatExponent.bare

/-- The characters of a spelling without underscores and without the name of the type. -/
def bare : List Char := spelling.whole.bare ++ (spelling.bareFraction ++ spelling.bareExponent)

/-- Neither letter of an exponent is a digit or a point. -/
theorem not_digit_of_letter {b : Char} (isLetter : b = 'e' ∨ b = 'E') :
    decimalDigit? b = none ∧ b ≠ '.' := by
  rcases isLetter with rfl | rfl <;> decide

/-- What stands behind the digits in front of an exponent is read as the exponent. -/
theorem readDecimal?_append {left : List Char} (isExponent : ∀ b ∈ left.head?, b = 'e' ∨ b = 'E') :
    readDecimal? (spelling.whole.bare ++ (spelling.bareFraction ++ left)) =
      (readExponent? left).map fun power =>
        Binary.ofDecimal (Nat.ofDigits 10 (spelling.whole.values ++ spelling.places).reverse)
          (power - spelling.places.length) := by
  -- digits end where something stands that is no digit: a point, a letter or nothing
  have taken (digits : SeparatedDigits) {back : List Char}
      (ends : ∀ b ∈ back.head?, decimalDigit? b = none) :
      takeDigits (digits.bare ++ back) = (digits.values, back) := by
    rw [takeDigits_append digits.isDigit_of_mem_bare ends, digits.filterMap_bare]
  have ends : ∀ b ∈ left.head?, decimalDigit? b = none :=
    fun b isHead => (not_digit_of_letter (isExponent b isHead)).1
  obtain ⟨first, others, filled⟩ := List.exists_cons_of_ne_nil spelling.whole.values_ne_nil
  rw [← decimalValue_eq_ofDigits, readDecimal?.eq_1, places, bareFraction]
  cases spelling.fraction with
  | none =>
    have noPoint (rest : List Char) : left ≠ '.' :: rest := by
      rintro rfl
      exact (not_digit_of_letter (isExponent '.' rfl)).2 rfl
    rw [Option.elim_none, Option.elim_none, List.nil_append, taken _ ends, filled]
    dsimp only
    split
    next => exact absurd rfl (noPoint _)
    next => rfl
  | some digits =>
    have pointEnds : ∀ b ∈ ('.' :: (digits.bare ++ left)).head?, decimalDigit? b = none := by
      intro b isHead
      cases isHead
      decide
    rw [Option.elim_some, Option.elim_some, List.cons_append, taken _ pointEnds, filled]
    dsimp only
    split
    next rest same =>
      cases same
      rw [taken _ ends]
      rfl
    next noPoint => exact absurd rfl (noPoint _)

/-- A decimal of digits, a fraction and an exponent is read as their number. -/
theorem readDecimal?_bare : readDecimal? spelling.bare = some spelling.value := by
  rw [bare, value, bareExponent]
  cases spelling.exponent with
  | none => exact spelling.readDecimal?_append fun _ isHead => by cases isHead
  | some exponent =>
    have isLetter : ∀ b ∈ exponent.bare.head?, b = 'e' ∨ b = 'E' := fun b isHead =>
      Option.some.inj isHead ▸ exponent.isLetter
    rw [Option.elim_some, spelling.readDecimal?_append isLetter, exponent.readExponent?_bare]
    rfl

/-! ### The name of the type

The text is cut in front of its only letter of types.  Then the underscores go, of which the name
has none, so it does not matter that they are taken out first. -/

/-- The characters in front of the name of the type. -/
def front : List Char :=
  spelling.whole.chars ++ (spelling.fractionChars ++ spelling.exponentChars)

/-- The name of the type begins with the letter of floats. -/
theorem head_suffix : spelling.suffix.toList.head? = some 'f' := by
  rcases spelling.named with isShort | isLong
  · rw [isShort]
    rfl
  · rw [isLong]
    rfl

/-- The name of the type is made of the letter of floats and digits. -/
theorem mem_suffix : ∀ c ∈ spelling.suffix.toList, c ∈ ['f', '3', '2', '6', '4'] := by
  rcases spelling.named with isShort | isLong
  · rw [isShort]
    exact forall_mem_of_all (by decide)
  · rw [isLong]
    exact forall_mem_of_all (by decide)

/-- A spelling is what stands in front of the name of the type, with the name behind it. -/
theorem chars_eq : spelling.chars = spelling.front ++ spelling.suffix.toList := by
  simp [chars, front]

/-- The characters in front of the name of the type are digits, underscores, points, signs and the
letter of an exponent. -/
theorem mem_front {c : Char} (listed : c ∈ spelling.front) :
    (decimalDigit? c).isSome = true ∨ c ∈ ['_', '.', '+', '-', 'e', 'E'] := by
  have inDigits (digits : SeparatedDigits) (inside : c ∈ digits.chars) :
      (decimalDigit? c).isSome = true ∨ c ∈ ['_', '.', '+', '-', 'e', 'E'] := by
    by_cases isUnderscore : c = '_'
    · exact .inr (by simp [isUnderscore])
    · exact .inl (digits.digit c inside isUnderscore)
  -- a character is in the whole part, in the fraction or in the exponent
  rcases List.mem_append.mp listed with inWhole | behind
  · exact inDigits _ inWhole
  rcases List.mem_append.mp behind with inFraction | inExponent
  · rw [fractionChars] at inFraction
    cases isFraction : spelling.fraction with
    | none =>
      rw [isFraction] at inFraction
      cases inFraction
    | some digits =>
      rw [isFraction] at inFraction
      rcases List.mem_cons.mp inFraction with rfl | inside
      · exact .inr (by decide)
      · exact inDigits digits inside
  · rw [exponentChars] at inExponent
    cases isExponent : spelling.exponent with
    | none =>
      rw [isExponent] at inExponent
      cases inExponent
    | some exponent =>
      rw [isExponent] at inExponent
      rcases List.mem_cons.mp inExponent with rfl | inside
      · exact .inr (by rcases exponent.isLetter with isE | isE <;> rw [isE] <;> decide)
      rcases List.mem_append.mp inside with isSign | inside
      · have plusOrMinus := exponent.isSign c (Option.mem_toList.mp isSign)
        exact .inr (by rcases plusOrMinus with rfl | rfl <;> decide)
      · exact inDigits _ inside

/-- Other characters do not stand in front of the name of the type. -/
theorem not_mem_front {c : Char} (noDigit : decimalDigit? c = none)
    (other : c ∉ ['_', '.', '+', '-', 'e', 'E']) : c ∉ spelling.front := by
  intro listed
  rcases spelling.mem_front listed with isDigit | isOther
  · rw [noDigit] at isDigit
    cases isDigit
  · exact other isOther

/-- No letter of the mark of a base or of an integer type stands in a float. -/
theorem not_mem_chars : ∀ c ∈ ['x', 'X', 'o', 'O', 'b', 'B', 'u', 'i'], c ∉ spelling.chars := by
  have letters : ∀ c ∈ ['x', 'X', 'o', 'O', 'b', 'B', 'u', 'i'], decimalDigit? c = none ∧
      c ∉ ['_', '.', '+', '-', 'e', 'E'] ∧ c ∉ ['f', '3', '2', '6', '4'] :=
    forall_mem_of_all (by decide)
  intro c listed inChars
  obtain ⟨noDigit, other, notType⟩ := letters c listed
  rw [chars_eq] at inChars
  rcases List.mem_append.mp inChars with inFront | inSuffix
  · exact spelling.not_mem_front noDigit other inFront
  · exact notType (spelling.mem_suffix c inSuffix)

/-- The name of the type is cut off. -/
theorem withoutEnding_append {text : List Char} (noLetter : 'f' ∉ text) :
    withoutEnding "f64" (withoutEnding "f32" (text ++ spelling.suffix.toList)) = text := by
  have cut (ending : String) : withoutEnding ending (text ++ ending.toList) = text := by
    rw [withoutEnding, withoutSuffix?_append]
    rfl
  rcases spelling.named with isShort | isLong
  · rw [isShort, cut "f32"]
    exact withoutEnding_of_not_suffix fun ends => noLetter (ends.subset (by decide))
  · have notShort : ¬ "f32".toList <:+ text ++ "f64".toList := by
      intro ends
      rcases List.suffix_or_suffix_of_suffix ends (List.suffix_append text _) with inside | outside
      · exact absurd inside (by decide)
      · exact absurd outside (by decide)
    rw [isLong, withoutEnding_of_not_suffix notShort, cut "f64"]

/-- A fraction keeps its point when the underscores are left out. -/
theorem filter_fractionChars :
    spelling.fractionChars.filter (· != '_') = spelling.bareFraction := by
  rw [fractionChars, bareFraction]
  cases spelling.fraction with
  | none => rfl
  | some digits => exact List.filter_cons_of_pos (by decide)

/-- An exponent keeps its letter and its sign when the underscores are left out. -/
theorem filter_exponentChars :
    spelling.exponentChars.filter (· != '_') = spelling.bareExponent := by
  rw [exponentChars, bareExponent]
  cases spelling.exponent with
  | none => rfl
  | some exponent =>
    have letter : (exponent.letter != '_') = true := by
      rcases exponent.isLetter with isE | isE <;> rw [isE] <;> decide
    have sign : exponent.sign.toList.filter (· != '_') = exponent.sign.toList := by
      refine List.filter_eq_self.mpr fun c isSign => ?_
      rcases exponent.isSign c (Option.mem_toList.mp isSign) with rfl | rfl <;> decide
    rw [Option.elim_some, Option.elim_some, FloatExponent.chars, FloatExponent.bare,
      List.filter_cons, if_pos letter, List.filter_append, sign]
    rfl

private theorem filter_front : spelling.front.filter (· != '_') = spelling.bare := by
  rw [front, List.filter_append, List.filter_append, filter_fractionChars, filter_exponentChars]
  rfl

/-- The letter of the type stands nowhere in front of it. -/
theorem not_mem_bare : 'f' ∉ spelling.bare := by
  rw [← filter_front]
  exact fun listed => spelling.not_mem_front (by decide) (by decide) (List.mem_filter.mp listed).1

/-- A float has the value of its spelling.  The value does not depend on the underscores or on the
name of a type behind it. -/
theorem readFloat?_text : readFloat? spelling.text = some spelling.value := by
  have kept : ∀ c ∈ ['f', '3', '2', '6', '4'], (c != '_') = true := forall_mem_of_all (by decide)
  have isSuffix : spelling.suffix.toList.filter (· != '_') = spelling.suffix.toList :=
    List.filter_eq_self.mpr fun c listed => kept c (spelling.mem_suffix c listed)
  rw [readFloat?, text, String.toList_ofList, chars_eq, List.filter_append, filter_front, isSuffix,
    spelling.withoutEnding_append spelling.not_mem_bare, spelling.readDecimal?_bare]

/-- The characters up to the letter of an exponent. -/
def stem (letter : Char) : List Char :=
  spelling.whole.chars ++ (spelling.fractionChars ++ [letter])

/-- A literal that ends behind the letter of its exponent has no value.  That is what is left of a
spelling that is cut in front of its sign. -/
theorem readFloat?_stem {letter : Char} (isLetter : letter = 'e' ∨ letter = 'E') :
    readFloat? (String.ofList (spelling.stem letter)) = none := by
  have isBare : (spelling.stem letter).filter (· != '_') =
      spelling.whole.bare ++ (spelling.bareFraction ++ [letter]) := by
    have keptLetter : [letter].filter (· != '_') = [letter] := by
      rcases isLetter with rfl | rfl <;> decide
    rw [stem, List.filter_append, List.filter_append, filter_fractionChars, keptLetter]
    rfl
  have noType : 'f' ∉ spelling.whole.bare ++ (spelling.bareFraction ++ [letter]) := by
    have inFront := spelling.not_mem_bare
    rw [bare, List.mem_append, List.mem_append, not_or, not_or] at inFront
    rw [List.mem_append, List.mem_append, List.mem_singleton, not_or, not_or]
    refine ⟨inFront.1, inFront.2.1, ?_⟩
    rcases isLetter with rfl | rfl <;> decide
  have noEnding : ∀ ending ∈ ["f32", "f64"], ¬ ending.toList <:+
      spelling.whole.bare ++ (spelling.bareFraction ++ [letter]) := by
    have letters : ∀ ending ∈ ["f32", "f64"], 'f' ∈ ending.toList := by decide
    exact fun ending listed ends => noType (ends.subset (letters ending listed))
  have noExponent : readExponent? [letter] = none := by
    rcases isLetter with rfl | rfl <;> rfl
  rw [readFloat?, String.toList_ofList, isBare,
    withoutEnding_of_not_suffix (noEnding _ (by decide)),
    withoutEnding_of_not_suffix (noEnding _ (by decide)), spelling.readDecimal?_append, noExponent]
  · rfl
  · exact fun b isHead => Option.some.inj isHead ▸ isLetter

end FloatSpelling

end OpenResponse
