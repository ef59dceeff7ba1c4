import Mathlib.Data.List.Basic
import Mathlib.Data.Nat.Digits.Defs
import OpenResponse.Proofs.Number.Numeral

/-!
# Spellings of integers

An integer is spelled with the digits of one of four bases, and every base but the decimal one has a
mark in front.  Underscores may stand anywhere behind the mark, and the name of an integer type may
stand behind the digits.  Every such name holds a letter that is no digit in any of the bases, so
what is cut off a literal is the name as a whole and never a digit.  The value of a literal is
therefore the number that its digits stand for, however great.  Only the digits of the decimal base
are limited in number.

A literal is read in three steps, and each is shown to undo one part of a spelling.  The underscores
are taken out, then the name of a type is cut off the end, and the mark of the base off the front;
the digits that are left are read in the base.  The middle step is the one that could go wrong,
since several names are tried one after the other.  As none of them ends in another and the digits
hold no letter of any, at most one can be cut off.

## Main definitions

* `IntegerBase` — the bases, with their marks
* `IntegerSpelling` — the spellings of integers, with their texts and values

## Main statements

* `IntegerSpelling.readInteger?_text` — the value of a literal
* `readInteger?_eq_none` — texts that have no value
* `readInteger?_repr` — the value of a numeral

## Hypotheses

`IntegerSpelling` says what may stand where: digits of the base and underscores, at least one digit,
and the name of an integer type or nothing.  Underscores may stand in front of the first digit, also
in a decimal spelling, for the value does not depend on it; whether such a text is a literal is a
question for the scanner and is asked elsewhere.

Only decimal digits are limited in number, and it is the digits that count, without underscores and
with leading zeros.
-/

namespace OpenResponse

/-! ### Bases and spellings

A base is one of four, with its mark and the number of its digits.  The digits of the hexadecimal
base may be written in either case. -/

/-- The bases in which integers are spelled.  Each has the letter of its prefix, but for the decimal
one, which has none. -/
inductive IntegerBase
  | binary
  | octal
  | decimal
  | hexadecimal
deriving DecidableEq, Repr

namespace IntegerBase

/-- The number of digits of a base. -/
def radix : IntegerBase → Nat
  | binary => 2
  | octal => 8
  | decimal => 10
  | hexadecimal => 16

/-- The mark that stands in front of the digits. -/
def mark : IntegerBase → List Char
  | binary => ['0', 'b']
  | octal => ['0', 'o']
  | decimal => []
  | hexadecimal => ['0', 'x']

end IntegerBase

/-- A spelling of an integer: the digits of a base with underscores among them, and perhaps the name
of a type. -/
structure IntegerSpelling where
  /-- The base. -/
  base : IntegerBase
  /-- The digits and underscores. -/
  body : List Char
  /-- The name of the type, or nothing. -/
  suffix : String
  /-- There is nothing but digits and underscores. -/
  digit : ∀ c ∈ body, c ≠ '_' → (baseDigit? base.radix c).isSome = true
  /-- There is a digit. -/
  filled : ∃ c ∈ body, c ≠ '_'
  /-- What stands behind the digits is the name of a type. -/
  named : suffix = "" ∨ suffix ∈ integerSuffixes

namespace IntegerSpelling

/-- The text of a spelling. -/
def text (spelling : IntegerSpelling) : String :=
  String.ofList (spelling.base.mark ++ spelling.body ++ spelling.suffix.toList)

/-- The values of the digits, the most significant one first. -/
def digits (spelling : IntegerSpelling) : List Nat :=
  spelling.body.filterMap (baseDigit? spelling.base.radix)

/-- The number that the digits stand for. -/
def value (spelling : IntegerSpelling) : Nat :=
  Nat.ofDigits spelling.base.radix spelling.digits.reverse

end IntegerSpelling

/-! ### Values of digits

An underscore has no value in any base, so leaving the underscores out and skipping them comes to
the same. -/

/-- The underscore is no digit. -/
theorem baseDigit?_underscore (base : IntegerBase) : baseDigit? base.radix '_' = none := by
  cases base <;> decide

/-- Underscores among digits have no value. -/
theorem filterMap_withoutUnderscores {digit? : Char → Option Nat} (noValue : digit? '_' = none)
    (text : List Char) : (text.filter (· != '_')).filterMap digit? = text.filterMap digit? := by
  rw [List.filterMap_filter]
  refine List.filterMap_congr fun c _ => ?_
  split
  · rfl
  · next isUnderscore =>
    rw [Bool.not_eq_true, bne_eq_false_iff_eq] at isUnderscore
    rw [isUnderscore, noValue]

/-- Digits one behind the other have their values one behind the other. -/
theorem separatedDigits?_eq_filterMap {base : IntegerBase} {text : List Char}
    (digit : ∀ c ∈ text, (baseDigit? base.radix c).isSome = true) (notNil : text ≠ []) :
    separatedDigits? base.radix text = some (text.filterMap (baseDigit? base.radix)) := by
  induction text with
  | nil => exact absurd rfl notNil
  | cons c rest ih =>
    obtain ⟨value, first⟩ := Option.isSome_iff_exists.mp (digit c List.mem_cons_self)
    rw [List.filterMap_cons_some first]
    cases rest with
    | nil => rw [separatedDigits?, first]; rfl
    | cons d rest =>
      have notUnderscore : d ≠ '_' := by
        rintro rfl
        have isDigit := digit '_' (by simp)
        rw [baseDigit?_underscore] at isDigit
        cases isDigit
      have others := ih (fun c listed => digit c (List.mem_cons_of_mem _ listed))
        (List.cons_ne_nil d rest)
      rw [separatedDigits?.eq_4 base.radix c (d :: rest) (List.cons_ne_nil d rest)
        fun _ same => notUnderscore (List.cons.inj same).1, first, others]
      rfl

/-- The value of a list of digits. -/
theorem digitsValue_eq_ofDigits (base : Nat) (digits : List Nat) :
    digitsValue base digits = Nat.ofDigits base digits.reverse := by
  rw [Nat.ofDigits_eq_foldr, List.foldr_reverse, digitsValue]
  simp only [Nat.cast_id, Nat.mul_comm base, Nat.add_comm]

/-! ### What is cut off

What is found first among the names that can be cut off is what is found at all. -/

/-- The first of some partial functions that has a value, where they agree on it. -/
theorem findSome?_eq_of_agree {α β : Type} {pick : α → Option β} {list : List α} {value : β}
    (agree : ∀ a ∈ list, ∀ other, pick a = some other → other = value)
    (found : ∃ a ∈ list, pick a = some value) : list.findSome? pick = some value := by
  obtain ⟨a, listed, picked⟩ := found
  cases result : list.findSome? pick with
  | none =>
    rw [List.findSome?_eq_none_iff.mp result a listed] at picked
    cases picked
  | some other =>
    obtain ⟨b, isMember, pickedOther⟩ := List.exists_of_findSome?_eq_some result
    rw [agree b isMember other pickedOther]

/-- The name of a type is cut off where it stands at the end. -/
theorem withoutSuffix?_append (text : List Char) (suffix : String) :
    withoutSuffix? (text ++ suffix.toList) suffix = some text := by
  have ends : suffix.toList.isSuffixOf (text ++ suffix.toList) = true :=
    List.isSuffixOf_iff_suffix.mpr (List.suffix_append _ _)
  rw [withoutSuffix?, if_pos ends, List.length_append, String.length_toList, Nat.add_sub_cancel,
    List.take_left]

/-- No name of an integer type ends in another one. -/
theorem eq_of_suffix_of_mem_integerSuffixes {suffix other : String}
    (listed : suffix ∈ integerSuffixes) (listedOther : other ∈ integerSuffixes)
    (ends : suffix.toList <:+ other.toList) : suffix = other := by
  have apart : ∀ suffix ∈ integerSuffixes, (integerSuffixes.all fun other =>
      suffix.toList.isSuffixOf other.toList → suffix = other) = true :=
    forall_mem_of_all (by decide)
  have same := List.all_eq_true.mp (apart suffix listed) other listedOther
  exact of_decide_eq_true same (List.isSuffixOf_iff_suffix.mpr ends)

/-- Nothing is cut off a text that holds no letter of an integer type. -/
theorem findSome?_withoutSuffix?_of_plain {text : List Char}
    (plain : ∀ c, c = 'u' ∨ c = 'i' → c ∉ text) :
    integerSuffixes.findSome? (withoutSuffix? text) = none := by
  have letter : ∀ suffix ∈ integerSuffixes,
      (suffix.toList.any fun c => c = 'u' ∨ c = 'i') = true := forall_mem_of_all (by decide)
  refine List.findSome?_eq_none_iff.mpr fun suffix listed => if_neg fun ends => ?_
  obtain ⟨c, inSuffix, isLetter⟩ := List.any_eq_true.mp (letter suffix listed)
  exact plain c (of_decide_eq_true isLetter)
    ((List.isSuffixOf_iff_suffix.mp ends).subset inSuffix)

namespace IntegerSpelling

variable (spelling : IntegerSpelling)

/-- The digits without the underscores among them. -/
def bare : List Char := spelling.body.filter (· != '_')

/-- Without the underscores there are only digits. -/
theorem isDigit_of_mem_bare : ∀ c ∈ spelling.bare, (baseDigit? spelling.base.radix c).isSome := by
  intro c listed
  obtain ⟨inBody, notUnderscore⟩ := List.mem_filter.mp listed
  exact spelling.digit c inBody (bne_iff_ne.mp notUnderscore)

/-- What is no digit does not stand among the digits. -/
theorem not_mem_bare {c : Char} (notDigit : baseDigit? spelling.base.radix c = none) :
    c ∉ spelling.bare := by
  intro listed
  have isDigit := spelling.isDigit_of_mem_bare c listed
  rw [notDigit] at isDigit
  cases isDigit

/-- There is a digit at least. -/
theorem bare_ne_nil : spelling.bare ≠ [] := by
  obtain ⟨c, inBody, notUnderscore⟩ := spelling.filled
  exact List.ne_nil_of_mem (List.mem_filter.mpr ⟨inBody, bne_iff_ne.mpr notUnderscore⟩)

/-- The digits have the same values without the underscores among them. -/
theorem filterMap_bare : spelling.bare.filterMap (baseDigit? spelling.base.radix) =
    spelling.digits :=
  filterMap_withoutUnderscores (baseDigit?_underscore spelling.base) spelling.body

/-- The mark and the digits hold no letter that stands in the name of every integer type. -/
theorem not_mem_mark_append_bare {c : Char} (isLetter : c = 'u' ∨ c = 'i') :
    c ∉ spelling.base.mark ++ spelling.bare := by
  have other (base : IntegerBase) : c ∉ base.mark ∧ baseDigit? base.radix c = none := by
    rcases isLetter with rfl | rfl <;> cases base <;> decide
  intro listed
  rcases List.mem_append.mp listed with inMark | inDigits
  · exact (other spelling.base).1 inMark
  · exact spelling.not_mem_bare (other spelling.base).2 inDigits

/-- What is cut off a literal is the name of its type, if there is one. -/
theorem findSome?_withoutSuffix? :
    (integerSuffixes.findSome?
      (withoutSuffix? (spelling.base.mark ++ spelling.bare ++ spelling.suffix.toList))).getD
        (spelling.base.mark ++ spelling.bare ++ spelling.suffix.toList) =
      spelling.base.mark ++ spelling.bare := by
  rcases spelling.named with none | listed
  · rw [none, String.toList_empty, List.append_nil]
    rw [findSome?_withoutSuffix?_of_plain fun _ isLetter =>
      spelling.not_mem_mark_append_bare isLetter]
    rfl
  · have cut := withoutSuffix?_append (spelling.base.mark ++ spelling.bare) spelling.suffix
    refine congrArg (Option.getD · _) (findSome?_eq_of_agree ?_ ⟨_, listed, cut⟩)
    intro suffix isName other isCut
    -- two names at the end of one text are the same
    have ends : suffix.toList <:+
        spelling.base.mark ++ spelling.bare ++ spelling.suffix.toList := by
      rw [withoutSuffix?] at isCut
      split at isCut
      next ends => exact List.isSuffixOf_iff_suffix.mp ends
      next => cases isCut
    have same : suffix = spelling.suffix := by
      rcases List.suffix_or_suffix_of_suffix ends (List.suffix_append _ _) with inside | outside
      · exact eq_of_suffix_of_mem_integerSuffixes isName listed inside
      · exact (eq_of_suffix_of_mem_integerSuffixes listed isName outside).symm
    rw [same, cut] at isCut
    exact (Option.some.inj isCut).symm

/-- A literal without underscores and without the name of its type is its mark and its digits. -/
theorem literalDigits_text :
    literalDigits spelling.text.toList = spelling.base.mark ++ spelling.bare := by
  have inMark : spelling.base.mark.filter (· != '_') = spelling.base.mark := by
    cases spelling.base <;> decide
  have inSuffix : spelling.suffix.toList.filter (· != '_') = spelling.suffix.toList := by
    have plain : ∀ suffix ∈ integerSuffixes,
        suffix.toList.filter (· != '_') = suffix.toList := forall_mem_of_all (by decide)
    rcases spelling.named with none | listed
    · rw [none]
      rfl
    · exact plain _ listed
  rw [literalDigits, text, String.toList_ofList, List.filter_append, List.filter_append, inMark,
    inSuffix]
  exact spelling.findSome?_withoutSuffix?

end IntegerSpelling

/-! ### The value of a literal

The base is found by the letter of its mark, which no digit in front of it and no name of a type can
be taken for. -/

/-- Without the letter of a mark the base is the decimal one. -/
theorem literalBase_of_plain {text : List Char}
    (plain : ∀ c ∈ ['x', 'X', 'o', 'O', 'b', 'B'], c ∉ text) : literalBase text = 10 := by
  unfold literalBase
  split
  next letter rest =>
    have differ (c : Char) (listed : c ∈ ['x', 'X', 'o', 'O', 'b', 'B']) : letter ≠ c := by
      rintro rfl
      exact plain _ listed (by simp)
    simp [differ]
  next => rfl

namespace IntegerSpelling

variable (spelling : IntegerSpelling)

/-- The mark gives the base away. -/
theorem literalBase_eq : literalBase (spelling.base.mark ++ spelling.bare) =
    spelling.base.radix := by
  cases isBase : spelling.base with
  | binary => rfl
  | octal => rfl
  | hexadecimal => rfl
  | decimal =>
    have noLetter : ∀ c ∈ ['x', 'X', 'o', 'O', 'b', 'B'], c ∉ spelling.bare := by
      have noDigit : ∀ c ∈ ['x', 'X', 'o', 'O', 'b', 'B'],
          baseDigit? IntegerBase.decimal.radix c = none := forall_mem_of_all (by decide)
      exact fun c listed => spelling.not_mem_bare (isBase ▸ noDigit c listed)
    exact literalBase_of_plain noLetter

/-- Digits stand behind a zero and the letter of their base. -/
theorem withoutPrefix_marked {base : Nat} {letter : Char} {digits : List Char}
    (isLetter : some letter.toLower = prefixLetter? base) (noUnderscore : '_' ∉ digits) :
    withoutPrefix base ('0' :: letter :: digits) = digits := by
  rw [withoutPrefix, if_pos ⟨by decide, isLetter⟩]
  rintro rest rfl
  exact noUnderscore List.mem_cons_self

/-- The mark is not taken for digits, nor a digit for the underscore that may follow a mark. -/
theorem withoutPrefix_eq : withoutPrefix spelling.base.radix
    (spelling.base.mark ++ spelling.bare) = spelling.bare := by
  have noUnderscore := spelling.not_mem_bare (baseDigit?_underscore spelling.base)
  cases isBase : spelling.base with
  | decimal => exact withoutPrefix_ten _
  | binary => exact withoutPrefix_marked rfl noUnderscore
  | octal => exact withoutPrefix_marked rfl noUnderscore
  | hexadecimal => exact withoutPrefix_marked rfl noUnderscore

/-- The value of a literal is the number that its digits stand for.  Only a decimal literal may have
too many digits. -/
theorem readInteger?_text : readInteger? spelling.text =
    if spelling.base = .decimal ∧ decimalLimit < spelling.digits.length then none
    else some spelling.value := by
  have value : readMagnitude? spelling.base.radix (spelling.base.mark ++ spelling.bare) =
      some spelling.value := by
    rw [readMagnitude?, withoutPrefix_eq, separatedDigits?_eq_filterMap
      spelling.isDigit_of_mem_bare spelling.bare_ne_nil, filterMap_bare, Option.map_some,
      digitsValue_eq_ofDigits]
    rfl
  have count : spelling.bare.length = spelling.digits.length := by
    rw [← filterMap_bare]
    exact (List.filterMap_length_eq_length.mpr spelling.isDigit_of_mem_bare).symm
  have limited : spelling.base.radix = 10 ∧
      (spelling.base.mark ++ spelling.bare).length > decimalLimit ↔
        spelling.base = .decimal ∧ decimalLimit < spelling.digits.length := by
    rw [← count]
    cases spelling.base <;> simp [IntegerBase.radix, IntegerBase.mark]
  rw [readInteger?, literalDigits_text, literalBase_eq, value]
  simp only [limited]

end IntegerSpelling

/-! ### Texts without a value

A literal that is neither marked nor named has decimal digits only.  Anything else in it makes it
one without a value, as it does to the literals of floats. -/

/-- Only digits and underscores have a value. -/
theorem digit_of_separatedDigits? {base : Nat} {text : List Char} {digits : List Nat}
    (read : separatedDigits? base text = some digits) :
    ∀ c ∈ text, c = '_' ∨ (baseDigit? base c).isSome = true := by
  fun_induction separatedDigits? base text generalizing digits with
  | case1 => cases read
  | case2 c =>
    obtain ⟨digit, isDigit, -⟩ := Option.map_eq_some_iff.mp read
    exact fun d listed => .inr (List.mem_singleton.mp listed ▸ Option.isSome_of_eq_some isDigit)
  | case3 c rest ih =>
    simp only [bind, Option.bind_eq_some_iff] at read
    obtain ⟨digit, isDigit, others, areDigits, -⟩ := read
    exact List.forall_mem_cons.mpr ⟨.inr (Option.isSome_of_eq_some isDigit),
      List.forall_mem_cons.mpr ⟨.inl rfl, ih areDigits⟩⟩
  | case4 c rest _ _ ih =>
    simp only [bind, Option.bind_eq_some_iff] at read
    obtain ⟨digit, isDigit, others, areDigits, -⟩ := read
    exact List.forall_mem_cons.mpr ⟨.inr (Option.isSome_of_eq_some isDigit), ih areDigits⟩

/-- A text without the letters of marks and types that holds anything but decimal digits and
underscores has no value. -/
theorem readInteger?_eq_none {text : List Char}
    (plain : ∀ c ∈ ['x', 'X', 'o', 'O', 'b', 'B', 'u', 'i'], c ∉ text)
    (other : ∃ c ∈ text, c ≠ '_' ∧ baseDigit? 10 c = none) :
    readInteger? (String.ofList text) = none := by
  have kept {c : Char} (listed : c ∈ text.filter (· != '_')) : c ∈ text :=
    (List.mem_filter.mp listed).1
  have isBare : literalDigits text = text.filter (· != '_') := by
    rw [literalDigits, findSome?_withoutSuffix?_of_plain, Option.getD_none]
    rintro c (rfl | rfl) listed <;> exact plain _ (by decide) (kept listed)
  have isDecimal : literalBase (text.filter (· != '_')) = 10 :=
    literalBase_of_plain fun c listed inBare =>
      plain c (List.mem_append_left ['u', 'i'] listed) (kept inBare)
  have noValue : readMagnitude? 10 (text.filter (· != '_')) = none := by
    rw [readMagnitude?, withoutPrefix_ten, Option.map_eq_none_iff,
      Option.eq_none_iff_forall_ne_some]
    intro digits read
    obtain ⟨c, listed, notUnderscore, noDigit⟩ := other
    rcases digit_of_separatedDigits? read c
      (List.mem_filter.mpr ⟨listed, bne_iff_ne.mpr notUnderscore⟩) with isUnderscore | isDigit
    · exact notUnderscore isUnderscore
    · rw [noDigit] at isDigit
      cases isDigit
  rw [readInteger?, String.toList_ofList, isBare, isDecimal, noValue, ite_self]

/-! ### Numerals

The numeral of a number is one of its spellings, the shortest one. -/

/-- The value of a digit. -/
theorem baseDigit?_of_mem_asciiDigits {c : Char} (listed : c ∈ asciiDigits) :
    baseDigit? 10 c = some (c.toNat - '0'.toNat) := by
  have value : ∀ c ∈ asciiDigits, baseDigit? 10 c = some (c.toNat - '0'.toNat) :=
    forall_mem_of_all (by decide)
  exact value c listed

namespace IntegerSpelling

/-- The numeral of a number spells it without a mark, underscores or the name of a type. -/
def numeral (n : Nat) : IntegerSpelling where
  base := .decimal
  body := (Nat.repr n).toList
  suffix := ""
  digit c listed _ :=
    Option.isSome_of_eq_some (baseDigit?_of_mem_asciiDigits (mem_asciiDigits_of_mem_repr listed))
  filled := by
    obtain ⟨c, listed⟩ := List.exists_mem_of_ne_nil (Nat.repr n).toList (by
      rw [Nat.toList_repr]
      exact Nat.toDigits_ne_nil)
    refine ⟨c, listed, ?_⟩
    rintro rfl
    exact absurd (mem_asciiDigits_of_mem_repr listed) (by decide)
  named := .inl rfl

private theorem text_numeral (n : Nat) : (numeral n).text = Nat.repr n := by
  show String.ofList ([] ++ (Nat.repr n).toList ++ "".toList) = _
  rw [List.nil_append, String.toList_empty, List.append_nil, String.ofList_toList]

private theorem digits_numeral (n : Nat) :
    (numeral n).digits = (Nat.repr n).toList.map fun c => c.toNat - '0'.toNat := by
  rw [← List.filterMap_eq_map]
  exact List.filterMap_congr fun c listed =>
    baseDigit?_of_mem_asciiDigits (mem_asciiDigits_of_mem_repr listed)

private theorem value_numeral (n : Nat) : (numeral n).value = n := by
  rw [value, ← digitsValue_eq_ofDigits, digits_numeral]
  exact (digitsValue_map _).trans (by rw [Nat.toList_repr, Nat.ofDigitChars_ten_toDigits])

end IntegerSpelling

/-- The value of a numeral is the number that it was written for, unless it is too long to be
read. -/
theorem readInteger?_repr {n : Nat} (short : (Nat.repr n).length ≤ decimalLimit) :
    readInteger? (Nat.repr n) = some n := by
  have count : (IntegerSpelling.numeral n).digits.length = (Nat.repr n).length := by
    rw [IntegerSpelling.digits_numeral, List.length_map, String.length_toList]
  have read := (IntegerSpelling.numeral n).readInteger?_text
  rwa [IntegerSpelling.text_numeral, IntegerSpelling.value_numeral, count,
    if_neg fun both => Nat.not_lt_of_le short both.2] at read

end OpenResponse
