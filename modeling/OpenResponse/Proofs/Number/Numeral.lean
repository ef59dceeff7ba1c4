import OpenResponse.Number.Integer

/-!
# Numerals

The numeral of a number is made of the ten digits and of nothing else, and it is as long as the
number is great.

These are the facts about numerals that the readers of numbers need: which characters can occur, how
the length and the value bound each other, and that reading the digits from left to right gives the
number back.

## Main definitions

* `asciiDigits` — the digits of numerals

## Main statements

* `mem_asciiDigits_of_mem_repr` — numerals are made of digits
* `digitsValue_map` — the value of digits

## Design notes

The number of digits and the size of a number bound each other, in both directions: this is how a
limit on digits, which is what is checked of a text, and a limit on numbers, which is what is
checked of a value, come to the same.  The limit is never computed, as it would have thousands of
digits.
-/

namespace OpenResponse

/-- The ten digits that numerals are written with.  The decimal digits of other scripts are read as
well, and never written. -/
def asciiDigits : List Char := ['0', '1', '2', '3', '4', '5', '6', '7', '8', '9']

/-- What can be checked of the members of a list one by one holds of all of them. -/
theorem forall_mem_of_all {α : Type} {p : α → Prop} [DecidablePred p] {list : List α}
    (all : (list.all fun c => p c) = true) : ∀ c ∈ list, p c :=
  fun c listed => of_decide_eq_true (List.all_eq_true.mp all c listed)

private theorem mem_asciiDigits_of_isDigit {c : Char} (digit : c.isDigit = true) :
    c ∈ asciiDigits := by
  rw [Char.isDigit, Bool.and_eq_true, decide_eq_true_eq, decide_eq_true_eq] at digit
  have first : 48 ≤ c.toNat := digit.1
  have last : c.toNat ≤ 57 := digit.2
  have listed : ∀ n ≤ 57, 48 ≤ n → Char.ofNat n ∈ asciiDigits := by decide +kernel
  have same := listed c.toNat last first
  rwa [Char.ofNat_toNat] at same

/-- Numerals are made of digits.  So what is known of ten characters is known of every numeral. -/
theorem mem_asciiDigits_of_mem_repr {n : Nat} {c : Char} (listed : c ∈ (Nat.repr n).toList) :
    c ∈ asciiDigits := by
  rw [Nat.toList_repr] at listed
  exact mem_asciiDigits_of_isDigit (Nat.isDigit_of_mem_toDigits (by decide) (by decide) listed)

/-- A numeral of few digits is that of a small number. -/
theorem lt_pow_of_length_repr {n limit : Nat} (positive : 0 < limit)
    (short : (Nat.repr n).length ≤ limit) : n < Nat.pow 10 limit :=
  (Nat.length_repr_le_iff positive).mp short

/-- The numeral of a small number has few digits. -/
theorem length_repr_of_lt_pow {n limit : Nat} (positive : 0 < limit)
    (small : n < Nat.pow 10 limit) : (Nat.repr n).length ≤ limit :=
  (Nat.length_repr_le_iff positive).mpr small

/-- No literal has a mark in base ten. -/
theorem withoutPrefix_ten (text : List Char) : withoutPrefix 10 text = text := by
  unfold withoutPrefix
  split
  · exact if_neg fun both => by cases both.2
  · rfl

/-- The value of digits is the number that they stand for.  The most significant digit comes first
in a text and last in the library, so one of the lists is reversed. -/
theorem digitsValue_map (text : List Char) :
    digitsValue 10 (text.map fun c => c.toNat - '0'.toNat) = Nat.ofDigitChars 10 text 0 := by
  rw [digitsValue, List.foldl_map, Nat.ofDigitChars_eq_foldl]
  simp only [Nat.mul_comm]

end OpenResponse
