import OpenResponse.Proofs.Number.Spelling
import OpenResponse.Proofs.Status.Resolution

/-!
# Integers as statuses

However an integer is spelled, its text is a single token.  The letter of a mark and the digits
behind it belong to one name, and so does the name of a type, which begins no exponent.  The token
holds the text as it is, and what it is resolved to as a status is the numeral of its value.

Scanning and reading are separate questions here.  Where the token ends is decided by classes of
characters alone, without regard to the base; what its text stands for is decided by the base and
the digits.  The first is shown by cutting the text in digits and a suffix as the scanner sees them,
so that the digits of the scanner may end earlier than those of the spelling.

## Main statements

* `IntegerSpelling.exists_integerText` — the spellings of integers are texts of integers
* `IntegerSpelling.resolveStatus_text` — **every spelling of an integer means its value**

## Hypotheses

A decimal spelling has to begin with a digit, as otherwise its text would be a name.  Behind the
mark of a base an underscore may stand.

There are two limits, and both are needed.  One is on the digits of a decimal literal and is a
matter of reading it.  The other is on the value and is a matter of showing it, which a hexadecimal
literal of allowed length may exceed.
-/

namespace OpenResponse

/-- The name of an integer type continues a name and begins neither with a digit nor with the letter
of an exponent. -/
theorem suffix_of_mem_integerSuffixes {suffix : String}
    (named : suffix = "" ∨ suffix ∈ integerSuffixes) :
    (∀ c ∈ suffix.toList, continuesName c = true) ∧
      ∀ c ∈ suffix.toList.head?, (c == '_' || isDigit c) = false ∧ c ≠ 'e' ∧ c ≠ 'E' := by
  rcases named with rfl | listed
  · exact ⟨nofun, nofun⟩
  · have letters : ∀ suffix ∈ integerSuffixes,
        (suffix.toList.all fun c => continuesName c) = true ∧
          (suffix.toList.head?.all fun c => !(c == '_' || isDigit c) && c != 'e' && c != 'E') =
            true := forall_mem_of_all (by decide)
    obtain ⟨continues, first⟩ := letters suffix listed
    refine ⟨List.all_eq_true.mp continues, fun c isHead => ?_⟩
    rw [Option.mem_def.mp isHead, Option.all_some] at first
    simpa [and_assoc] using first

namespace IntegerSpelling

variable {spelling : IntegerSpelling}

/-- The spellings of integers are texts of integers, as long as a decimal one begins with a
digit. -/
theorem exists_integerText (leading : spelling.base = .decimal → spelling.body.head? ≠ some '_') :
    ∃ integer : IntegerText, integer.chars = spelling.text.toList := by
  obtain ⟨continues, first⟩ := suffix_of_mem_integerSuffixes spelling.named
  have body : ∀ c ∈ spelling.body, continuesName c = true := by
    intro c listed
    by_cases isUnderscore : c = '_'
    · subst isUnderscore
      decide
    · exact continuesName_of_baseDigit? (spelling.digit c listed isUnderscore)
  have name : ∀ c ∈ spelling.body ++ spelling.suffix.toList, continuesName c = true :=
    fun c listed => (List.mem_append.mp listed).elim (body c) (continues c)
  rw [text, String.toList_ofList, List.append_assoc]
  -- behind the mark of a base any name will do; a decimal has to be cut in digits and a suffix
  cases isBase : spelling.base with
  | binary => exact ⟨@IntegerText.based 'b' (by decide) _ name, rfl⟩
  | octal => exact ⟨@IntegerText.based 'o' (by decide) _ name, rfl⟩
  | hexadecimal => exact ⟨@IntegerText.based 'x' (by decide) _ name, rfl⟩
  | decimal =>
    have digit : ∀ c ∈ spelling.body, c ≠ '_' → isDigit c = true := by
      intro c listed notUnderscore
      have isValue := spelling.digit c listed notUnderscore
      rw [isBase] at isValue
      obtain ⟨value, isValue⟩ := Option.isSome_iff_exists.mp isValue
      exact isDigit_of_decimalDigit?
        (Option.isSome_of_eq_some (decimalDigit?_of_baseDigit? isValue))
    obtain ⟨c, rest, isBody⟩ := List.exists_cons_of_ne_nil
      (List.ne_nil_of_mem spelling.filled.choose_spec.1)
    have leads := leading isBase
    rw [isBody] at digit leads
    let integer : IntegerText :=
      { first := c
        digits := rest
        suffix := spelling.suffix.toList
        isFirst := digit c List.mem_cons_self fun isUnderscore => leads (congrArg some isUnderscore)
        areDigits := fun d listed => by
          by_cases isUnderscore : d = '_'
          · rw [isUnderscore]
            rfl
          · rw [digit d (List.mem_cons_of_mem c listed) isUnderscore, Bool.or_true]
        isSuffix := continues
        ends := fun d isHead => (first d isHead).1
        noExponent := by
          rintro ⟨letter, digit, behind, same, isLetter, -⟩
          have notLetter := (first letter (by rw [same]; rfl)).2
          exact isLetter.elim notLetter.1 notLetter.2 }
    refine ⟨integer, ?_⟩
    rw [isBody]
    rfl

/-- **Every spelling of an integer means its value.**  Whatever the base of a spelling, the case of
its digits, the underscores and zeros among them and the type behind them, the text is a single
token that holds all of it.  Its value is the number that the digits stand for, and as a status it
is resolved to the numeral of that number.  A decimal spelling begins with a digit, and is limited
in the number of its digits. -/
theorem resolveStatus_text (spelling : IntegerSpelling) (origin : Location)
    (leading : spelling.base = .decimal → spelling.body.head? ≠ some '_')
    (short : spelling.base = .decimal → spelling.digits.length ≤ decimalLimit)
    (small : spelling.value < Nat.pow 10 decimalLimit) :
    tokenize origin spelling.text =
        .ok ⟨[⟨.integer, spelling.text, origin⟩], origin.behind spelling.text.toList⟩ ∧
      readInteger? spelling.text = some spelling.value ∧
      resolveStatus origin spelling.text = .ok (Nat.repr spelling.value) := by
  have isToken : tokenize origin spelling.text =
      .ok ⟨[⟨.integer, spelling.text, origin⟩], origin.behind spelling.text.toList⟩ := by
    obtain ⟨integer, same⟩ := exists_integerText leading
    have isToken := tokenize_integer integer origin
    rwa [same, String.ofList_toList] at isToken
  have isValue : readInteger? spelling.text = some spelling.value := by
    rw [readInteger?_text, if_neg fun long => Nat.not_lt_of_le (short long.1) long.2]
  exact ⟨isToken, isValue,
    resolveStatus_iff.mpr ⟨_, (tokenize_eq_ok.mp isToken).1, .integer rfl isValue small⟩⟩

/-- A hexadecimal spelling with an underscore and the name of a type. -/
theorem resolveStatus_text_hexadecimal :
    tokenize .start "0x01_9Cu16" = .ok ⟨[⟨.integer, "0x01_9Cu16", .start⟩], ⟨1, 11⟩⟩ ∧
      readInteger? "0x01_9Cu16" = some 412 ∧ resolveStatus .start "0x01_9Cu16" = .ok "412" := by
  let spelling : IntegerSpelling :=
    { base := .hexadecimal
      body := ['0', '1', '_', '9', 'C']
      suffix := "u16"
      digit := forall_mem_of_all (by decide)
      filled := ⟨'0', by simp⟩
      named := .inr (by decide) }
  have text : spelling.text = "0x01_9Cu16" := by decide
  have value : spelling.value = 412 := by decide
  have small : spelling.value < Nat.pow 10 decimalLimit :=
    lt_pow_of_length_repr (by decide) (by rw [value]; decide)
  obtain ⟨isToken, isValue, resolved⟩ := resolveStatus_text spelling .start nofun nofun small
  rw [text] at isToken isValue resolved
  rw [value] at isValue resolved
  exact ⟨isToken, isValue, resolved⟩

end IntegerSpelling

end OpenResponse
