import OpenResponse.Proofs.Number.FloatSpelling
import OpenResponse.Proofs.Token.Faults
import OpenResponse.Proofs.Token.Layout

/-!
# Floats as values of examples

Where a number ends and of which kind it is, is settled before the name of its type is looked at.  A
fraction or an exponent makes it a float, whose reader knows the names of the types of floats.  An
exponent that begins with an underscore is not taken for one: without a sign it is a part of the
name behind the digits, and with a sign the number ends in front of the sign.  A number that has
neither a fraction nor an exponent that is taken for one is an integer, and the reader of integers
does not know the names of the types of floats.

So everything is decided by how the characters behind the fraction are cut: into the run of an
exponent, the rest of a name, and what comes behind that.  `numberExtent_chars` and `scan_chars`
take such a cut as a hypothesis and say what is scanned; after them there are only three cuts to
find.  Either the exponent is taken for one, or it is not and its letter begins the rest of a name,
or it is not and the name ends in front of its sign.  What is refused in the last case depends on
the sign: a plus sign makes no token, and a minus sign makes one, but then what stands in front of
it is a number that is refused itself.

## Main definitions

* `FloatSpelling.IsWhole` — spellings that make a single token
* `FloatSpelling.IsFloat` — spellings whose token is a float

## Main statements

* `FloatSpelling.IsWhole.scan_text` — the token of a spelling that is a single one
* `FloatSpelling.scan_signed` — where a spelling is cut otherwise
* `FloatSpelling.anyValue_text` — **which spellings of floats are read**

## Hypotheses

A spelling has no conditions on it but those that its parts carry: digits are digits and the suffix
is the name of a type of floats.  So the theorem covers all spellings, and says of each of them
which of its three parts applies.

That refused spellings are refused with a diagnostic is stated for the reader of values, not for a
reader of whole texts.  It is the stronger statement: the fault does not come from anything being
left over.
-/

namespace OpenResponse

/-! ### Runs

The runs of the scanner are compared with the parts of a spelling.  A run of digits takes
underscores too, but it has to begin with a digit, which is what `Leads` asks of the digits of an
exponent. -/

namespace SeparatedDigits

variable (run : SeparatedDigits)

/-- Digits and underscores belong to one run. -/
theorem mem_digitRun : ∀ c ∈ run.chars, (c == '_' || isDigit c) = true := by
  intro c listed
  by_cases isUnderscore : c = '_'
  · rw [isUnderscore]
    rfl
  · rw [isDigit_of_decimalDigit? (run.digit c listed isUnderscore), Bool.or_true]

/-- The run of digits ends where something else follows. -/
theorem digitRun_append {back : List Char}
    (ends : ∀ b ∈ back.head?, (b == '_' || isDigit b) = false) :
    digitRun (run.chars ++ back) = run.chars.length := by
  rw [digitRun, takeWhile_append_of_forall run.mem_digitRun ends]

/-- Digits and underscores continue names. -/
theorem continuesName_of_mem : ∀ c ∈ run.chars, continuesName c = true := by
  intro c listed
  by_contra other
  have stops := not_digitRun_of_not_continuesName (Bool.not_eq_true _ ▸ other)
  rw [run.mem_digitRun c listed] at stops
  cases stops

/-- Digits without an underscore in front begin with a digit. -/
theorem Leads.exists_cons {run : SeparatedDigits} (leads : run.Leads) :
    ∃ c rest, run.chars = c :: rest ∧ isDigit c = true := by
  obtain ⟨d, listed, -⟩ := run.filled
  obtain ⟨c, rest, same⟩ := List.exists_cons_of_ne_nil (List.ne_nil_of_mem listed)
  have notUnderscore : c ≠ '_' := fun isUnderscore => leads (by rw [same, isUnderscore]; rfl)
  exact ⟨c, rest, same, isDigit_of_decimalDigit? (run.digit c (by simp [same]) notUnderscore)⟩

/-- Digits behind an underscore begin with it. -/
theorem exists_cons_of_not_leads {run : SeparatedDigits} (other : ¬ run.Leads) :
    ∃ rest, run.chars = '_' :: rest :=
  List.head?_eq_some_iff.mp (not_not.mp other)

end SeparatedDigits

namespace FloatExponent

variable (exponent : FloatExponent)

/-- The letter of an exponent continues names. -/
theorem continuesName_letter : continuesName exponent.letter = true := by
  rcases exponent.isLetter with isE | isE <;> rw [isE] <;> decide

/-- A sign of an exponent is no digit. -/
theorem not_isDigit_of_sign {c : Char} (isSign : exponent.sign = some c) :
    (c = '+' ∨ c = '-') ∧ isDigit c = false := by
  have plusOrMinus := exponent.isSign c isSign
  exact ⟨plusOrMinus, by rcases plusOrMinus with rfl | rfl <;> decide⟩

/-- An exponent whose digits begin with a digit is the run of an exponent. -/
theorem exponentRun_of_leads (leads : exponent.digits.Leads) {back : List Char}
    (ends : ∀ b ∈ back.head?, (b == '_' || isDigit b) = false) :
    exponentRun (exponent.chars ++ back) = exponent.chars.length := by
  obtain ⟨c, rest, isCons, digit⟩ := leads.exists_cons
  have run := exponent.digits.digitRun_append ends
  rw [chars]
  cases isSign : exponent.sign with
  | none =>
    have others : digitRun (rest ++ back) = rest.length := by
      rw [digitRun, takeWhile_append_of_forall (fun d listed =>
        exponent.digits.mem_digitRun d (by simp [isCons, listed])) ends]
    show exponentRun (exponent.letter :: (exponent.digits.chars ++ back)) = _
    rw [isCons, List.cons_append, exponentRun, if_pos exponent.isLetter, if_pos digit, others]
    simp
    omega
  | some sign =>
    obtain ⟨plusOrMinus, noDigit⟩ := exponent.not_isDigit_of_sign isSign
    show exponentRun (exponent.letter :: sign :: (exponent.digits.chars ++ back)) = _
    rw [exponentRun, if_pos exponent.isLetter, if_neg (by rw [noDigit]; decide),
      if_pos ⟨plusOrMinus, by rw [isCons]; exact digit⟩, run]
    simp
    omega

/-- An exponent whose digits begin with an underscore is not the run of an exponent. -/
theorem exponentRun_of_not_leads (other : ¬ exponent.digits.Leads) (back : List Char) :
    exponentRun (exponent.chars ++ back) = 0 := by
  obtain ⟨rest, isCons⟩ := SeparatedDigits.exists_cons_of_not_leads other
  rw [chars, isCons]
  cases isSign : exponent.sign with
  | none =>
    show exponentRun (exponent.letter :: '_' :: (rest ++ back)) = 0
    rw [exponentRun, if_pos exponent.isLetter, if_neg (by decide), if_neg (by simp)]
  | some sign =>
    obtain ⟨-, noDigit⟩ := exponent.not_isDigit_of_sign isSign
    show exponentRun (exponent.letter :: sign :: '_' :: (rest ++ back)) = 0
    have noRun : ¬ (('_' :: (rest ++ back)).head?.any isDigit = true) := by
      rw [List.head?_cons, Option.any_some]
      decide
    rw [exponentRun, if_pos exponent.isLetter, if_neg (by rw [noDigit]; decide),
      if_neg fun both => noRun both.2]

end FloatExponent

namespace FloatSpelling

variable (spelling : FloatSpelling)

/-- A spelling that is a single token: its exponent is taken for one, or has no sign. -/
def IsWhole : Prop :=
  ∀ exponent ∈ spelling.exponent, exponent.digits.Leads ∨ exponent.sign = none

/-- A spelling whose token is a float: it has a fraction or an exponent that is taken for one. -/
def IsFloat : Prop :=
  spelling.fraction.isSome = true ∨ ∃ exponent ∈ spelling.exponent, exponent.digits.Leads

instance : Decidable spelling.IsWhole :=
  inferInstanceAs (Decidable (∀ exponent ∈ spelling.exponent, _))

instance : Decidable spelling.IsFloat :=
  inferInstanceAs (Decidable (_ ∨ ∃ exponent ∈ spelling.exponent, _))

/-! ### The extent of a float

Behind the whole digits stands a point, an exponent or the name of the type, so each run ends where
its part of the spelling does. -/

/-- The fraction of a float is the run of a fraction. -/
theorem fractionRun_append {back : List Char}
    (ends : ∀ b ∈ back.head?, (b == '_' || isDigit b) = false ∧ b ≠ '.') :
    fractionRun (spelling.fractionChars ++ back) = spelling.fractionChars.length := by
  rw [fractionChars]
  cases isFraction : spelling.fraction with
  | none => exact fractionRun_of_head fun b isHead => (ends b isHead).2
  | some digits =>
    obtain ⟨c, rest, isCons, digit⟩ := (spelling.fractionLeads digits isFraction).exists_cons
    have run := digits.digitRun_append fun b isHead => (ends b isHead).1
    rw [isCons] at run
    show fractionRun ('.' :: (digits.chars ++ back)) = digits.chars.length + 1
    rw [isCons, List.cons_append, fractionRun, if_pos digit, ← List.cons_append, run, Nat.add_comm]

/-- The characters behind the fraction. -/
def behind : List Char := spelling.exponentChars ++ spelling.suffix.toList

/-- Behind the fraction stands the letter of the exponent or that of the type, which no digit, no
underscore and no point is. -/
theorem head_behind : ∀ b ∈ spelling.behind.head?, (b == '_' || isDigit b) = false ∧ b ≠ '.' := by
  have letters : ∀ b ∈ ['e', 'E', 'f'], (b == '_' || isDigit b) = false ∧ b ≠ '.' :=
    forall_mem_of_all (by decide)
  intro b isHead
  refine letters b ?_
  rw [behind, exponentChars] at isHead
  cases isExponent : spelling.exponent with
  | none =>
    rw [isExponent, Option.elim_none, List.nil_append, spelling.head_suffix] at isHead
    cases isHead
    decide
  | some exponent =>
    rw [isExponent] at isHead
    cases isHead
    rcases exponent.isLetter with isE | isE <;> rw [isE] <;> decide

/-- The extent of a float, if it is known how the characters behind the fraction are cut. -/
theorem numberExtent_chars {exponent suffix back : List Char}
    (cut : spelling.behind = exponent ++ (suffix ++ back))
    (isExponent : exponentRun (exponent ++ (suffix ++ back)) = exponent.length)
    (isSuffix : nameRun (suffix ++ back) = suffix.length) :
    numberExtent spelling.chars =
      (if spelling.fraction = none ∧ exponent = [] then .integer else .float,
        (spelling.whole.chars ++ (spelling.fractionChars ++ (exponent ++ suffix))).length) := by
  have split : spelling.chars =
      spelling.whole.chars ++ (spelling.fractionChars ++ (exponent ++ (suffix ++ back))) := by
    rw [← cut]
    rfl
  have ends := spelling.head_behind
  rw [cut] at ends
  have decimal : ¬ BeginsBase spelling.chars := by
    rintro ⟨letter, isLetter, rest, same⟩
    have inChars : letter ∈ spelling.chars := by simp [same]
    have letters : ∀ c ∈ ['x', 'o', 'b'], c ∈ ['x', 'X', 'o', 'O', 'b', 'B', 'u', 'i'] :=
      forall_mem_of_all (by decide)
    exact spelling.not_mem_chars letter (letters letter isLetter) inChars
  -- behind the whole digits stands the point, or whatever stands behind a fraction
  have wholeEnds : ∀ b ∈ (spelling.fractionChars ++ (exponent ++ (suffix ++ back))).head?,
      (b == '_' || isDigit b) = false := by
    intro b isHead
    rw [fractionChars] at isHead
    cases isFraction : spelling.fraction with
    | none =>
      rw [isFraction] at isHead
      exact (ends b isHead).1
    | some digits =>
      rw [isFraction] at isHead
      cases isHead
      decide
  have extent := numberExtent_parts (split ▸ decimal) (spelling.whole.digitRun_append wholeEnds)
    (spelling.fractionRun_append ends) isExponent isSuffix
  rw [split, extent]
  congr 1
  have noFraction : spelling.fractionChars.length = 0 ↔ spelling.fraction = none := by
    rw [fractionChars]
    cases spelling.fraction <;> simp
  have same : spelling.fractionChars.length + exponent.length = 0 ↔
      spelling.fraction = none ∧ exponent = [] := by
    rw [Nat.add_eq_zero_iff, noFraction, List.length_eq_zero_iff]
  simp only [same]

/-! ### The tokens of a float

The value of a token is its text.  Where the number is cut off, the rest of the spelling is scanned
from the place behind it. -/

/-- Scanning makes a token of the characters up to the end of the number and goes on behind them. -/
theorem scan_chars {exponent suffix back : List Char}
    (cut : spelling.behind = exponent ++ (suffix ++ back))
    (isExponent : exponentRun (exponent ++ (suffix ++ back)) = exponent.length)
    (isSuffix : nameRun (suffix ++ back) = suffix.length) (here : Location) {lexeme : List Char}
    (isLexeme : lexeme = spelling.whole.chars ++ (spelling.fractionChars ++ (exponent ++ suffix))) :
    scan here spelling.chars =
      (⟨if spelling.fraction = none ∧ exponent = [] then .integer else .float,
        String.ofList lexeme, here⟩ :: ·) <$> scan (here.behind lexeme) back := by
  have split : spelling.chars = lexeme ++ back := by
    rw [isLexeme, List.append_assoc, List.append_assoc, List.append_assoc, ← cut]
    rfl
  have extent := spelling.numberExtent_chars cut isExponent isSuffix
  rw [← isLexeme, split] at extent
  obtain ⟨c, others, isCons, digit⟩ := spelling.leads.exists_cons
  obtain ⟨rest, rfl⟩ : ∃ rest, lexeme = c :: rest := ⟨_, by rw [isLexeme, isCons]; rfl⟩
  let symbol : Symbol :=
    { kind := if spelling.fraction = none ∧ exponent = [] then .integer else .float
      value := String.ofList (c :: rest) }
  have read : readLexeme here c (rest ++ back) =
      .ok ⟨rest.length, some (symbol.kind, symbol.value)⟩ := by
    rw [List.cons_append] at extent
    rw [(ScanStep.number digit extent).readLexeme_eq, ← List.cons_append, List.take_left]
    rfl
  rw [split]
  exact scan_token read

private theorem continuesName_of_mem_suffix :
    ∀ c ∈ spelling.suffix.toList, continuesName c = true := by
  have continues : ∀ c ∈ ['f', '3', '2', '6', '4'], continuesName c = true :=
    forall_mem_of_all (by decide)
  exact fun c listed => continues c (spelling.mem_suffix c listed)

/-- A spelling that is a single token is scanned as one. -/
theorem scan_of_cut {exponent suffix : List Char} (cut : spelling.behind = exponent ++ suffix)
    (isExponent : exponentRun spelling.behind = exponent.length)
    (continues : ∀ c ∈ suffix, continuesName c = true) (here : Location) :
    scan here spelling.text.toList =
      .ok [⟨if spelling.fraction = none ∧ exponent = [] then .integer else .float, spelling.text,
        here⟩] := by
  have nothing : ∀ b ∈ ([] : List Char).head?, continuesName b = false := fun _ isHead => by
    cases isHead
  have isSuffix : nameRun (suffix ++ []) = suffix.length := by
    rw [nameRun, takeWhile_append_of_forall continues nothing]
  have isLexeme : spelling.chars =
      spelling.whole.chars ++ (spelling.fractionChars ++ (exponent ++ suffix)) := by
    rw [← cut]
    rfl
  rw [← List.append_nil suffix] at cut
  rw [text, String.toList_ofList, spelling.scan_chars cut (cut ▸ isExponent) isSuffix here isLexeme,
    scan.eq_1]
  rfl

/-- Behind the fraction of a spelling that is a single token stand the run of an exponent and the
rest of a name.  A float has a fraction or such a run. -/
theorem IsWhole.exists_cut {spelling : FloatSpelling} (whole : spelling.IsWhole) :
    ∃ exponent suffix, spelling.behind = exponent ++ suffix ∧
      exponentRun spelling.behind = exponent.length ∧ (∀ c ∈ suffix, continuesName c = true) ∧
      (spelling.IsFloat ↔ ¬ (spelling.fraction = none ∧ exponent = [])) := by
  -- the name of a type continues neither digits nor an exponent, so the cut is in front of it
  have suffixEnds : ∀ b ∈ spelling.suffix.toList.head?,
      (b == '_' || isDigit b) = false ∧ ¬ (b = 'e' ∨ b = 'E') := by
    intro b isHead
    rw [spelling.head_suffix] at isHead
    cases isHead
    decide
  have suffixContinues := spelling.continuesName_of_mem_suffix
  cases isExponent : spelling.exponent with
  | none =>
    have isBehind : spelling.behind = spelling.suffix.toList := by
      rw [behind, exponentChars, isExponent]
      rfl
    refine ⟨[], spelling.suffix.toList, isBehind, ?_, suffixContinues, ?_⟩
    · rw [isBehind]
      exact exponentRun_of_head fun b isHead => (suffixEnds b isHead).2
    · simp [IsFloat, isExponent, Option.isSome_iff_ne_none]
  | some exponent =>
    have isBehind : spelling.behind = exponent.chars ++ spelling.suffix.toList := by
      rw [behind, exponentChars, isExponent]
      rfl
    by_cases leads : exponent.digits.Leads
    · refine ⟨exponent.chars, spelling.suffix.toList, isBehind, ?_, suffixContinues, ?_⟩
      · rw [isBehind]
        exact exponent.exponentRun_of_leads leads fun b isHead => (suffixEnds b isHead).1
      · simp [IsFloat, isExponent, leads, FloatExponent.chars]
    · -- without a sign the exponent is the beginning of a name
      have noSign := (whole exponent isExponent).resolve_left leads
      refine ⟨[], exponent.chars ++ spelling.suffix.toList, isBehind, ?_, fun c listed => ?_, ?_⟩
      · rw [isBehind]
        exact exponent.exponentRun_of_not_leads leads _
      · rcases List.mem_append.mp listed with inExponent | inSuffix
        · rw [FloatExponent.chars, noSign] at inExponent
          rcases List.mem_cons.mp inExponent with rfl | inDigits
          · exact exponent.continuesName_letter
          · exact exponent.digits.continuesName_of_mem c inDigits
        · exact suffixContinues c inSuffix
      · simp [IsFloat, isExponent, leads, Option.isSome_iff_ne_none]

/-- The token of a spelling that is a single one.  It is a float exactly if it has a point or an
exponent that is read as one. -/
theorem IsWhole.scan_text {spelling : FloatSpelling} (whole : spelling.IsWhole) (here : Location) :
    (spelling.IsFloat → scan here spelling.text.toList = .ok [⟨.float, spelling.text, here⟩]) ∧
      (¬ spelling.IsFloat →
        scan here spelling.text.toList = .ok [⟨.integer, spelling.text, here⟩]) := by
  obtain ⟨exponent, suffix, cut, isExponent, continues, isFloat⟩ := whole.exists_cut
  have scanned := spelling.scan_of_cut cut isExponent continues here
  refine ⟨fun float => ?_, fun integer => ?_⟩
  · rwa [if_neg (isFloat.mp float)] at scanned
  · rwa [if_pos (not_not.mp (mt isFloat.mpr integer))] at scanned

/-- An exponent that has a sign and begins with an underscore is cut off in front of the sign. -/
theorem scan_signed {spelling : FloatSpelling} {exponent : FloatExponent} {sign : Char}
    (given : spelling.exponent = some exponent) (isSign : exponent.sign = some sign)
    (other : ¬ exponent.digits.Leads) (here : Location) :
    scan here spelling.text.toList =
      (⟨if spelling.fraction = none then .integer else .float,
        String.ofList (spelling.stem exponent.letter), here⟩ :: ·) <$>
      scan (here.behind (spelling.stem exponent.letter))
        (sign :: (exponent.digits.chars ++ spelling.suffix.toList)) := by
  have isBehind : spelling.behind = [] ++ ([exponent.letter] ++
      (sign :: (exponent.digits.chars ++ spelling.suffix.toList))) := by
    rw [behind, exponentChars, given, Option.elim_some, FloatExponent.chars, isSign]
    simp
  have noRun : exponentRun spelling.behind = 0 := by
    rw [behind, exponentChars, given]
    exact exponent.exponentRun_of_not_leads other _
  have letterContinues : ∀ c ∈ [exponent.letter], continuesName c = true :=
    List.forall_mem_singleton.mpr exponent.continuesName_letter
  have signEnds : ∀ b ∈ (sign :: (exponent.digits.chars ++ spelling.suffix.toList)).head?,
      continuesName b = false := by
    intro b isHead
    cases isHead
    rcases exponent.isSign sign isSign with rfl | rfl <;> decide
  have isName : nameRun ([exponent.letter] ++
      (sign :: (exponent.digits.chars ++ spelling.suffix.toList))) = [exponent.letter].length := by
    rw [nameRun, takeWhile_append_of_forall letterContinues signEnds]
  rw [text, String.toList_ofList, spelling.scan_chars isBehind (isBehind ▸ noRun) isName here rfl]
  simp [stem]

end FloatSpelling

/-! ### Reading numbers

The reader of the values of examples sees a number and reads a numeral.  An integer that holds a
letter outside of the names of integer types has no value, and every spelling here holds one, the
letter of its type. -/

namespace Parser

variable {value : String} {here finish : Location} {rest : List Token}

/-- The value of an example that begins with a number is the number. -/
theorem anyValue_of_number {first : Token}
    (isNumber : first.kind = .integer ∨ first.kind = .float) :
    anyValue ⟨first :: rest, finish⟩ = numeral false ⟨first :: rest, finish⟩ := by
  have notString : ¬ (first.kind == .string) = true := by
    rcases isNumber with isKind | isKind <;> rw [isKind] <;> decide
  have notWord (word : String) : first.isWord word = false := by
    rcases isNumber with isKind | isKind <;> rw [Token.isWord, isKind] <;> rfl
  have opens : (first.kind == .integer || first.kind == .float || first.kind == .minus ||
      first.isWord "true" || first.isWord "false") = true := by
    rcases isNumber with isKind | isKind <;> rw [isKind] <;> rfl
  have isDocument : anyValue ⟨first :: rest, finish⟩ = document ⟨first :: rest, finish⟩ := by
    rw [anyValue, bind_of_ok (peek_apply _), TokenStream.lookahead_zero_cons, if_neg notString,
      bind_of_ok (atWordBefore_apply _ _ _), TokenStream.lookahead_zero_cons, notWord "json",
      Bool.false_and, if_neg Bool.false_ne_true, if_pos opens]
  have isNumeral : number ⟨first :: rest, finish⟩ = numeral false ⟨first :: rest, finish⟩ := by
    rw [number, bind_of_ok (eat_of_ne _ ?_)]
    · rfl
    · show first.kind ≠ .minus
      rcases isNumber with isKind | isKind <;> rw [isKind] <;> decide
  rw [isDocument, document, bind_of_ok (remaining_apply _), ← isNumeral]
  show documentWithin (rest.length + 1) _ = _
  rw [documentWithin, bind_of_ok (peek_apply _), TokenStream.lookahead_zero_cons]
  rcases isNumber with isKind | isKind <;> rw [isKind]

/-- An integer without a value is no value of an example. -/
theorem anyValue_integer (noValue : readInteger? value = none) :
    anyValue ⟨⟨.integer, value, here⟩ :: rest, finish⟩ =
      .error (.found here (.badInteger value)) ⟨rest, finish⟩ := by
  rw [anyValue_of_number (.inl rfl), numeral, bind_of_ok (peek_apply _)]
  refine (bind_of_ok (next_apply _)).trans (bind_of_error ?_)
  rw [TokenStream.lookahead_zero_cons, integerValue, noValue]
  rfl

/-- A float has the value of its literal. -/
theorem anyValue_float :
    anyValue ⟨⟨.float, value, here⟩ :: rest, finish⟩ =
      match readFloat? value with
      | some number => .ok (.float number) ⟨rest, finish⟩
      | none => .error (.found here (.badFloat value)) ⟨rest, finish⟩ := by
  rw [anyValue_of_number (.inr rfl), numeral, bind_of_ok (peek_apply _),
    TokenStream.lookahead_zero_cons]
  show (next >>= fun _ => _) _ = _
  rw [bind_of_ok (next_apply _)]
  cases readFloat? value <;> rfl

end Parser

namespace FloatSpelling

variable {spelling : FloatSpelling}

/-- A float is no integer: it holds the letter of its type. -/
theorem readInteger?_text : readInteger? spelling.text = none := by
  refine readInteger?_eq_none spelling.not_mem_chars ⟨'f', ?_, by decide, by decide⟩
  rw [chars_eq]
  exact List.mem_append_right _ (List.mem_of_mem_head? spelling.head_suffix)

/-- What is left of a float in front of the sign of its exponent is no integer either: it holds the
letter of the exponent. -/
theorem readInteger?_stem {exponent : FloatExponent} (given : spelling.exponent = some exponent) :
    readInteger? (String.ofList (spelling.stem exponent.letter)) = none := by
  have inChars : ∀ c ∈ spelling.stem exponent.letter, c ∈ spelling.chars := by
    intro c listed
    rw [stem, List.mem_append, List.mem_append, List.mem_singleton] at listed
    rw [chars, exponentChars, given, Option.elim_some, FloatExponent.chars, List.mem_append,
      List.mem_append, List.cons_append, List.mem_cons]
    exact listed.imp_right fun behind => behind.imp_right .inl
  refine readInteger?_eq_none
    (fun c listed inStem => spelling.not_mem_chars c listed (inChars c inStem))
    ⟨exponent.letter, by simp [stem], ?_⟩
  rcases exponent.isLetter with isE | isE <;> rw [isE] <;> decide

/-- A plus sign makes no token. -/
theorem scan_plus (here : Location) (rest : List Char) :
    scan here ('+' :: rest) = .error (.found here (.strayCharacter '+')) := by
  have stray := @ScanStep.stray here '+' rest (by decide) nofun (by decide) (by decide) (by decide)
    rfl
  rw [scan, stray.readLexeme_eq]

/-- A minus sign in front of a name makes two tokens. -/
theorem scan_minus {rest : List Char} (here : Location)
    (continues : ∀ c ∈ rest, continuesName c = true) :
    ∃ tokens, scan here ('-' :: '_' :: rest) = .ok tokens := by
  have name : Spells ('_' :: rest) ⟨.identifier, String.ofList ('_' :: rest)⟩ :=
    .name (by decide) continues
  have sign : Spells ['-'] ⟨.minus, '-'.toString⟩ := .mark rfl
  have scannedName (there : Location) : scan there ('_' :: rest ++ []) = _ :=
    scan_of_spells name fun _ isHead => by cases isHead
  have scanned : scan here (['-'] ++ ('_' :: rest)) = _ := scan_of_spells sign fun _ _ => rfl
  rw [List.append_nil] at scannedName
  rw [List.singleton_append, scannedName, scan.eq_1] at scanned
  exact ⟨_, scanned⟩

/-- A float whose exponent is cut off is refused, either where its sign makes no token or because
what is left in front of the sign has no value. -/
theorem anyValue_of_not_isWhole (cutOff : ¬ spelling.IsWhole) (origin : Location) :
    ∃ fault, Parser.anyValue.runOn origin spelling.text = .error fault ∧ fault.IsDiagnostic := by
  obtain ⟨exponent, given, other, sign, isSign⟩ : ∃ exponent, spelling.exponent = some exponent ∧
      ¬ exponent.digits.Leads ∧ ∃ sign, exponent.sign = some sign := by
    rw [IsWhole] at cutOff
    push Not at cutOff
    obtain ⟨exponent, given, other, signed⟩ := cutOff
    exact ⟨exponent, given, other, Option.ne_none_iff_exists'.mp signed⟩
  have scanned := scan_signed given isSign other origin
  generalize there : origin.behind (spelling.stem exponent.letter) = place at scanned
  -- a plus begins no token; a minus is one, so that the value ends in front of it
  rcases exponent.isSign sign isSign with rfl | rfl
  · rw [scan_plus] at scanned
    refine ⟨.found place (.strayCharacter '+'), ?_, .found rfl⟩
    rw [Parser.runOn, tokenize, scanned]
    rfl
  · obtain ⟨rest, isRest⟩ := SeparatedDigits.exists_cons_of_not_leads other
    have continues : ∀ c ∈ rest ++ spelling.suffix.toList, continuesName c = true := by
      intro c listed
      rcases List.mem_append.mp listed with inRest | inSuffix
      · exact exponent.digits.continuesName_of_mem c (by simp [isRest, inRest])
      · exact spelling.continuesName_of_mem_suffix c inSuffix
    obtain ⟨tokens, scannedRest⟩ := scan_minus place continues
    rw [isRest, List.cons_append, scannedRest] at scanned
    cases isFraction : spelling.fraction with
    | none =>
      rw [isFraction, if_pos rfl] at scanned
      exact ⟨_, Parser.runOn_of_error scanned
        (Parser.anyValue_integer (readInteger?_stem given)), .found rfl⟩
    | some digits =>
      rw [isFraction, if_neg (Option.some_ne_none digits)] at scanned
      have failed : Parser.anyValue
          ⟨⟨.float, String.ofList (spelling.stem exponent.letter), origin⟩ :: tokens,
            origin.behind spelling.text.toList⟩ = _ := Parser.anyValue_float
      rw [spelling.readFloat?_stem exponent.isLetter] at failed
      exact ⟨_, Parser.runOn_of_error scanned failed, .found rfl⟩

/-- **Which spellings of floats are read.**  A spelling is read as its number, with nothing left
over, exactly if it is a single token and that token is a float.  Every other one is refused with a
fault of grammar that says where it was found.  If it is a single token then, it has neither a
fraction nor an exponent that is taken for one, and is refused as an integer without a value. -/
theorem anyValue_text (spelling : FloatSpelling) (origin : Location) :
    (spelling.IsWhole ∧ spelling.IsFloat →
      Parser.anyValue.runOnAll origin spelling.text = .ok (.float spelling.value)) ∧
    (¬ (spelling.IsWhole ∧ spelling.IsFloat) → ∃ fault,
      Parser.anyValue.runOn origin spelling.text = .error fault ∧ fault.IsDiagnostic) ∧
    (spelling.IsWhole → ¬ spelling.IsFloat →
      Parser.anyValue.runOn origin spelling.text =
        .error (.found origin (.badInteger spelling.text))) := by
  have asInteger (whole : spelling.IsWhole) (integer : ¬ spelling.IsFloat) :
      Parser.anyValue.runOn origin spelling.text =
        .error (.found origin (.badInteger spelling.text)) :=
    Parser.runOn_of_error ((whole.scan_text origin).2 integer)
      (Parser.anyValue_integer readInteger?_text)
  refine ⟨fun ⟨whole, float⟩ => ?_, fun refused => ?_, asInteger⟩
  · refine Parser.runOnAll_of_ok ((whole.scan_text origin).1 float) ?_
    rw [Parser.anyValue_float, spelling.readFloat?_text]
  · by_cases whole : spelling.IsWhole
    · exact ⟨_, asInteger whole fun float => refused ⟨whole, float⟩, .found rfl⟩
    · exact anyValue_of_not_isWhole whole origin

/-- A fraction and an exponent with underscores. -/
theorem anyValue_text_scaled :
    Parser.anyValue.runOnAll .start "1_0.2_5E-0_1f32" =
      .ok (.float (Binary.ofDecimal 1025 (-3))) := by
  let spelling : FloatSpelling :=
    { whole := ⟨['1', '_', '0'], forall_mem_of_all (by decide), ⟨'1', by simp⟩⟩
      fraction := some ⟨['2', '_', '5'], forall_mem_of_all (by decide), ⟨'2', by simp⟩⟩
      exponent := some
        { letter := 'E'
          sign := some '-'
          digits := ⟨['0', '_', '1'], forall_mem_of_all (by decide), ⟨'0', by simp⟩⟩
          isLetter := .inr rfl
          isSign := fun _ isSign => .inr (Option.some.inj isSign).symm }
      suffix := "f32"
      leads := by decide
      fractionLeads := by
        rintro _ ⟨⟩
        decide
      named := .inl rfl }
  have text : spelling.text = "1_0.2_5E-0_1f32" := by decide
  have value : spelling.value = Binary.ofDecimal 1025 (-3) := rfl
  have read := (anyValue_text spelling .start).1 (by decide)
  rwa [text, value] at read

/-- A number with the name of the type of a float, but with neither a fraction nor an exponent, is
not read. -/
theorem anyValue_typedInteger :
    ¬ ∀ spelling : FloatSpelling, ∃ number,
      Parser.anyValue.runOnAll .start spelling.text = .ok number := by
  intro reads
  let spelling : FloatSpelling :=
    { whole := ⟨['1'], forall_mem_of_all (by decide), ⟨'1', by simp⟩⟩
      fraction := none
      exponent := none
      suffix := "f32"
      leads := by decide
      fractionLeads := nofun
      named := .inl rfl }
  obtain ⟨number, read⟩ := reads spelling
  have text : spelling.text = "1f32" := by decide
  have refused : (Parser.anyValue.runOnAll .start "1f32").toOption.isNone = true := by
    decide +kernel
  rw [← text, read] at refused
  cases refused

end FloatSpelling

end OpenResponse
