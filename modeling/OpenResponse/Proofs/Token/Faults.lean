import OpenResponse.Proofs.Number.Spelling
import OpenResponse.Proofs.Token.Origin
import OpenResponse.Proofs.Token.Steps

/-!
# Faults of scanning

Scanning gives the tokens of a text or says what is wrong with it and where.  It stops at the first
step that fails, so the faults of a text are those of single steps at the places that scanning comes
to.

All of them are diagnostics but one.  The number of an escape is looked up as a character, and the
look-up takes numbers of thirty-two signed bits: what lies beyond them does not fail like any other
number that denotes no character, but with a fault of its own that knows no place.  Two digits
cannot lie beyond them, so this takes an escape whose digits stand between braces.

Scanning passes through a place of a text if all steps in front of it succeed.  A fault of the whole
is then a fault of the step at such a place, and the other way round, so it remains to go through
the forms of a step that fail: each of them says where, but for the strings with an escape of that
kind.

## Main definitions

* `Fault.IsDiagnostic` — a fault of grammar that says where it was found
* `ScanReaches`, `StringReaches` — the places that scanning, and reading a string, come to
* `MeetsHugeEscape` — texts in which scanning comes to an escape that is out of range

## Main statements

* `readNumeral?_natAbs_lt` — few digits make a small number
* `readEscape_overflow_iff` — the escapes that are out of range
* `scan_eq_error` — scanning fails where it comes to a step that fails
* `tokenize_error` — the faults of a text
* `tokenize_diagnoses` — **scanning a text gives tokens or a diagnostic**, but for those escapes

## Design notes

That the number of an escape with two digits is small enough needs a bound on the value of a numeral
by its length, for every base and with signs, separators and marks of a base allowed in the digits,
as the reader of numerals allows them.

An escape with the number of a surrogate is a diagnostic here like that of any other number that is
no character.  It is not out of range, so `MeetsHugeEscape` says nothing about it, and a reader that
decodes such escapes has the same texts on either side of the last statement.
-/

namespace OpenResponse

/-- A fault of grammar that says where it was found.  Such a fault can be shown to whoever wrote the
text. -/
structure Fault.IsDiagnostic (fault : Fault) : Prop where
  kind : fault.kind = .grammar
  located : fault.location.isSome = true

theorem Fault.IsDiagnostic.found {here : Location} {cause : Cause}
    (grammar : cause.kind = .grammar) : (Fault.found here cause).IsDiagnostic := ⟨grammar, rfl⟩

private theorem Fault.not_isDiagnostic_nowhere (cause : Cause) :
    ¬ (Fault.nowhere cause).IsDiagnostic :=
  fun diagnostic => by cases diagnostic.located

/-! ### Numbers of a few digits -/

section Numerals

variable {base : Nat}

private theorem length_separatedDigits?_le {text : List Char} {digits : List Nat}
    (read : separatedDigits? base text = some digits) : digits.length ≤ text.length := by
  fun_induction separatedDigits? base text generalizing digits with
  | case1 => cases read
  | case2 c =>
    obtain ⟨digit, -, rfl⟩ := Option.map_eq_some_iff.mp read
    exact Nat.le_refl _
  | case3 c rest ih =>
    obtain ⟨digit, -, read⟩ := Option.bind_eq_some_iff.mp read
    obtain ⟨others, readRest, same⟩ := Option.bind_eq_some_iff.mp read
    cases same
    have shorter := ih readRest
    simp only [List.length_cons]
    omega
  | case4 c rest _ _ ih =>
    obtain ⟨digit, -, read⟩ := Option.bind_eq_some_iff.mp read
    obtain ⟨others, readRest, same⟩ := Option.bind_eq_some_iff.mp read
    cases same
    have shorter := ih readRest
    simp only [List.length_cons]
    omega

private theorem length_withoutPrefix_le (base : Nat) (text : List Char) :
    (withoutPrefix base text).length ≤ text.length := by
  unfold withoutPrefix
  split
  · split
    · split <;> simp only [List.length_cons] <;> omega
    · exact Nat.le_refl _
  · exact Nat.le_refl _

private theorem length_trimNumeral_le (text : List Char) :
    (trimNumeral text).length ≤ text.length := by
  rw [trimNumeral, List.length_reverse]
  refine (List.dropWhile_sublist _).length_le.trans ?_
  rw [List.length_reverse]
  exact (List.dropWhile_sublist _).length_le

private theorem readMagnitude?_lt (large : 1 < base) {text : List Char} {value : Nat}
    (read : readMagnitude? base text = some value) : value < base ^ text.length := by
  obtain ⟨digits, separated, rfl⟩ := Option.map_eq_some_iff.mp read
  have few : digits.length ≤ text.length :=
    (length_separatedDigits?_le separated).trans (length_withoutPrefix_le base text)
  rw [digitsValue_eq_ofDigits]
  refine (Nat.ofDigits_lt_base_pow_length large fun digit listed => ?_).trans_le
    (Nat.pow_le_pow_right (Nat.zero_lt_of_lt large) (by rwa [List.length_reverse]))
  exact lt_of_mem_separatedDigits? separated digit (List.mem_reverse.mp listed)

/-- Few digits make a small number.  A numeral of so many characters is below the power of its base
with so many factors, whatever its sign. -/
theorem readNumeral?_natAbs_lt (large : 1 < base) {text : List Char} {value : Int}
    (read : readNumeral? base text = some value) : value.natAbs < base ^ text.length := by
  have short := length_trimNumeral_le text
  -- a sign makes the numeral longer and its magnitude no larger
  have bound {rest : List Char} {magnitude : Nat}
      (magnitudeRead : readMagnitude? base rest = some magnitude)
      (inside : rest.length ≤ text.length) : magnitude < base ^ text.length :=
    (readMagnitude?_lt large magnitudeRead).trans_le
      (Nat.pow_le_pow_right (Nat.zero_lt_of_lt large) inside)
  unfold readNumeral? at read
  split at read
  next rest trimmed =>
    obtain ⟨_, lifted, rfl⟩ := Option.map_eq_some_iff.mp read
    obtain ⟨magnitude, magnitudeRead, ⟨⟩⟩ := Option.bind_eq_some_iff.mp lifted
    rw [trimmed, List.length_cons] at short
    rw [Int.natAbs_neg, Int.natAbs_natCast]
    exact bound magnitudeRead (by omega)
  next rest trimmed =>
    obtain ⟨_, lifted, rfl⟩ := Option.map_eq_some_iff.mp read
    obtain ⟨magnitude, magnitudeRead, ⟨⟩⟩ := Option.bind_eq_some_iff.mp lifted
    rw [trimmed, List.length_cons] at short
    rw [Int.natAbs_natCast]
    exact bound magnitudeRead (by omega)
  next =>
    obtain ⟨_, lifted, rfl⟩ := Option.map_eq_some_iff.mp read
    obtain ⟨magnitude, magnitudeRead, ⟨⟩⟩ := Option.bind_eq_some_iff.mp lifted
    rw [Int.natAbs_natCast]
    exact bound magnitudeRead short

end Numerals

/-! ### Escapes -/

/-- A number beyond thirty-two signed bits. -/
def IsHuge (number : Option Int) : Prop := ∃ n ∈ number, n > 0x7fffffff ∨ n < -0x80000000

/-- The number between the braces of an escape, of which the text behind the opening one is given.
The digits may be separated, and the closing brace may be missing. -/
def bracedNumber? (behind : List Char) : Option Int :=
  readNumeral? 16 ((behind.takeWhile (· != '}')).filter (· != '_'))

private theorem escapedChar_overflow_iff {bad : Cause} (other : bad ≠ .escapeOverflow)
    (number : Option Int) :
    escapedChar bad number = .error .escapeOverflow ↔ IsHuge number := by
  unfold escapedChar IsHuge
  cases number with
  | none => simp [other]
  | some n =>
    simp only [Option.mem_some_iff, exists_eq_left']
    split
    next huge => exact ⟨fun _ => huge, fun _ => rfl⟩
    next small =>
      refine ⟨fun failed => ?_, fun huge => absurd huge small⟩
      split at failed
      · exact absurd (Except.error.inj failed) other
      · cases failed

/-- The number of two digits is not out of range. -/
theorem not_isHuge_take_two (rest : List Char) : ¬ IsHuge (readNumeral? 16 (rest.take 2)) := by
  rintro ⟨n, read, huge⟩
  have bound := readNumeral?_natAbs_lt (by decide) (Option.mem_def.mp read)
  have digits : (rest.take 2).length ≤ 2 := List.length_take_le _ _
  have few : 16 ^ (rest.take 2).length ≤ 16 ^ 2 := Nat.pow_le_pow_right (by decide) digits
  omega

/-- The escapes that are out of range.  They are numbers between braces that do not fit a machine
word; two digits never make such a number. -/
theorem readEscape_overflow_iff {text : List Char} :
    readEscape text = .error .escapeOverflow ↔
      ∃ behind, text = 'u' :: '{' :: behind ∧ IsHuge (bracedNumber? behind) := by
  have otherwise {p : Prop} (no : ¬ p) (other : ∀ behind, text ≠ 'u' :: '{' :: behind) :
      p ↔ ∃ behind, text = 'u' :: '{' :: behind ∧ IsHuge (bracedNumber? behind) :=
    iff_of_false no fun ⟨behind, same, _⟩ => other behind same
  unfold readEscape
  split
  next rest =>
    -- a number between braces may be of any size
    have denoted :
        escapedChar (.badUnicodeEscape (String.ofList (rest.takeWhile (· != '}'))))
          (bracedNumber? rest) = .error .escapeOverflow ↔ IsHuge (bracedNumber? rest) :=
      escapedChar_overflow_iff (by simp) _
    have only : (∃ behind, 'u' :: '{' :: rest = 'u' :: '{' :: behind ∧
        IsHuge (bracedNumber? behind)) ↔ IsHuge (bracedNumber? rest) := by simp
    rw [only, ← denoted, bracedNumber?]
    dsimp only
    split <;> rename_i escaped <;> rw [escaped] <;> simp
  next rest =>
    refine otherwise (fun failed => ?_) (by simp)
    dsimp only at failed
    split at failed
    · cases failed
    next escaped =>
      rw [Except.error.inj failed] at escaped
      -- two digits are never enough
      exact not_isHuge_take_two rest ((escapedChar_overflow_iff (by simp) _).mp escaped)
  next => exact otherwise nofun (by simp)
  next c rest notBraced _ _ =>
    refine otherwise (fun failed => ?_) fun behind same => ?_
    · split at failed <;> cases failed
    · cases same
      exact notBraced behind rfl rfl
  next => exact otherwise nofun (by simp)

/-! ### Strings

A fault of an escape is turned into one of its literal: an unknown escape is found where it stands,
and the others where the literal begins.  The one for numbers out of range keeps no place. -/

/-- Reading a string literal comes from a place behind its opening quote to a later one. -/
inductive StringReaches : List Char → List Char → Prop
  | here (text : List Char) : StringReaches text text
  | escape {rest denoted back : List Char} {used : Nat}
      (read : readEscape rest = .ok (denoted, used)) (later : StringReaches (rest.drop used) back) :
      StringReaches ('\\' :: rest) back
  | plain {c : Char} {rest back : List Char} (notQuote : c ≠ '"') (notBackslash : c ≠ '\\')
      (later : StringReaches rest back) : StringReaches (c :: rest) back

/-- The fault of an escape is a diagnostic unless the escape is out of range. -/
theorem escapeFault_isDiagnostic {text : List Char} {cause : Cause}
    (failed : readEscape text = .error cause) (start here : Location) :
    (escapeFault start here cause).IsDiagnostic ∨ cause = .escapeOverflow := by
  rcases readEscape_error failed with rfl | ⟨_, rfl⟩ | ⟨_, rfl⟩ | ⟨_, rfl⟩
  · exact .inr rfl
  · exact .inl (.found rfl)
  · exact .inl (.found rfl)
  · exact .inl (.found rfl)

/-- A string literal fails with a diagnostic, or because reading it comes to an escape that is out
of range. -/
theorem readString_error {start here : Location} {text : List Char} {fault : Fault}
    (failed : readString start here text = .error fault) :
    fault.IsDiagnostic ∨ fault = .nowhere .escapeOverflow ∧
      ∃ rest, StringReaches text ('\\' :: rest) ∧ readEscape rest = .error .escapeOverflow := by
  -- a fault is that of an escape met on the way, and the way is recorded
  fun_induction readString start here text generalizing fault with
  | case1 =>
    cases failed
    exact .inl (.found rfl)
  | case2 => cases failed
  | case3 here rest behind cause =>
    rename_i escape
    cases failed
    rcases escapeFault_isDiagnostic escape start behind with diagnostic | rfl
    · exact .inl diagnostic
    · exact .inr ⟨rfl, rest, .here _, escape⟩
  | case4 here rest behind denoted used escape other failedRest =>
    rename_i ih
    cases failed
    rcases ih failedRest with diagnostic | ⟨same, back, later, huge⟩
    · exact .inl diagnostic
    · exact .inr ⟨same, back, .escape escape later, huge⟩
  | case5 => cases failed
  | case6 here c rest notQuote notBackslash other failedRest ih =>
    cases failed
    rcases ih failedRest with diagnostic | ⟨same, back, later, huge⟩
    · exact .inl diagnostic
    · exact .inr ⟨same, back, .plain notQuote notBackslash later, huge⟩
  | case7 => cases failed

/-- A string literal in which reading comes to an escape that is out of range fails over it. -/
theorem StringReaches.readString_overflow {text rest : List Char}
    (reaches : StringReaches text ('\\' :: rest))
    (huge : readEscape rest = .error .escapeOverflow) (start here : Location) :
    readString start here text = .error (.nowhere .escapeOverflow) := by
  generalize whole : '\\' :: rest = back at reaches
  induction reaches generalizing here with
  | here =>
    rw [← whole, readString.eq_3, huge]
    rfl
  | escape read _ ih =>
    rw [readString.eq_3, read]
    dsimp only
    rw [ih _ whole]
  | plain notQuote notBackslash _ ih =>
    rw [readString.eq_4 _ _ _ _ notQuote notBackslash, ih _ whole]

/-! ### Steps of scanning -/

/-- A step of scanning that fails with a diagnostic, or over a string literal. -/
def StepDiagnoses (here : Location) (c : Char) (rest : List Char) (step : Except Fault Lexeme) :
    Prop :=
  ∀ fault, step = .error fault →
    fault.IsDiagnostic ∨ c = '"' ∧ readString here (here.next c) rest = .error fault

/-- A raw string literal fails with a diagnostic. -/
theorem readRawString_error {start : Location} {text : List Char} {fault : Fault}
    (failed : readRawString start text = .error fault) : fault.IsDiagnostic := by
  unfold readRawString at failed
  dsimp only at failed
  split at failed
  · split at failed
    · cases failed
    · cases failed
      exact .found rfl
  · cases failed
    exact .found rfl

/-- A step of scanning fails with a diagnostic, or over a string literal. -/
theorem readLexeme_diagnoses (here : Location) (c : Char) (rest : List Char) :
    StepDiagnoses here c rest (readLexeme here c rest) := by
  intro fault step
  cases readLexeme_eq_iff.mp step with
  | openComment | badLifetime | stray => exact .inl (.found rfl)
  | badString failed => exact .inr ⟨rfl, failed⟩
  | badRawString begins failed => exact .inl (readRawString_error failed)

/-! ### Texts

`ScanReaches` is the run of the scanner without the tokens.  It is a relation between a place with
the text behind it and a later one, so that what a text comes to can be said without computing it.
-/

/-- Scanning comes from one place of a text to a later one: every step in between succeeds. -/
inductive ScanReaches : Location → List Char → Location → List Char → Prop
  | here (here : Location) (text : List Char) : ScanReaches here text here text
  | step {here there : Location} {c : Char} {rest back : List Char} {lexeme : Lexeme}
      (read : readLexeme here c rest = .ok lexeme)
      (later : ScanReaches ((here.next c).behind (rest.take lexeme.more)) (rest.drop lexeme.more)
        there back) :
      ScanReaches here (c :: rest) there back

/-- Scanning fails exactly where it comes to a step that fails.  That step is a step of the text
itself, so a fault is met at a place that can be told from the text alone. -/
theorem scan_eq_error {here : Location} {text : List Char} {fault : Fault} :
    scan here text = .error fault ↔
      ∃ there c rest, ScanReaches here text there (c :: rest) ∧
        readLexeme there c rest = .error fault := by
  constructor
  · intro failed
    fun_induction scan here text generalizing fault with
    | case1 => cases failed
    | case2 here c rest other step =>
      cases failed
      exact ⟨here, c, rest, .here _ _, step⟩
    | case3 here c rest lexeme read other failedRest ih =>
      cases failed
      obtain ⟨there, d, back, later, step⟩ := ih failedRest
      exact ⟨there, d, back, .step read later, step⟩
    | case4 => cases failed
    | case5 => cases failed
  · rintro ⟨there, c, rest, reaches, step⟩
    -- the place is kept while the way to it gets shorter
    generalize whole : c :: rest = back at reaches
    induction reaches with
    | here => rw [← whole, scan, step]
    | step read _ ih =>
      rw [scan, read]
      dsimp only
      rw [ih step whole]

/-- Scanning a text comes to a string literal, and reading that to an escape, whose number is out of
range. -/
def MeetsHugeEscape (origin : Location) (text : List Char) : Prop :=
  ∃ there body behind, ScanReaches origin text there ('"' :: body) ∧
    StringReaches body ('\\' :: 'u' :: '{' :: behind) ∧ IsHuge (bracedNumber? behind)

theorem tokenize_eq_error {origin : Location} {text : String} {fault : Fault} :
    tokenize origin text = .error fault ↔ scan origin text.toList = .error fault := by
  rw [tokenize]
  cases scan origin text.toList with
  | error other =>
    constructor <;>
    · rintro ⟨⟩
      rfl
  | ok tokens => exact ⟨nofun, nofun⟩

/-- Scanning a text fails with a diagnostic, or because it comes to an escape that is out of
range. -/
theorem tokenize_error {origin : Location} {text : String} {fault : Fault}
    (failed : tokenize origin text = .error fault) :
    fault.IsDiagnostic ∨
      fault = .nowhere .escapeOverflow ∧ MeetsHugeEscape origin text.toList := by
  obtain ⟨there, c, rest, reaches, step⟩ := scan_eq_error.mp (tokenize_eq_error.mp failed)
  rcases readLexeme_diagnoses there c rest fault step with diagnostic | ⟨rfl, literal⟩
  · exact .inl diagnostic
  · refine (readString_error literal).imp_right fun ⟨same, body, inside, escape⟩ => ⟨same, ?_⟩
    obtain ⟨behind, rfl, huge⟩ := readEscape_overflow_iff.mp escape
    exact ⟨there, rest, behind, reaches, inside, huge⟩

/-- A text in which scanning comes to an escape that is out of range fails over it. -/
theorem MeetsHugeEscape.tokenize_overflow {origin : Location} {text : String}
    (meets : MeetsHugeEscape origin text.toList) :
    tokenize origin text = .error (.nowhere .escapeOverflow) := by
  obtain ⟨there, body, behind, reaches, inside, huge⟩ := meets
  have escape := readEscape_overflow_iff.mpr ⟨behind, rfl, huge⟩
  refine tokenize_eq_error.mpr (scan_eq_error.mpr ⟨there, '"', body, reaches, ?_⟩)
  exact (ScanStep.badString (inside.readString_overflow escape _ _)).readLexeme_eq

/-- **Scanning a text gives tokens or a diagnostic**, or it fails with the fault of an escape that
is out of range, which says no place; and the last exactly if it comes to such an escape. -/
theorem tokenize_diagnoses (origin : Location) (text : String) :
    ((∃ stream, tokenize origin text = .ok stream) ∨
      (∃ fault, tokenize origin text = .error fault ∧ fault.IsDiagnostic) ∨
      tokenize origin text = .error (.nowhere .escapeOverflow)) ∧
    (tokenize origin text = .error (.nowhere .escapeOverflow) ↔
      MeetsHugeEscape origin text.toList) := by
  refine ⟨?_, fun failed => ?_, MeetsHugeEscape.tokenize_overflow⟩
  · cases read : tokenize origin text with
    | ok stream => exact .inl ⟨stream, rfl⟩
    | error fault =>
      refine .inr ((tokenize_error read).imp (fun diagnosed => ⟨fault, rfl, diagnosed⟩)
        fun huge => ?_)
      rw [huge.1]
  · exact ((tokenize_error failed).resolve_left (Fault.not_isDiagnostic_nowhere _)).2

/-- An escape with a number of thirty-two bits is neither decoded nor reported at its place. -/
theorem tokenize_hugeEscape :
    ¬ ∀ (origin : Location) (text : String),
      (∃ stream, tokenize origin text = .ok stream) ∨
        ∃ fault, tokenize origin text = .error fault ∧ fault.IsDiagnostic := by
  intro diagnosed
  have overflow :
      tokenize .start "\"\\u\x7b80000000\x7d\"" = .error (.nowhere .escapeOverflow) := by
    decide +kernel
  rcases diagnosed .start "\"\\u\x7b80000000\x7d\"" with
    ⟨stream, read⟩ | ⟨fault, failed, diagnostic⟩
  · rw [overflow] at read
    cases read
  · rw [overflow] at failed
    cases failed
    exact Fault.not_isDiagnostic_nowhere _ diagnostic

end OpenResponse
