import OpenResponse.Proofs.Response.Writing

/-!
# Resolving statuses

A status is an integer, the string of a range or the path of a name, and its first token says which
of them.  An integer is resolved to the numeral of its value, a string stays what it is, and a path
is resolved to the numeral of the code that the last of its names has.  There is nothing else that a
text is resolved to, and what it is resolved to can be resolved again, a numeral as it is and the
string of a range between quotes.

The tokens of statuses are given by a relation with one case for each of these, and the text is
related to its tokens by scanning.  From there on nothing is read: a numeral that a status is
resolved to is canonical because it was made of a number, a range because it is listed.  That it
resolves to itself is the law for writing a status, which a canonical numeral and the literal of a
range are cases of.

## Main definitions

* `IsCanonicalNumeral` — numerals in their shortest form
* `Resolves` — the tokens of statuses, with what they are resolved to

## Main statements

* `resolveStatus_iff` — the tokens of a text say what it is resolved to
* `resolveStatus_spelling` — what can be written as a status is resolved to itself
* `resolveStatus_closed` — **what a text is resolved to**

## Hypotheses

The last part of the result says that the names in front of the last one do not matter.  It is
stated for any other text that can be read as a path with the same last name, wherever it stands.

The limit is on the digits of the numeral and not of the literal.  A literal in another base may be
longer or shorter than the numeral of its value.
-/

namespace OpenResponse

/-! ### Canonical numerals

A numeral could have zeros in front, and then it would not be made again from its value.  Those that
are made from numbers have none. -/

/-- A numeral in its shortest form: digits, the first of which is zero only if it is alone. -/
structure IsCanonicalNumeral (text : String) : Prop where
  filled : text ≠ ""
  digits : ∀ c ∈ text.toList, c ∈ asciiDigits
  leading : text.toList.head? = some '0' → text = "0"

/-- The first digit of a positive number is not zero. -/
theorem head_toDigits_ne_zero {n : Nat} (positive : 0 < n) :
    (Nat.toDigits 10 n).head? ≠ some '0' := by
  induction n using Nat.strongRecOn with
  | _ n ih =>
    rw [Nat.toDigits_eq_if (by decide)]
    split
    next small =>
      have digit : ∀ n < 10, 0 < n → Nat.digitChar n ≠ '0' := by decide
      exact fun isZero => digit n small positive (Option.some.inj isZero)
    next large =>
      rw [List.head?_append_of_ne_nil _ Nat.toDigits_ne_nil]
      exact ih (n / 10) (Nat.div_lt_self positive (by decide)) (by omega)

/-- The numeral of a number is canonical: it has no zeros in front, and zero itself is one digit. -/
theorem isCanonicalNumeral_repr (n : Nat) : IsCanonicalNumeral (Nat.repr n) where
  filled isEmpty := by
    have isNil := congrArg String.toList isEmpty
    rw [Nat.toList_repr, String.toList_empty] at isNil
    exact Nat.toDigits_ne_nil isNil
  digits _ listed := mem_asciiDigits_of_mem_repr listed
  leading isZero := by
    rcases Nat.eq_zero_or_pos n with rfl | positive
    · rfl
    · rw [Nat.toList_repr] at isZero
      exact absurd isZero (head_toDigits_ne_zero positive)

/-- No canonical numeral is the string of a range. -/
theorem IsCanonicalNumeral.not_mem_statusRanges {text : String}
    (canonical : IsCanonicalNumeral text) : text ∉ statusRanges := by
  intro listed
  obtain ⟨c, inRange, notDigit⟩ := exists_letter_of_mem_statusRanges listed
  exact notDigit (canonical.digits c inRange)

/-! ### The tokens of statuses

The relation is the form of statuses, written as cases on the first token. -/

/-- The tokens of statuses, with what they are resolved to.  There is one constructor for each form,
and the kind of the first token tells them apart. -/
inductive Resolves : List Token → String → Prop
  /-- An integer is resolved to the numeral of its value. -/
  | integer {token : Token} {n : Nat} (isInteger : token.kind = .integer)
      (isValue : readInteger? token.value = some n) (small : n < Nat.pow 10 decimalLimit) :
      Resolves [token] (Nat.repr n)
  /-- The string of a range stays what it is. -/
  | range {token : Token} (isString : token.kind = .string) (known : token.value ∈ statusRanges) :
      Resolves [token] token.value
  /-- A path is resolved to the numeral of the code of its last name. -/
  | name {first : Token} {tail : List Token} {names : List String} {code : Nat}
      (isName : first.kind = .identifier) (path : PathTail tail names)
      (known : statusCode? (names.getLastD first.value) = some code) :
      Resolves (first :: tail) (Nat.repr code)

/-- The form of statuses allows the tokens of statuses, and no others. -/
theorem statusForm_iff {tokens : List Token} {status : String} :
    statusForm tokens status ↔ Resolves tokens status := by
  unfold statusForm
  cases tokens with
  | nil =>
    constructor
    · rintro (written | written | written) <;> exact absurd written Form.not_token_bind_nil
    · intro resolves
      cases resolves
  | cons first rest =>
    -- from here on the first token says which of the three forms it is
    rw [either_statusForm_iff]
    constructor
    · rintro (⟨isInteger, rfl, value⟩ | ⟨isString, rfl, value⟩ | ⟨isName, path⟩)
      · obtain ⟨n, isValue, rfl⟩ := Option.map_eq_some_iff.mp value
        obtain ⟨isValue, small⟩ := Option.filter_eq_some_iff.mp isValue
        exact .integer isInteger isValue (of_decide_eq_true small)
      · obtain ⟨same, known⟩ := Option.filter_eq_some_iff.mp value
        cases same
        exact .range isString (List.contains_iff_mem.mp known)
      · obtain ⟨tail, _, names, rfl, path, rfl, value⟩ := path
        obtain ⟨code, known, rfl⟩ := Option.map_eq_some_iff.mp value
        rw [List.append_nil]
        exact .name isName path known
    · intro resolves
      cases resolves with
      | integer isInteger isValue small =>
        refine .inl ⟨isInteger, rfl, ?_⟩
        rw [isValue, Option.filter_some, if_pos (decide_eq_true small)]
        rfl
      | range isString known =>
        refine .inr (.inl ⟨isString, rfl, ?_⟩)
        rw [Option.filter_some, if_pos (List.contains_iff_mem.mpr known)]
      | name isName path known =>
        refine .inr (.inr ⟨isName, rest, [], _, (List.append_nil _).symm, path, rfl, ?_⟩)
        rw [known]
        rfl

/-- The tokens of a text say what it is resolved to.  The text is cut into tokens without a fault,
and the tokens are those of a status. -/
theorem resolveStatus_iff {origin : Location} {text status : String} :
    resolveStatus origin text = .ok status ↔
      ∃ tokens, scan origin text.toList = .ok tokens ∧ Resolves tokens status :=
  (Parser.Reads.runOnAll_iff (fun _ => Parser.Reads.status) rfl).trans
    (exists_congr fun _ => and_congr_right fun _ => statusForm_iff)

/-! ### What statuses are resolved to

Three sorts of tokens, but only two sorts of statuses: a code is a numeral, whether it was written
as a number or by a name. -/

/-- The named statuses have codes of three digits. -/
theorem length_repr_of_statusCode? {name : String} {code : Nat}
    (known : statusCode? name = some code) : (Nat.repr code).length = 3 := by
  have three : ∀ pair ∈ statusCodes, (Nat.repr pair.1).length = 3 := forall_mem_of_all (by decide)
  obtain ⟨pair, found, rfl⟩ := Option.map_eq_some_iff.mp known
  exact three pair (List.mem_of_find?_eq_some found)

namespace Resolves

variable {tokens : List Token} {status : String}

/-- What tokens are resolved to can be written as a status. -/
theorem isStatus (resolves : Resolves tokens status) : IsStatus status := by
  cases resolves with
  | @integer _ n _ _ small =>
    exact .inr ⟨n, rfl, length_repr_of_lt_pow (by decide) small⟩
  | range _ known => exact .inl (List.contains_iff_mem.mpr known)
  | @name _ _ _ code _ _ known =>
    refine .inr ⟨code, rfl, ?_⟩
    rw [length_repr_of_statusCode? known]
    decide

end Resolves

/-- A status is a canonical numeral or the string of a range, and not too long. -/
theorem IsStatus.canonical_or_range {status : String} (isStatus : IsStatus status) :
    status.length ≤ decimalLimit ∧ (IsCanonicalNumeral status ∨ status ∈ statusRanges) := by
  rcases isStatus with listed | ⟨n, rfl, short⟩
  · have short : ∀ range ∈ statusRanges, range.length ≤ decimalLimit :=
      forall_mem_of_all (by decide)
    have known := List.contains_iff_mem.mp listed
    exact ⟨short status known, .inr known⟩
  · exact ⟨short, .inl (isCanonicalNumeral_repr n)⟩

/-- What can be written as a status is resolved to itself.  So resolving twice is resolving once, if
the second text is the spelling of the first result. -/
theorem resolveStatus_spelling {status : String} (isStatus : IsStatus status) (there : Location) :
    resolveStatus there (String.ofList (statusSymbol status).spelling) = .ok status := by
  have writes := writes_status isStatus
  obtain ⟨text, spelled⟩ := writes.spelled _ (List.mem_singleton_self _)
  have scanned : scan there (text ++ []) =
      .ok [⟨(statusSymbol status).kind, (statusSymbol status).value, there⟩] := by
    rw [scan_of_spells spelled (fun _ first => by cases first), scan.eq_1]
    rfl
  rw [List.append_nil, spelled.eq_spelling] at scanned
  rw [resolveStatus_iff, String.toList_ofList]
  exact ⟨_, scanned, statusForm_iff.mp (writes.allowed _ rfl)⟩

/-- A canonical numeral is written as it is. -/
theorem spelling_of_canonical {status : String} (canonical : IsCanonicalNumeral status) :
    String.ofList (statusSymbol status).spelling = status := by
  have notListed : ¬ statusRanges.contains status = true :=
    fun listed => canonical.not_mem_statusRanges (List.contains_iff_mem.mp listed)
  rw [statusSymbol, if_neg notListed]
  exact String.ofList_toList

/-- The string of a range is written between quotes. -/
theorem spelling_of_range {status : String} (listed : status ∈ statusRanges) :
    String.ofList (statusSymbol status).spelling = "\"" ++ status ++ "\"" := by
  have quoted : ∀ range ∈ statusRanges,
      String.ofList (statusSymbol range).spelling = "\"" ++ range ++ "\"" :=
    forall_mem_of_all (by decide)
  exact quoted status listed

/-- **What a text is resolved to.**  It is either a canonical numeral or the string of a range, and
not too long.  It is resolved to itself wherever it stands, a numeral as it is and the string of a
range between quotes.  The kind of the first token says how the text is read: an integer stands for
its value and never for a range, a string for itself and never for a numeral, and the path of a name
for the code of its last segment, whatever stands in front of that one. -/
theorem resolveStatus_closed {origin : Location} {text status : String}
    (resolved : resolveStatus origin text = .ok status) :
    status.length ≤ decimalLimit ∧
      (IsCanonicalNumeral status ∧ (∀ there, resolveStatus there status = .ok status) ∨
        status ∈ statusRanges ∧
          ∀ there, resolveStatus there ("\"" ++ status ++ "\"") = .ok status) ∧
      ∃ first rest, scan origin text.toList = .ok (first :: rest) ∧
        (first.kind = .integer ∧ (readInteger? first.value).map Nat.repr = some status ∧
            status ∉ statusRanges ∨
          first.kind = .string ∧ first.value = status ∧ ¬ IsCanonicalNumeral status ∨
          first.kind = .identifier ∧ ∃ names, PathTail rest names ∧
            (statusCode? (names.getLastD first.value)).map Nat.repr = some status ∧
            ∀ there other front back segments, scan there other = .ok (front :: back) →
              front.kind = .identifier → PathTail back segments →
              segments.getLastD front.value = names.getLastD first.value →
              resolveStatus there (String.ofList other) = .ok status) := by
  obtain ⟨tokens, scanned, resolves⟩ := resolveStatus_iff.mp resolved
  have isStatus := resolves.isStatus
  obtain ⟨short, kind⟩ := isStatus.canonical_or_range
  -- what comes out is read by itself; what went in is known from its first token
  refine ⟨short, ?stable, ?reading⟩
  case stable =>
    have again := resolveStatus_spelling isStatus
    rcases kind with canonical | listed
    · rw [spelling_of_canonical canonical] at again
      exact .inl ⟨canonical, again⟩
    · rw [spelling_of_range listed] at again
      exact .inr ⟨listed, again⟩
  case reading =>
    cases resolves with
    | @integer token n isInteger isValue small =>
      refine ⟨token, [], scanned, .inl ⟨isInteger, ?_, ?_⟩⟩
      · rw [isValue]
        rfl
      · exact (isCanonicalNumeral_repr n).not_mem_statusRanges
    | @range token isString known =>
      exact ⟨token, [], scanned, .inr (.inl
        ⟨isString, rfl, fun canonical => canonical.not_mem_statusRanges known⟩)⟩
    | @name first tail names code isName path known =>
      refine ⟨first, tail, scanned, .inr (.inr ⟨isName, names, path, ?_, ?_⟩)⟩
      · rw [known]
        rfl
      · intro there other front back segments scannedOther isFirst pathOther same
        rw [resolveStatus_iff, String.toList_ofList]
        exact ⟨_, scannedOther, .name isFirst pathOther (same ▸ known)⟩

/-- A path, and the numeral of its code. -/
theorem resolveStatus_closed_path :
    resolveStatus .start "http::StatusCode::NOT_FOUND" = .ok "404" ∧
      IsCanonicalNumeral "404" ∧ ∀ there, resolveStatus there "404" = .ok "404" := by
  have resolved : resolveStatus .start "http::StatusCode::NOT_FOUND" = .ok "404" := by
    decide +kernel
  obtain ⟨-, numeral | ⟨listed, -⟩, -⟩ := resolveStatus_closed resolved
  · exact ⟨resolved, numeral⟩
  · exact absurd listed (by decide)

end OpenResponse
