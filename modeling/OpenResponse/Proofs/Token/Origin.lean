import OpenResponse.Proofs.Token.Relocation

/-!
# Where a text begins

Scanning a text at two origins cuts it into the same tokens or finds the same fault; only the
locations differ, and they differ as the origins do.  Together with what holds of parsers this
carries over to everything that is read off a text.

Only the places that the text itself reaches have to be related.  So the relation may say that a
place is one of these, and then every location that is reported is shown to lie in the text.

A location behind a text is got from the one in front by reading it, so two origins lead to places
that belong together at every point of the text or, after a first line feed, to the same line
shifted.  The scanner never compares locations.  Its steps are therefore gone through once, with
every fault at the place where it stands, or where its literal begins.

## Main definitions

* `Alike` — outcomes of reading that differ in locations alone
* `Alongside` — origins from which a text reaches related places

## Main statements

* `Alike.scan` — scanning at related origins
* `Alike.runOn`, `Alike.runOnAll` — parsing at related origins
* `Parser.cause_of_runOn` — the faults that a parser of a text can find

## Hypotheses

`Alongside` asks the relation of the places that the text itself reaches, and of no others.  A
relation of all pairs would do for comparing two origins, but not for locating faults within a text:
there the relation says of a place that it is reached.

An escape that denotes no character, that of a surrogate among them, is found at the same place from
either origin.
-/

namespace OpenResponse

/-- Outcomes of reading that differ in locations alone: values that `V` relates, or faults that
differ in their locations alone. -/
inductive Alike {α : Type} (R : Location → Location → Prop) (V : α → α → Prop) :
    Except Fault α → Except Fault α → Prop
  | ok {value other : α} (same : V value other) : Alike R V (.ok value) (.ok other)
  | error {fault other : Fault} (same : fault.Related R other) :
    Alike R V (.error fault) (.error other)

/-- Origins from which a text reaches related places, however much of it is read. -/
def Alongside (R : Location → Location → Prop) (here there : Location) (text : List Char) : Prop :=
  ∀ front, front <+: text → R (here.behind front) (there.behind front)

namespace Alongside

variable {R : Location → Location → Prop} {here there : Location} {text : List Char}

/-- Nothing is read yet. -/
theorem origin (moved : Alongside R here there text) : R here there := moved [] List.nil_prefix

/-- The whole text is read. -/
theorem finish (moved : Alongside R here there text) : R (here.behind text) (there.behind text) :=
  moved text List.prefix_rfl

/-- The first character is read. -/
theorem next {c : Char} (moved : Alongside R here there (c :: text)) :
    Alongside R (here.next c) (there.next c) text :=
  fun front begins => moved (c :: front) (List.cons_prefix_cons.mpr ⟨rfl, begins⟩)

/-- The first characters are read. -/
theorem drop (moved : Alongside R here there text) (count : Nat) :
    Alongside R (here.behind (text.take count)) (there.behind (text.take count))
      (text.drop count) := by
  intro front begins
  rw [← Location.behind_append, ← Location.behind_append]
  refine moved _ ?_
  conv_rhs => rw [← List.take_append_drop count text]
  exact (List.prefix_append_right_inj _).mpr begins

end Alongside

/-! ### Escapes -/

/-- The number of an escape is out of range, or denotes no character. -/
theorem escapedChar_error {bad cause : Cause} {number : Option Int}
    (failed : escapedChar bad number = .error cause) : cause = bad ∨ cause = .escapeOverflow := by
  unfold escapedChar at failed
  split at failed
  · exact .inl (Except.error.inj failed).symm
  · split at failed
    · exact .inr (Except.error.inj failed).symm
    · split at failed
      · exact .inl (Except.error.inj failed).symm
      · cases failed

/-- What stands behind a backslash is out of range, unknown, or denotes no character. -/
theorem readEscape_error {text : List Char} {cause : Cause}
    (failed : readEscape text = .error cause) :
    cause = .escapeOverflow ∨ (∃ text, cause = .unknownEscape text) ∨
      (∃ digits, cause = .badUnicodeEscape digits) ∨ ∃ digits, cause = .badHexEscape digits := by
  unfold readEscape at failed
  split at failed
  · dsimp only at failed
    split at failed
    · cases failed
    · next inner escaped =>
      cases failed
      rcases escapedChar_error escaped with bad | overflow
      · exact .inr (.inr (.inl ⟨_, bad⟩))
      · exact .inl overflow
  · dsimp only at failed
    split at failed
    · cases failed
    · next inner escaped =>
      cases failed
      rcases escapedChar_error escaped with bad | overflow
      · exact .inr (.inr (.inr ⟨_, bad⟩))
      · exact .inl overflow
  · cases failed
  · split at failed
    · cases failed
    · cases failed
      exact .inr (.inl ⟨_, rfl⟩)
  · cases failed
    exact .inr (.inl ⟨_, rfl⟩)

namespace Alike

variable {α : Type} {R : Location → Location → Prop} {here there start start' : Location}

theorem eq_ok {V : α → α → Prop} {value : α} {outcome : Except Fault α}
    (same : Alike R V (.ok value) outcome) : ∃ other, outcome = .ok other ∧ V value other := by
  cases same with
  | ok related => exact ⟨_, rfl, related⟩

theorem eq_error {V : α → α → Prop} {fault : Fault} {outcome : Except Fault α}
    (same : Alike R V (.error fault) outcome) :
    ∃ other, outcome = .error other ∧ fault.Related R other := by
  cases same with
  | error related => exact ⟨_, rfl, related⟩

private theorem ite {V : α → α → Prop} {condition : Prop} [Decidable condition]
    {yes yes' no no' : Except Fault α} (yesSame : Alike R V yes yes') (noSame : Alike R V no no') :
    Alike R V (if condition then yes else no) (if condition then yes' else no') := by
  split
  · exact yesSame
  · exact noSame

/-! ### Literals -/

/-- A fault behind a backslash stands where the escape stands or where its literal begins, or has no
place at all. -/
theorem escapeFault {text : List Char} {cause : Cause} (failed : readEscape text = .error cause)
    (starts : R start start') (moved : R here there) :
    (OpenResponse.escapeFault start here cause).Related R
      (OpenResponse.escapeFault start' there cause) := by
  rcases readEscape_error failed with rfl | ⟨_, rfl⟩ | ⟨_, rfl⟩ | ⟨_, rfl⟩
  · exact .nowhere rfl
  · exact .found moved rfl
  · exact .found starts rfl
  · exact .found starts rfl

private theorem readString {text : List Char} (starts : R start start')
    (moved : Alongside R here there text) :
    Alike R Eq (OpenResponse.readString start here text) (readString start' there text) := by
  -- the other text is read by the equation for the same case; its location goes along, and so
  -- varies
  fun_induction OpenResponse.readString start here text generalizing there with
  | case1 here =>
    rw [OpenResponse.readString]
    exact .error (.found starts rfl)
  | case2 here rest =>
    rw [OpenResponse.readString]
    exact .ok rfl
  | case3 here rest behind cause =>
    rename_i failed
    rw [OpenResponse.readString.eq_3, failed]
    exact .error (escapeFault failed starts moved.next.origin)
  | case4 here rest behind denoted used read fault failed =>
    rename_i ih
    obtain ⟨fault', failed', same⟩ := eq_error (failed ▸ ih (moved.next.drop used))
    rw [OpenResponse.readString.eq_3, read]
    dsimp only
    rw [failed']
    exact .error same
  | case5 here rest behind denoted used read value more readRest =>
    rename_i ih
    obtain ⟨_, readRest', rfl⟩ := eq_ok (readRest ▸ ih (moved.next.drop used))
    rw [OpenResponse.readString.eq_3, read]
    dsimp only
    rw [readRest']
    exact .ok rfl
  | case6 here c rest notQuote notBackslash fault failed ih =>
    obtain ⟨fault', failed', same⟩ := eq_error (failed ▸ ih moved.next)
    rw [OpenResponse.readString.eq_4 _ _ _ _ notQuote notBackslash, failed']
    exact .error same
  | case7 here c rest notQuote notBackslash value more readRest ih =>
    obtain ⟨_, readRest', rfl⟩ := eq_ok (readRest ▸ ih moved.next)
    rw [OpenResponse.readString.eq_4 _ _ _ _ notQuote notBackslash, readRest']
    exact .ok rfl

private theorem readRawString (starts : R start start') (text : List Char) :
    Alike R Eq (OpenResponse.readRawString start text) (readRawString start' text) := by
  unfold OpenResponse.readRawString
  dsimp only
  split
  · split
    · exact .ok rfl
    · exact .error (.found starts rfl)
  · exact .error (.found starts rfl)

/-! ### Texts -/

/-- The token of a string literal. -/
theorem literal {read read' : Except Fault (List Char × Nat)} :
    Alike R Eq read read' → Alike R Eq
      (match read with
        | .ok (value, used) => .ok (Lexeme.mk used (some (.string, String.ofList value)))
        | .error fault => .error fault)
      (match read' with
        | .ok (value, used) => .ok (Lexeme.mk used (some (.string, String.ofList value)))
        | .error fault => .error fault) := by
  intro same
  cases same with
  | ok related => exact .ok (by rw [related])
  | error related => exact .error related

/-- A step of scanning takes the same characters wherever they stand. -/
theorem readLexeme {c : Char} {rest : List Char} (moved : Alongside R here there (c :: rest)) :
    Alike R Eq (OpenResponse.readLexeme here c rest) (readLexeme there c rest) := by
  unfold OpenResponse.readLexeme
  refine ite (.ok rfl) (ite (.ok rfl) (ite ?comment (ite ?string (ite ?rawString ?other))))
  case comment =>
    cases commentExtent? (rest.drop 1) with
    | some extent => exact .ok rfl
    | none => exact .error (.found moved.origin rfl)
  case string => exact literal (readString moved.origin moved.next)
  case rawString => exact literal (readRawString moved.origin rest)
  case other =>
    refine ite ?name (ite (.ok rfl) (ite ?lifetime (ite ?colon ?mark)))
    case name =>
      cases (if c = 'r' then rawName? rest else none) with
      | none => exact .ok rfl
      | some name => exact .ok rfl
    case lifetime => exact ite (.error (.found moved.origin rfl)) (.ok rfl)
    case colon => exact ite (.ok rfl) (.ok rfl)
    case mark =>
      cases TokenKind.ofMark? c with
      | none => exact .error (.found moved.origin rfl)
      | some kind => exact .ok rfl

/-- Texts at related origins are cut into the same tokens.  The tokens have the same kinds and
values, and locations that are related as the origins are. -/
theorem scan {text : List Char} (moved : Alongside R here there text) :
    Alike R (List.Forall₂ (Token.Related R)) (OpenResponse.scan here text) (scan there text) := by
  -- each step reads the same lexeme on both sides, and leaves both behind it
  fun_induction OpenResponse.scan here text generalizing there with
  | case1 here =>
    rw [OpenResponse.scan]
    exact .ok .nil
  | case2 here c rest fault failed =>
    obtain ⟨fault', failed', same⟩ := eq_error (failed ▸ readLexeme moved)
    rw [OpenResponse.scan, failed']
    exact .error same
  | case3 here c rest lexeme read fault failed ih =>
    obtain ⟨_, read', rfl⟩ := eq_ok (read ▸ readLexeme moved)
    obtain ⟨fault', failed', same⟩ := eq_error (failed ▸ ih (moved.next.drop lexeme.more))
    rw [OpenResponse.scan, read']
    dsimp only
    rw [failed']
    exact .error same
  | case4 here c rest lexeme read tokens scanned kind value isToken ih =>
    obtain ⟨_, read', rfl⟩ := eq_ok (read ▸ readLexeme moved)
    obtain ⟨tokens', scanned', same⟩ := eq_ok (scanned ▸ ih (moved.next.drop lexeme.more))
    rw [OpenResponse.scan, read']
    dsimp only
    rw [scanned', isToken]
    exact .ok (.cons ⟨rfl, rfl, moved.origin⟩ same)
  | case5 here c rest lexeme read tokens scanned isNone ih =>
    obtain ⟨_, read', rfl⟩ := eq_ok (read ▸ readLexeme moved)
    obtain ⟨tokens', scanned', same⟩ := eq_ok (scanned ▸ ih (moved.next.drop lexeme.more))
    rw [OpenResponse.scan, read']
    dsimp only
    rw [scanned', isNone]
    exact .ok same

theorem tokenize {text : String} (moved : Alongside R here there text.toList) :
    Alike R (TokenStream.Related R) (OpenResponse.tokenize here text) (tokenize there text) := by
  have scanned := scan moved
  unfold OpenResponse.tokenize
  cases first : OpenResponse.scan here text.toList with
  | error fault =>
    obtain ⟨fault', second, same⟩ := eq_error (first ▸ scanned)
    rw [second]
    exact .error same
  | ok tokens =>
    obtain ⟨tokens', second, same⟩ := eq_ok (first ▸ scanned)
    rw [second]
    exact .ok ⟨same, moved.finish⟩

/-! ### Parsers -/

/-- What a parser reads off a text does not depend on where the text begins, but for locations. -/
theorem runOn {V : α → α → Prop} {parser other : Parser α} (same : parser.Respects R V other)
    {text : String} (moved : Alongside R here there text.toList) :
    Alike R V (parser.runOn here text) (other.runOn there text) := by
  have streams := tokenize moved
  unfold Parser.runOn
  cases first : OpenResponse.tokenize here text with
  | error fault =>
    obtain ⟨fault', second, faults⟩ := eq_error (first ▸ streams)
    rw [second]
    exact .error faults
  | ok stream =>
    obtain ⟨stream', second, related⟩ := eq_ok (first ▸ streams)
    have outcomes := same stream stream' related
    rw [second]
    dsimp only [EStateM.run]
    cases run : parser stream <;> cases run' : other stream' <;> rw [run, run'] at outcomes
    · exact .ok outcomes.1
    · exact outcomes.elim
    · exact outcomes.elim
    · exact .error outcomes

/-- A whole text is read alike at related origins, the end of the text included.  The places of
tokens are all that depends on the origin, and they correspond. -/
theorem runOnAll {V : α → α → Prop} {parser other : Parser α} (same : parser.Respects R V other)
    {text : String} (moved : Alongside R here there text.toList) :
    Alike R V (parser.runOnAll here text) (other.runOnAll there text) := by
  refine runOn ?_ moved
  exact same.bind fun _ _ values => Parser.Respects.expectEnd.bind fun _ _ _ => .pure values

end Alike

/-- A fault that a parser finds in a text is one of those that reading can find. -/
theorem Parser.cause_of_runOn {α : Type} {V : α → α → Prop} {parser : Parser α}
    {origin : Location} {text : String} {fault : Fault}
    (respects : parser.Respects (fun _ _ => True) V parser)
    (failed : parser.runOn origin text = .error fault) :
    fault.cause.isLocated = true ∨ fault.cause.isRange = true := by
  have same : Alike (fun _ _ => True) V (parser.runOn origin text) (parser.runOn origin text) :=
    Alike.runOn respects fun _ _ => trivial
  obtain ⟨_, -, related⟩ := Alike.eq_error (failed ▸ same)
  cases related with
  | found _ located => exact .inl located
  | nowhere range => exact .inr range

end OpenResponse
