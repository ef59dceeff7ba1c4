import OpenResponse.Proofs.Document.Form
import OpenResponse.Proofs.Document.Ordered
import OpenResponse.Proofs.Number.Spelling

/-!
# Documents at the front of a stream

Every document ends with a token of its own: a closing mark, a literal or a word.  So the reader of
documents never has to look at what follows, and it stops at a place of a stream exactly if the
tokens in front of that place are a document.

What the tokens say is read off them without the reader.  Of several members with one name the place
is that of the first and the value that of the last; a minus sign changes the sign of the literal
behind it; and an integer literal has the value of its digits, of which only a decimal literal may
have too many.

That is an equivalence without a condition on what follows, and it comes from the law of forms by
choosing the number of tokens: a document of that many tokens is read, and what is read is a
document.  The three other parts of the result say what the form of documents says about values, so
that together they describe the outcome in full.

## Main definitions

* `Document.negated` — numbers with the opposite sign

## Main statements

* `Parser.Reads.eq_ok_iff` — readers that do not look at what follows
* `numberForm_signed` — numbers behind a minus sign
* `numberForm_spelled` — the values of integer literals
* `documents_read_exactly` — **documents at the front of a stream**

## Hypotheses

The part on integer literals speaks of spellings: a base, digits with underscores between them, and
the name of a type or none.  All tokens of integers that have a value are spelled so, and the value
is that of the digits in the base.  The limit on digits counts those that are left when the
underscores are taken out.
-/

namespace OpenResponse

/-- A reader that takes a form whatever follows stops behind that form and nowhere else. -/
theorem Parser.Reads.eq_ok_iff {α : Type} {parser : Parser α} {form : Form α}
    (reads : ∀ n, Reads n (fun _ => True) parser form) {stream rest : TokenStream} {value : α} :
    parser stream = .ok value rest ↔
      ∃ tokens, stream = rest.preceded tokens ∧ form tokens value := by
  constructor
  · exact (reads 0).sound stream value rest
  · rintro ⟨tokens, rfl, written⟩
    exact (reads tokens.length).complete tokens value rest (Nat.le_refl _) written trivial

/-! ### Numbers

A minus sign is a token of its own, and behind it stands one literal.  Two signs are no number. -/

/-- The number with the opposite sign.  Zero is turned as well: a floating point zero has a sign. -/
def Document.negated : Document → Document
  | .integer value => .integer (-value)
  | .float value => .float value.negate
  | other => other

/-- A single literal is a number if its reader accepts it. -/
theorem numberForm_single {literal : Token} {value : Document} :
    numberForm [literal] value ↔ numeralForm false [literal] value := by
  refine Form.optional_bind_iff.trans (or_iff_right ?_)
  rintro ⟨first, back, same, -, ⟨token, rfl, -⟩⟩
  cases same

/-- A number behind a minus sign is the number with the opposite sign.  The sign belongs to the
number and not to the literal. -/
theorem numberForm_signed {sign literal : Token} (isSign : sign.kind = .minus) {value : Document} :
    numberForm [sign, literal] value ↔
      ∃ plain, numberForm [literal] plain ∧ value = plain.negated := by
  have behindSign : numberForm [sign, literal] value ↔ numeralForm true [literal] value := by
    refine Form.optional_bind_iff.trans ⟨?_, fun written => .inl ⟨_, _, rfl, isSign, written⟩⟩
    rintro (⟨first, back, same, -, written⟩ | ⟨token, same, -⟩)
    · cases same
      exact written
    · cases same
  rw [behindSign]
  simp only [numberForm_single]
  constructor
  · rintro ⟨token, same, ⟨isInteger, n, read, rfl⟩ | ⟨isFloat, x, read, rfl⟩⟩
    · exact ⟨.integer n, ⟨token, same, .inl ⟨isInteger, n, read, rfl⟩⟩, rfl⟩
    · exact ⟨.float x, ⟨token, same, .inr ⟨isFloat, x, read, rfl⟩⟩, rfl⟩
  · rintro ⟨_, ⟨token, same, ⟨isInteger, n, read, rfl⟩ | ⟨isFloat, x, read, rfl⟩⟩, rfl⟩
    · exact ⟨token, same, .inl ⟨isInteger, n, read, rfl⟩⟩
    · exact ⟨token, same, .inr ⟨isFloat, x, read, rfl⟩⟩

/-- An integer literal is the number that it spells, unless it has too many decimal digits. -/
theorem numberForm_spelled {literal : Token} {spelling : IntegerSpelling}
    (isInteger : literal.kind = .integer) (spelled : literal.value = spelling.text)
    {value : Document} :
    numberForm [literal] value ↔
      (spelling.base = .decimal → spelling.digits.length ≤ decimalLimit) ∧
        value = .integer spelling.value := by
  have read := spelling.readInteger?_text
  rw [← spelled] at read
  rw [numberForm_single]
  constructor
  · rintro ⟨_, same, ⟨-, n, readAs, rfl⟩ | ⟨isFloat, -⟩⟩
    · cases same
      rw [read] at readAs
      split at readAs
      next => cases readAs
      next short =>
        cases readAs
        exact ⟨fun isDecimal => Nat.le_of_not_lt fun long => short ⟨isDecimal, long⟩, rfl⟩
    · cases same
      cases isInteger.symm.trans isFloat
  · rintro ⟨short, rfl⟩
    refine ⟨literal, rfl, .inl ⟨isInteger, spelling.value, ?_, rfl⟩⟩
    rw [read, if_neg fun long => Nat.not_lt.mpr (short long.1) long.2]

/-! ### Documents

Each part of the theorem is one of the laws above, or of the modules on forms and on repeated names.
-/

/-- **Documents at the front of a stream.**  Reading a document succeeds and stops at a place
exactly if the tokens in front of that place are a document, and returns what they say.  An object
has every name at its first place with its last value; a minus sign changes the sign of the literal
behind it; and an integer literal has exactly the value of its digits, of which a decimal literal
may have as many as the limit and any other literal any number. -/
theorem documents_read_exactly :
    (∀ (stream rest : TokenStream) (value : Document),
      Parser.document stream = .ok value rest ↔
        ∃ tokens, stream = rest.preceded tokens ∧ DocumentForm tokens value) ∧
    (∀ members : List (String × Document),
      Document.ofMembers members = .object (Ordered.latest members)) ∧
    (∀ sign literal : Token, sign.kind = .minus →
      literal.kind = .integer ∨ literal.kind = .float → ∀ value,
        DocumentForm [sign, literal] value ↔
          ∃ plain, DocumentForm [literal] plain ∧ value = plain.negated) ∧
    (∀ (literal : Token) (spelling : IntegerSpelling), literal.kind = .integer →
      literal.value = spelling.text → ∀ value,
        DocumentForm [literal] value ↔
          (spelling.base = .decimal → spelling.digits.length ≤ decimalLimit) ∧
            value = .integer spelling.value) := by
  refine ⟨fun stream rest value => ?_, fun members => ?_, ?_, ?_⟩
  · exact Parser.Reads.eq_ok_iff fun n => Parser.Reads.document
  · rw [Document.ofMembers, Ordered.ofList_eq_latest]
  · intro sign literal isSign isNumber value
    have literalOpens : literal.kind.opensNumber = true := by
      rcases isNumber with isInteger | isFloat
      · rw [isInteger]; rfl
      · rw [isFloat]; rfl
    rw [documentForm_iff_numberForm (by rw [isSign]; rfl), numberForm_signed isSign]
    simp only [documentForm_iff_numberForm literalOpens]
  · intro literal spelling isInteger spelled value
    rw [documentForm_iff_numberForm (by rw [isInteger]; rfl), numberForm_spelled isInteger spelled]

/-- A negative number in another base, with an underscore and the name of its type, in front of a
comma. -/
theorem documents_read_exactly_signed :
    Parser.document ⟨[⟨.minus, "-", ⟨1, 1⟩⟩, ⟨.integer, "0x1F_u8", ⟨1, 2⟩⟩, ⟨.comma, ",", ⟨1, 9⟩⟩],
      ⟨1, 10⟩⟩ = .ok (.integer (-31)) ⟨[⟨.comma, ",", ⟨1, 9⟩⟩], ⟨1, 10⟩⟩ := by
  have spelled := documents_read_exactly.2.2.2 ⟨.integer, "0x1F_u8", ⟨1, 2⟩⟩
    ⟨.hexadecimal, ['1', 'F', '_'], "u8", forall_mem_of_all (by decide),
      ⟨'1', List.mem_cons_self, by decide⟩, .inr (by decide)⟩ rfl rfl
  have signed := documents_read_exactly.2.2.1 ⟨.minus, "-", ⟨1, 1⟩⟩ ⟨.integer, "0x1F_u8", ⟨1, 2⟩⟩
    rfl (.inl rfl)
  refine (documents_read_exactly.1 _ _ _).mpr
    ⟨[_, _], rfl, (signed _).mpr ⟨.integer 31, (spelled _).mpr ?_, rfl⟩⟩
  exact ⟨fun isDecimal => (by cases isDecimal), rfl⟩

end OpenResponse
