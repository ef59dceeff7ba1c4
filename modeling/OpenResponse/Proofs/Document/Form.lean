import OpenResponse.Document.Literal
import OpenResponse.Proofs.Token.Lists

/-!
# The form of documents

A document is written with the literals of the attribute language.  The value of an example is a
string, a number, a truth value, or any document in a `json!` call.

The first token tells the sorts of documents apart, so a form with a choice at its front is what the
reader reads.  It is given as an inductive predicate, in which lists of documents occur, and each
reading of a list is the general law of lists with the form of documents for its items.  The value
of an object is made when all its members are known: `Document.ofMembers` assigns them one after the
other.

## Main definitions

* `numberForm` — numbers with an optional minus sign
* `DocumentForm` — documents
* `anyValueForm` — values of examples

## Main statements

* `Parser.Reads.document`, `Parser.Reads.anyValue` — the readers of documents and of examples

## Hypotheses

Documents are read whatever follows them, since each of them has an end of its own.  Only the values
of examples ask for what may follow, and only because the word in front of `json!` is told from
other words by the mark behind it.

A numeral is an integer or a float by the kind of its token.  Whether it has a value depends on its
text, and a literal without a value is no document of any form, as reading it fails.
-/

namespace OpenResponse

/-- A number whose sign is known. -/
def numeralForm (negative : Bool) : Form Document := fun tokens document =>
  ∃ token : Token, tokens = [token] ∧
    ((token.kind = .integer ∧ ∃ value, readInteger? token.value = some value ∧
      document = .integer (if negative then -(value : Int) else value)) ∨
    (token.kind = .float ∧ ∃ value, readFloat? token.value = some value ∧
      document = .float (if negative then value.negate else value)))

/-- A number with an optional minus sign.  Its value is that of the literal behind the sign, turned
if the sign is there. -/
def numberForm : Form Document := do
  let negative ← Form.optional .minus
  numeralForm negative

/-- A member of an object. -/
inductive MemberForm (value : List Token → Document → Prop) : List Token → String × Document → Prop
  | member {name colon : Token} {tokens : List Token} {document : Document}
      (isName : name.kind = .string) (isColon : colon.kind = .colon)
      (written : value tokens document) :
      MemberForm value (name :: colon :: tokens) (name.value, document)

/-- A document.  There is a constructor for each form of documents, and lists and objects have the
forms of lists of any items. -/
inductive DocumentForm : List Token → Document → Prop
  /-- A string. -/
  | string {token : Token} (isString : token.kind = .string) :
      DocumentForm [token] (.string token.value)
  /-- A word that stands for a document. -/
  | word {token : Token} {document : Document} (isWord : token.kind = .identifier)
      (stands : Parser.wordDocument? token.value = some document) : DocumentForm [token] document
  /-- A number. -/
  | number {tokens : List Token} {document : Document} (written : numberForm tokens document) :
      DocumentForm tokens document
  /-- An array. -/
  | array {opening closing : Token} {inner : List Token} {items : List Document}
      (isOpening : opening.kind = .openBracket) (list : CommaList DocumentForm inner items)
      (isClosing : closing.kind = .closeBracket) :
      DocumentForm (opening :: (inner ++ [closing])) (.array items)
  /-- An object.  Of two members with the same name the later one counts. -/
  | object {opening closing : Token} {inner : List Token} {members : List (String × Document)}
      (isOpening : opening.kind = .openBrace)
      (list : CommaList (MemberForm DocumentForm) inner members)
      (isClosing : closing.kind = .closeBrace) :
      DocumentForm (opening :: (inner ++ [closing])) (.ofMembers members)

/-- A document, as a form. -/
def documentForm : Form Document := DocumentForm

/-- A member of an object, as a form. -/
def memberForm (value : Form Document) : Form (String × Document) := MemberForm value

/-- What may stand behind `json!`: a document between parentheses, an array, or an object. -/
def embeddedForm : Form Document :=
  Form.either
    (do
      let _ ← Form.token .openParen
      let value ← documentForm
      let _ ← Form.token .closeParen
      return value)
    (fun tokens value => documentForm tokens value ∧
      ∀ first ∈ tokens.head?, first.kind = .openBracket ∨ first.kind = .openBrace)

/-- A truth value. -/
def truthForm : Form Document :=
  Form.either (do Form.word "true"; return .bool true) (do Form.word "false"; return .bool false)

/-- The value of an example.  It is a string, a call with a document, or a plain number or truth
value. -/
def anyValueForm : Form Document :=
  Form.either (do return .string (← Form.token .string))
    (Form.either (do Form.word "json"; let _ ← Form.token .bang; embeddedForm)
      (Form.either numberForm truthForm))

/-- A string behind an equals sign. -/
def assignedStringForm : Form String := do
  let _ ← Form.token .equals
  Form.token .string

/-- The value of an example behind an equals sign. -/
def exampleValueForm : Form Document := do
  let _ ← Form.token .equals
  anyValueForm

/-! ### What documents begin with

A document that begins like a number is a number, and one that begins with a bracket is a list or an
object.  No document begins with a mark that closes one. -/

/-- Whether a number can begin with a token of a kind. -/
def TokenKind.opensNumber : TokenKind → Bool
  | .integer | .float | .minus => true
  | _ => false

/-- Whether a document can begin with a token of a kind. -/
def TokenKind.opensDocument : TokenKind → Bool
  | .string | .identifier | .openBracket | .openBrace => true
  | kind => kind.opensNumber

private theorem numberForm_cons {tokens : List Token} {document : Document}
    (written : numberForm tokens document) :
    ∃ first back, tokens = first :: back ∧ first.kind.opensNumber = true := by
  rcases Form.optional_bind_iff.mp written with ⟨first, back, rfl, isMinus, -⟩ | written
  · exact ⟨first, back, rfl, by rw [isMinus]; rfl⟩
  · obtain ⟨token, rfl, ⟨isKind, -⟩ | ⟨isKind, -⟩⟩ := written
    · exact ⟨token, [], rfl, by rw [isKind]; rfl⟩
    · exact ⟨token, [], rfl, by rw [isKind]; rfl⟩

/-- The first token of a document decides what sort of document it is. -/
theorem documentForm_cons_iff {first : Token} {back : List Token} {document : Document} :
    documentForm (first :: back) document ↔
      first.kind = .openBrace ∧ (do
        let members ← listForm .closeBrace (memberForm documentForm)
        return .ofMembers members : Form Document) back document ∨
      first.kind = .openBracket ∧ (do
        let items ← listForm .closeBracket documentForm
        return .array items : Form Document) back document ∨
      first.kind = .string ∧ (pure (.string first.value) : Form Document) back document ∨
      first.kind = .identifier ∧ back = [] ∧
        Parser.wordDocument? first.value = some document ∨
      first.kind.opensNumber = true ∧ numberForm (first :: back) document := by
  constructor
  · intro written
    -- the tokens have to be a variable for the cases, and are put back in each of them
    generalize whole : first :: back = tokens at written
    cases written with
    | string isString =>
      cases whole
      exact .inr (.inr (.inl ⟨isString, rfl, rfl⟩))
    | word isWord stands =>
      cases whole
      exact .inr (.inr (.inr (.inl ⟨isWord, rfl, stands⟩)))
    | number written =>
      cases whole
      obtain ⟨_, _, same, opens⟩ := numberForm_cons written
      cases same
      exact .inr (.inr (.inr (.inr ⟨opens, written⟩)))
    | array isOpening list isClosing =>
      cases whole
      refine .inr (.inl ⟨isOpening, _, [], _, (List.append_nil _).symm, ?_, rfl, rfl⟩)
      exact ⟨_, _, rfl, isClosing, list⟩
    | object isOpening list isClosing =>
      cases whole
      refine .inl ⟨isOpening, _, [], _, (List.append_nil _).symm, ?_, rfl, rfl⟩
      exact ⟨_, _, rfl, isClosing, list⟩
  · rintro (⟨isOpening, written⟩ | ⟨isOpening, written⟩ | ⟨isString, rfl, rfl⟩ |
      ⟨isWord, rfl, stands⟩ | ⟨-, written⟩)
    · obtain ⟨_, _, members, rfl, ⟨inner, closing, rfl, isClosing, list⟩, rfl, rfl⟩ := written
      rw [List.append_nil]
      exact .object isOpening list isClosing
    · obtain ⟨_, _, items, rfl, ⟨inner, closing, rfl, isClosing, list⟩, rfl, rfl⟩ := written
      rw [List.append_nil]
      exact .array isOpening list isClosing
    · exact .string isString
    · exact .word isWord stands
    · exact .number written

/-- A document that begins like a number is one. -/
theorem documentForm_iff_numberForm {first : Token} {back : List Token} {document : Document}
    (opens : first.kind.opensNumber = true) :
    DocumentForm (first :: back) document ↔ numberForm (first :: back) document := by
  refine documentForm_cons_iff.trans ⟨?_, fun written => .inr (.inr (.inr (.inr ⟨opens, written⟩)))⟩
  rintro (⟨isKind, -⟩ | ⟨isKind, -⟩ | ⟨isKind, -⟩ | ⟨isKind, -⟩ | ⟨-, written⟩)
  · rw [isKind] at opens; cases opens
  · rw [isKind] at opens; cases opens
  · rw [isKind] at opens; cases opens
  · rw [isKind] at opens; cases opens
  · exact written

private theorem documentForm_cons {tokens : List Token} {document : Document}
    (written : documentForm tokens document) :
    ∃ first back, tokens = first :: back ∧ first.kind.opensDocument = true := by
  cases written with
  | string isString => exact ⟨_, [], rfl, by rw [isString]; rfl⟩
  | word isWord => exact ⟨_, [], rfl, by rw [isWord]; rfl⟩
  | array isOpening => exact ⟨_, _, rfl, by rw [isOpening]; rfl⟩
  | object isOpening => exact ⟨_, _, rfl, by rw [isOpening]; rfl⟩
  | number written =>
    obtain ⟨first, back, rfl, opens⟩ := numberForm_cons written
    refine ⟨first, back, rfl, ?_⟩
    revert opens
    cases first.kind <;> decide

/-- A closing mark begins no document. -/
theorem documentForm_avoids {kind : TokenKind} (notOpening : kind.opensDocument = false) :
    documentForm.Avoids kind := by
  intro tokens document written
  obtain ⟨first, back, rfl, opens⟩ := documentForm_cons written
  refine ⟨first, back, rfl, fun same => ?_⟩
  rw [same, notOpening] at opens
  cases opens

private theorem memberForm_avoids
    {value : Form Document} {kind : TokenKind} (notString : kind ≠ .string) :
    (memberForm value).Avoids kind := by
  intro tokens entry written
  cases written with
  | member isName => exact ⟨_, _, rfl, isName ▸ notString.symm⟩

namespace Parser.Reads

open TokenStream

variable {α : Type} {n : Nat} {follow : TokenKind → Prop}

/-! ### Reading documents

The budget is the number of tokens, and every level of a document takes one at least.  So the
induction on the budget reaches the documents inside. -/

/-- The value of an integer literal. -/
theorem integerValue (token : Token) (change : Nat → α) :
    Reads n follow (do return change (← Parser.integerValue token))
      (fun tokens value => tokens = [] ∧ (readInteger? token.value).map change = some value) := by
  unfold Parser.integerValue
  cases readInteger? token.value with
  | none => exact refuses fun _ _ _ read => by cases read
  | some number => exact gives _

/-- The value of a float literal. -/
theorem floatValue (token : Token) (change : Binary → α) :
    Reads n follow
      (match readFloat? token.value with
        | some value => Pure.pure (change value)
        | none => failAt token (.badFloat token.value))
      (fun tokens value => tokens = [] ∧ (readFloat? token.value).map change = some value) := by
  cases readFloat? token.value with
  | none => exact refuses (failAt_ne_ok _ _)
  | some number => exact gives _

private theorem numeral (negative : Bool) :
    Reads n follow (Parser.numeral negative) (numeralForm negative) := by
  -- the kind of the first token decides, and the form that it excludes is refuted by that kind
  refine peek (fun first => ?_) ?_
  · split
    next isInteger =>
      refine .next (m := n) (by rw [isInteger]; decide)
        ((integerValue first _).congr fun back document => ?_) (Nat.le_succ n)
      constructor
      · rintro ⟨rfl, same⟩
        obtain ⟨value, found, rfl⟩ := Option.map_eq_some_iff.mp same
        exact ⟨first, rfl, .inl ⟨isInteger, value, found, rfl⟩⟩
      · rintro ⟨_, same, ⟨-, value, found, rfl⟩ | ⟨isFloat, -⟩⟩
        · cases same
          exact ⟨rfl, by rw [found]; rfl⟩
        · cases same
          cases isInteger.symm.trans isFloat
    next isFloat =>
      refine .next (m := n) (by rw [isFloat]; decide)
        ((floatValue first _).congr fun back document => ?_) (Nat.le_succ n)
      constructor
      · rintro ⟨rfl, same⟩
        obtain ⟨value, found, rfl⟩ := Option.map_eq_some_iff.mp same
        exact ⟨first, rfl, .inr ⟨isFloat, value, found, rfl⟩⟩
      · rintro ⟨_, same, ⟨isInteger, -⟩ | ⟨-, value, found, rfl⟩⟩
        · cases same
          cases isInteger.symm.trans isFloat
        · cases same
          exact ⟨rfl, by rw [found]; rfl⟩
    next notInteger notFloat =>
      refine .refuse (failExpected_ne_ok _) ?_
      rintro back document ⟨_, same, ⟨isInteger, -⟩ | ⟨isFloat, -⟩⟩
      · cases same
        exact notInteger isInteger
      · cases same
        exact notFloat isFloat
  · rintro value ⟨token, same, -⟩
    cases same

private theorem number : Reads n follow Parser.number numberForm := by
  refine bindEat (by decide) (fun _ => numeral true) (numeral false) ?_
  rintro tokens value ⟨token, rfl, ⟨isKind, -⟩ | ⟨isKind, -⟩⟩ rest -
  · rw [front_preceded, isKind]
    decide
  · rw [front_preceded, isKind]
    decide

private theorem member {value : Parser Document} {form : Form Document}
    (reads : Reads n closing value form) :
    Reads n closing (Parser.member value) (memberForm form) := by
  have spelled : Reads n closing (Parser.member value) (do
      let name ← Form.token .string
      let _ ← Form.token .colon
      return (name, ← form)) :=
    bindExpectAs _ (by decide) fun _ _ => bindExpectAs _ (by decide) fun _ _ =>
      reads.bindPure _
  refine spelled.congr fun tokens entry => ?_
  constructor
  · intro written
    obtain ⟨name, _, rfl, isName, written⟩ := Form.token_bind_iff.mp written
    obtain ⟨colon, _, rfl, isColon, written⟩ := Form.token_bind_iff.mp written
    obtain ⟨inner, _, document, rfl, inside, rfl, rfl⟩ := written
    rw [List.append_nil]
    exact .member isName isColon inside
  · rintro ⟨isName, isColon, written⟩
    refine Form.token_bind_iff.mpr ⟨_, _, rfl, isName, ?_⟩
    refine Form.token_bind_iff.mpr ⟨_, _, rfl, isColon, ?_⟩
    exact ⟨_, [], _, (List.append_nil _).symm, written, rfl, rfl⟩

/-- A document, up to as many tokens as its budget, whatever follows it. -/
theorem documentWithin (budget : Nat) :
    Reads budget follow (Parser.documentWithin budget) documentForm := by
  induction budget generalizing follow with
  | zero =>
    constructor
    · intro stream value rest read
      cases read
    · intro tokens value rest short written
      obtain ⟨first, back, rfl, -⟩ := documentForm_cons written
      simp at short
  | succ budget ih =>
    -- the first token decides which form is left, and the budget pays for the tokens behind it
    refine peek (fun first => ?_) fun value written => ?_
    · have byNumber (opens : first.kind.opensNumber = true) :
          At first (budget + 1) follow Parser.number documentForm :=
        .of_reads number
          (fun tokens document _ written => .number written)
          fun back document => (documentForm_iff_numberForm opens).mp
      split
      next isOpening =>
        refine .next (m := budget) (by rw [isOpening]; decide) (Reads.congr
          ((separated _ (member ih) (rfl : closing .closeBrace) (by decide) (by decide)
            (memberForm_avoids (by decide))).bindPure _) fun back document => ?_) (Nat.le_refl _)
        exact (documentForm_cons_iff.trans (by simp [isOpening, TokenKind.opensNumber])).symm
      next isOpening =>
        refine .next (m := budget) (by rw [isOpening]; decide) (Reads.congr
          ((separated _ ih (rfl : closing .closeBracket) (by decide) (by decide)
            (documentForm_avoids rfl)).bindPure _)
          fun back document => ?_) (Nat.le_refl _)
        exact (documentForm_cons_iff.trans (by simp [isOpening, TokenKind.opensNumber])).symm
      next isString =>
        refine .next (m := budget) (by rw [isString]; decide)
          ((pure (Document.string first.value)).congr fun back document => ?_) (Nat.le_refl _)
        exact (documentForm_cons_iff.trans (by simp [isString, TokenKind.opensNumber])).symm
      next isKind => exact byNumber (by rw [isKind]; rfl)
      next isKind => exact byNumber (by rw [isKind]; rfl)
      next isKind => exact byNumber (by rw [isKind]; rfl)
      next isWord =>
        have byWord {back : List Token} {document : Document} :
            documentForm (first :: back) document ↔
              back = [] ∧ wordDocument? first.value = some document :=
          documentForm_cons_iff.trans (by simp [isWord, TokenKind.opensNumber])
        split
        next document stands =>
          refine .next (m := budget) (by rw [isWord]; decide)
            ((pure document).congr fun back other => ?_) (Nat.le_refl _)
          refine Iff.trans ?_ byWord.symm
          rw [stands, Option.some_inj, eq_comm (a := document)]
          exact Form.pure_iff
        next unknown =>
          refine .refuse (failExpected_ne_ok _) fun back document written => ?_
          rw [unknown] at byWord
          cases (byWord.mp written).2
      next =>
        refine .refuse (failExpected_ne_ok _) fun back document written => ?_
        obtain ⟨_, _, same, opens⟩ := documentForm_cons written
        cases same
        revert opens
        cases kind : first.kind <;> simp_all [TokenKind.opensDocument, TokenKind.opensNumber]
    · obtain ⟨_, _, same, -⟩ := documentForm_cons written
      cases same

/-- A document is read whatever follows it.  No document ends where it could go on, so nothing has
to be known of what follows. -/
theorem document : Reads n follow Parser.document documentForm := remaining documentWithin

/-! ### Reading the values of examples

A string, a number and a truth value may stand alone; everything else stands in a call. -/

/-- A document that begins with one of some kinds of tokens, where such a token stands. -/
theorem documentAt {first : Token} {form : Form Document}
    (same : ∀ back value, form (first :: back) value ↔ documentForm (first :: back) value) :
    At first n closing Parser.document form := by
  refine .of_reads document (fun tokens value head written => ?_) fun back value => (same _ _).mp
  obtain ⟨opening, back, rfl, -⟩ := documentForm_cons written
  cases head opening rfl
  exact (same back value).mpr written

private theorem embeddedDocument : Reads n closing Parser.embeddedDocument embeddedForm := by
  refine peek (fun first => ?_) ?_
  · -- brackets and braces belong to the document, so its own first token decides
    have byDocument (isOpening : first.kind = .openBracket ∨ first.kind = .openBrace) :
        At first n closing Parser.document embeddedForm := by
      refine documentAt fun back value => ⟨?_, fun written => .inr ⟨written, ?_⟩⟩
      · rintro (written | ⟨written, -⟩)
        · have isKind := (Form.cons_token_bind_iff.mp written).1
          simp [isKind] at isOpening
        · exact written
      · intro token head
        cases head
        exact isOpening
    split
    next isOpening =>
      -- parentheses do not, and are taken off on both sides
      have inner : Reads n closing
          (do
            let value ← Parser.document
            let _ ← expectAs .closeParen "`)` closing `json!(`"
            return value)
          (do
            let value ← documentForm
            let _ ← Form.token .closeParen
            return value) :=
        document.bind (fun _ => bindExpectAs _ (by decide) fun _ _ => pure _)
          fun _ => .token_bind _ rfl
      refine .next (m := n) (by rw [isOpening]; decide) (inner.congr fun back value => ?_)
        (Nat.le_succ n)
      constructor
      · intro written
        exact .inl (Form.cons_token_bind_iff.mpr ⟨isOpening, written⟩)
      · rintro (written | ⟨-, other⟩)
        · exact (Form.cons_token_bind_iff.mp written).2
        · simp [isOpening] at other
    next isOpening => exact byDocument (.inl isOpening)
    next isOpening => exact byDocument (.inr isOpening)
    next notParen notBracket notBrace =>
      refine .refuse (failExpected_ne_ok _) ?_
      rintro back value (written | ⟨-, isOpening⟩)
      · exact notParen (Form.cons_token_bind_iff.mp written).1
      · exact (isOpening first rfl).elim notBracket notBrace
  · rintro value (written | ⟨written, -⟩)
    · exact Form.not_token_bind_nil written
    · obtain ⟨_, _, same, -⟩ := documentForm_cons written
      cases same

/-- Whether a number or a truth value can begin with a token. -/
def opensScalar (token : Token) : Bool :=
  token.kind == .integer || token.kind == .float || token.kind == .minus || token.isWord "true" ||
    token.isWord "false"

private theorem truthForm_cons_iff {first : Token} {back : List Token} {value : Document} :
    truthForm (first :: back) value ↔
      first.isWord "true" = true ∧ back = [] ∧ value = .bool true ∨
        first.isWord "false" = true ∧ back = [] ∧ value = .bool false :=
  or_congr Form.cons_word_bind_iff Form.cons_word_bind_iff

private theorem scalar_opens {first : Token} {back : List Token} {value : Document}
    (written : Form.either numberForm truthForm (first :: back) value) :
    opensScalar first = true := by
  rcases written with written | written
  · obtain ⟨_, _, same, opens⟩ := numberForm_cons written
    cases same
    revert opens
    cases kind : first.kind <;> simp [opensScalar, kind, TokenKind.opensNumber]
  · rcases truthForm_cons_iff.mp written with ⟨isWord, -⟩ | ⟨isWord, -⟩ <;>
      simp [opensScalar, isWord]

/-- A document that begins like a number or a truth value is one. -/
theorem scalar_iff {first : Token} {back : List Token} {value : Document}
    (opens : opensScalar first = true) :
    Form.either numberForm truthForm (first :: back) value ↔
      documentForm (first :: back) value := by
  constructor
  · rintro (written | written)
    · exact .number written
    · rcases truthForm_cons_iff.mp written with ⟨isWord, rfl, rfl⟩ | ⟨isWord, rfl, rfl⟩ <;>
      · obtain ⟨isName, isText⟩ := Token.isWord_iff.mp isWord
        exact .word isName (by rw [isText]; rfl)
  · intro written
    rcases documentForm_cons_iff.mp written with
      ⟨isKind, -⟩ | ⟨isKind, -⟩ | ⟨isKind, -⟩ | ⟨isKind, rfl, stands⟩ | ⟨-, written⟩
    · simp [opensScalar, Token.isWord, isKind] at opens
    · simp [opensScalar, Token.isWord, isKind] at opens
    · simp [opensScalar, Token.isWord, isKind] at opens
    · refine .inr (truthForm_cons_iff.mpr ?_)
      have isTruth : first.isWord "true" = true ∨ first.isWord "false" = true := by
        simpa [opensScalar, isKind] using opens
      have denoted {word : String} (isWord : first.isWord word = true) :
          wordDocument? word = some value := (Token.isWord_iff.mp isWord).2 ▸ stands
      rcases isTruth with isWord | isWord
      · exact .inl ⟨isWord, rfl, (Option.some.inj (denoted isWord)).symm⟩
      · exact .inr ⟨isWord, rfl, (Option.some.inj (denoted isWord)).symm⟩
    · exact .inl written

/-- The value of an example is read, in front of anything that does not continue a type. -/
theorem anyValue : Reads n closing Parser.anyValue anyValueForm := by
  -- a string is read at once; of what else there is, the word in front of a document comes first,
  -- which begins no scalar
  refine peek (fun first => ?_) ?_
  · by_cases isString : first.kind = .string
    · rw [if_pos (beq_iff_eq.mpr isString)]
      refine .next (m := n) (by rw [isString]; decide)
        ((pure (Document.string first.value)).congr fun back value => ?_) (Nat.le_succ n)
      constructor
      · intro written
        exact .inl (Form.cons_token_bind_iff.mpr ⟨isString, written⟩)
      · rintro (written | written | written)
        · exact (Form.cons_token_bind_iff.mp written).2
        · have isWord := (Form.cons_word_bind_iff.mp written).1
          cases isString.symm.trans (Form.kind_of_isWord isWord)
        · have opens := scalar_opens written
          simp [opensScalar, Token.isWord, isString] at opens
    · rw [if_neg (fun same => isString (beq_iff_eq.mp same))]
      have scalar : At first n closing
          (if opensScalar first then Parser.document
            else failExpected "string literal or `json!(...)`")
          (Form.either numberForm truthForm) := by
        by_cases opens : opensScalar first = true
        · rw [if_pos opens]
          exact documentAt fun _ _ => scalar_iff opens
        · rw [if_neg opens]
          exact .refuse (failExpected_ne_ok _) fun _ _ written => opens (scalar_opens written)
      refine (At.beforeWord (by decide) embeddedDocument scalar ?_).congr
        (fun _ _ => .inr) fun back value written => ?_
      · intro back value written rest _ isWord
        have opens := scalar_opens written
        have isNone := Token.isWord_iff.mp isWord
        simp [opensScalar, Token.isWord, isNone] at opens
      · rcases written with written | written
        · exact absurd (Form.cons_token_bind_iff.mp written).1 isString
        · exact written
  · rintro value (written | written | written | written | written)
    · exact Form.not_token_bind_nil written
    · exact Form.not_word_bind_nil written
    · obtain ⟨_, _, same, -⟩ := numberForm_cons written
      cases same
    · exact Form.not_word_bind_nil written
    · exact Form.not_word_bind_nil written

/-- So is a string behind an equals sign. -/
theorem assignedString : Reads n closing Parser.assignedString assignedStringForm :=
  bindExpectAs _ (by decide) fun _ _ => expectValue _ (by decide)

/-- So is the value of an example behind one. -/
theorem exampleValue : Reads n closing Parser.exampleValue exampleValueForm :=
  bindExpectAs _ (by decide) fun _ _ => anyValue

end Parser.Reads

end OpenResponse
