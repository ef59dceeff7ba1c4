import OpenResponse.Proofs.Document.Form
import OpenResponse.Proofs.TypeRef.Form
import OpenResponse.Response.Parts

/-!
# The forms of the parts of a response

Statuses, bodies, content types, headers, named examples and content by content type.  Wherever a
group stands in parentheses the equals sign in front of it may be left out, and every list may end
in a comma.

Each form is written down as the grammar would have it, with the choices that a reader makes left
open, and then the reader is shown to read it.  The proof goes along the reader: a sequence of
readers reads the sequence of their forms, an optional token reads an optional token, a group reads
a list of its items.  So most proofs here are as long as the readers are.  What needs an argument of
its own is where a reader decides by more than one token, or takes a token before it knows that it
fits.

A status is the largest of these cases.  Its reader looks at the kind of the first token, and a name
goes on as a path of which only the last segment counts; the form says the same with the names that
continue a path.

## Main definitions

* `statusForm` — statuses
* `bodyForm`, `contentTypesForm`, `headersForm`, `examplesForm`, `contentForm` — the other parts

## Main statements

* `Parser.Reads.status`, `Parser.Reads.bodyType`, `Parser.Reads.contentTypes`,
  `Parser.Reads.headers`, `Parser.Reads.examples`, `Parser.Reads.content` — their readers

## Hypotheses

The readers hold a parser in front of what may follow it.  Behind a whole part that is `closing`,
which is anything that does not continue a type.  Inside of parentheses it is less: the description
of a header is read in front of a closing parenthesis, as the comma behind it is optional and must
be its own.

Numbers of statuses are asked to be below a limit.  The limit is the least number with more digits
than can be shown, and it is a parameter wherever possible, because it is far too great to be
computed.
-/

namespace OpenResponse

/-! ### Statuses

A status is kept as a text, whatever it was written as: a number as its decimal numeral, a range as
it stands, a name as the numeral of its code. -/

/-- A status that is written as a number below a limit. -/
def numericStatusForm (limit : Nat) : Form String := do
  let text ← Form.token .integer
  fun tokens status => tokens = [] ∧
    ((readInteger? text).filter (· < limit)).map Nat.repr = some status

/-- A status that is written as the string of a range. -/
def rangeStatusForm : Form String := do
  let text ← Form.token .string
  fun tokens status => tokens = [] ∧ (some text).filter (statusRanges.contains ·) = some status

/-- A status that is written as the path of a name. -/
def namedStatusForm : Form String := do
  let first ← Form.token .identifier
  let names ← tailForm
  fun tokens status => tokens = [] ∧ (statusCode? (names.getLastD first)).map Nat.repr = some status

/-- A status.  It is an integer, a string that is a range, or a path to a named status. -/
def statusForm : Form String :=
  Form.either (numericStatusForm (Nat.pow 10 decimalLimit))
    (Form.either rangeStatusForm namedStatusForm)

/-- The first token decides which of the three forms a status has. -/
theorem either_statusForm_iff {limit : Nat} {first : Token} {rest : List Token} {status : String} :
    Form.either (numericStatusForm limit) (Form.either rangeStatusForm namedStatusForm)
      (first :: rest) status ↔
    first.kind = .integer ∧ (rest = [] ∧
        ((readInteger? first.value).filter (· < limit)).map Nat.repr = some status) ∨
      first.kind = .string ∧
        (rest = [] ∧ (some first.value).filter (statusRanges.contains ·) = some status) ∨
      first.kind = .identifier ∧
        (do
          let names ← tailForm
          fun tokens status => tokens = [] ∧
            (statusCode? (names.getLastD first.value)).map Nat.repr = some status :
            Form String) rest status :=
  or_congr Form.cons_token_bind_iff
    (or_congr Form.cons_token_bind_iff Form.cons_token_bind_iff)

/-- A status behind an equals sign. -/
def assignedStatusForm : Form String := do
  let _ ← Form.token .equals
  statusForm

/-! ### Bodies and content types

The word for references stands in front of a parenthesis, where no type could have it.  So the
choice between the two forms of a body is made by two tokens. -/

/-- A body: a reference, or a type that may be marked to be written out. -/
def bodyForm : Form Body :=
  Form.either
    (do
      Form.word "ref"
      let _ ← Form.token .openParen
      let target ← Form.token .string
      let _ ← Form.token .closeParen
      return .reference target)
    (do return .typed (← inlineTypeForm))

/-- One content type or a list of them.  A list may be empty, and is kept apart from no list at all.
-/
def contentTypesForm : Form (List String) := do
  let _ ← Form.token .equals
  Form.either (do return [← Form.token .string])
    (do let _ ← Form.token .openBracket; listForm .closeBracket (Form.token .string))

/-! ### Headers

A header is one form with three optional parts, of which the type must stand behind an equals sign
and the description behind a comma.  The comma may also be there without a description. -/

/-- What may stand behind the comma in a header. -/
def headerTailForm : Form (Option String) :=
  Form.either
    (do
      Form.word "description"
      let description ← assignedStringForm
      let _ ← Form.optional .comma
      return some description)
    (pure none)

/-- The description of a header. -/
def headerDescriptionForm : Form (Option String) := do
  if ← Form.optional .comma then headerTailForm else return none

/-- A type, if one is given.  That it is given is known from the equals sign in front of it. -/
def givenTypeForm (given : Bool) : Form (Option InlineType) :=
  if given then some <$> inlineTypeForm else pure none

/-- A header between parentheses. -/
def headerForm : Form Header := do
  let _ ← Form.token .openParen
  let name ← Form.token .string
  let typed ← Form.optional .equals
  let type ← givenTypeForm typed
  let description ← headerDescriptionForm
  let _ ← Form.token .closeParen
  return ⟨name, type, description⟩

/-- A group of headers.  The equals sign in front of it is optional. -/
def headersForm : Form (List Header) := do
  let _ ← Form.optional .equals
  groupForm headerForm

/-! ### Named examples

The keys of an example set parts of it.  They are given as a table from names to changes, as the
readers are given as a table from names to handlers, and the two tables are compared line by line.
-/

/-- An entry that changes a state. -/
def applyChange {σ : Type} (_ : Location) (change : σ → σ) (state : σ) : Option σ :=
  some (change state)

/-- What the keys of a named example set. -/
def exampleTable : List (String × Form (Example → Example)) := [
  ("summary", (fun text entry => { entry with summary := some text }) <$> assignedStringForm),
  ("description",
    (fun text entry => { entry with description := some text }) <$> assignedStringForm),
  ("value", (fun value entry => { entry with value := some value }) <$> exampleValueForm),
  ("external_value",
    (fun text entry => { entry with externalValue := some text }) <$> assignedStringForm)]

/-- A named example between parentheses. -/
def namedExampleForm : Form Example := do
  let _ ← Form.token .openParen
  let name ← Form.token .string
  let _ ← Form.token .equals
  let _ ← Form.token .openParen
  let entry ← keysForm exampleTable applyChange ⟨name, none, none, none, none⟩
  let _ ← Form.token .closeParen
  let _ ← Form.optional .comma
  let _ ← Form.token .closeParen
  return entry

/-- A group of named examples.  The equals sign in front of it is optional. -/
def examplesForm : Form (List Example) := do
  let _ ← Form.optional .equals
  groupForm namedExampleForm

/-! ### Content by content type

A variant is a body with keys behind it, which begin at a comma.  Where there is no comma there are
no keys. -/

/-- What the keys of a content variant set. -/
def variantTable : List (String × Form (ContentVariant → ContentVariant)) := [
  ("example", (fun value variant => { variant with sample := some value }) <$> exampleValueForm),
  ("examples",
    (fun examples variant => { variant with examples := some examples }) <$> examplesForm)]

/-- What follows the body of a content variant. -/
def variantKeysForm (variant : ContentVariant) (more : Bool) : Form ContentVariant :=
  if more then keysForm variantTable applyChange variant else pure variant

/-- A content variant between parentheses. -/
def contentVariantForm : Form ContentVariant := do
  let _ ← Form.token .openParen
  let contentType ← Form.token .string
  let _ ← Form.token .equals
  let body ← bodyForm
  let more ← Form.optional .comma
  let variant ← variantKeysForm ⟨contentType, body, none, none⟩ more
  let _ ← Form.token .closeParen
  return variant

/-- A group of content variants.  The equals sign in front of it is optional. -/
def contentForm : Form (List ContentVariant) := do
  let _ ← Form.optional .equals
  groupForm contentVariantForm

namespace Parser.Reads

open TokenStream

variable {n : Nat} {follow : TokenKind → Prop}

/-! ### Reading statuses

The last segment of a path is read with a budget, so both directions are inductions: on the budget
for what is read, on the names for what is written. -/

private theorem lastSegmentWithin_sound
    {budget : Nat} {last token : Token} {stream rest : TokenStream}
    (read : Parser.lastSegmentWithin budget last stream = .ok token rest) :
    ∃ tokens names, stream = rest.preceded tokens ∧ PathTail tokens names ∧
      token.value = names.getLastD last.value := by
  induction budget generalizing last stream with
  | zero =>
    cases read
    exact ⟨[], [], rfl, .nil, rfl⟩
  | succ budget ih =>
    obtain ⟨eaten, _, eatRead, others⟩ := bind_eq_ok.mp read
    rcases eat_eq_ok eatRead (by decide) with ⟨separator, rfl, rfl, isSeparator⟩ | ⟨rfl, rfl, -⟩
    · obtain ⟨word, _, wordRead, more⟩ := bind_eq_ok.mp others
      obtain ⟨rfl, isName⟩ := expectAs_eq_ok wordRead (by decide)
      obtain ⟨tokens, names, rfl, tail, value⟩ := ih more
      refine ⟨separator :: word :: tokens, word.value :: names, ?_,
        .cons isSeparator isName tail, ?_⟩
      · rw [preceded_preceded, preceded_preceded]
        rfl
      · rw [value, List.getLastD_cons]
    · cases others
      exact ⟨[], [], rfl, .nil, rfl⟩

private theorem lastSegmentWithin_complete {tokens : List Token} {names : List String}
    (tail : PathTail tokens names) {budget : Nat} (enough : tokens.length ≤ budget) (last : Token)
    {rest : TokenStream} (follows : endsPath rest.front) :
    ∃ token, Parser.lastSegmentWithin budget last (rest.preceded tokens) = .ok token rest ∧
      token.value = names.getLastD last.value := by
  induction tail generalizing budget last with
  | nil =>
    refine ⟨last, ?_, rfl⟩
    cases budget with
    | zero => rfl
    | succ budget =>
      rw [Parser.lastSegmentWithin, preceded_nil, bind_of_ok (eat_of_ne _ follows)]
      rfl
  | @cons separator word tokens names isSeparator isName others ih =>
    simp only [List.length_cons] at enough
    obtain ⟨budget, rfl⟩ := Nat.exists_eq_succ_of_ne_zero (Nat.ne_zero_of_lt enough)
    obtain ⟨token, read, value⟩ := ih (show tokens.length ≤ budget by omega) word
    refine ⟨token, ?_, by rw [value, List.getLastD_cons]⟩
    rw [Parser.lastSegmentWithin, bind_of_ok (eat_of_kind rest isSeparator _)]
    exact (bind_of_ok (expectAs_of_kind rest isName _ _)).trans read

/-- The value of a number, which is refused if it is too great to be shown.  The limit is arbitrary
here. -/
theorem boundedValue (token : Token) (limit : Nat) :
    Reads n follow
      (do
        let value ← Parser.integerValue token
        if value ≥ limit then throw (.nowhere .numeralLimit)
        return Nat.repr value)
      (fun tokens status => tokens = [] ∧
        ((readInteger? token.value).filter (· < limit)).map Nat.repr = some status) := by
  unfold Parser.integerValue
  cases readInteger? token.value with
  | none => exact refuses fun _ _ _ read => by cases read
  | some value =>
    show Reads n follow (do
      if value ≥ limit then throw (.nowhere .numeralLimit)
      return Nat.repr value) _
    by_cases small : value < limit
    · rw [if_neg (Nat.not_le_of_lt small), Option.filter_some, if_pos (decide_eq_true small)]
      exact gives _
    · rw [if_pos (Nat.le_of_not_lt small), Option.filter_some, if_neg (by simpa using small)]
      exact refuses fun _ _ _ read => by cases read

/-- The string of a range. -/
theorem rangeValue (token : Token) :
    Reads n follow
      (do
        unless statusRanges.contains token.value do
          failAt token (.badStatusRange token.value statusRanges)
        return token.value)
      (fun tokens status => tokens = [] ∧
        (some token.value).filter (statusRanges.contains ·) = some status) := by
  by_cases known : statusRanges.contains token.value = true
  · rw [if_pos known, Option.filter_some, if_pos known]
    exact gives _
  · rw [if_neg known, Option.filter_some, if_neg known]
    exact refuses fun _ _ _ read => by cases read

/-- The code of the name that ends a path. -/
theorem namedStatus (first : Token) :
    Reads n endsPath
      (do
        let last ← Parser.lastSegmentWithin (← Parser.remaining) first
        match statusCode? last.value with
        | some code => return Nat.repr code
        | none => failAt last (.unknownStatus last.value))
      (do
        let names ← tailForm
        fun tokens status =>
          tokens = [] ∧ (statusCode? (names.getLastD first.value)).map Nat.repr = some status) where
  sound stream status rest read := by
    rw [bind_of_ok (remaining_apply _)] at read
    obtain ⟨last, _, segmentsRead, codeRead⟩ := bind_eq_ok.mp read
    obtain ⟨tokens, names, rfl, tail, value⟩ := lastSegmentWithin_sound segmentsRead
    cases found : statusCode? last.value with
    | none =>
      rw [found] at codeRead
      cases codeRead
    | some code =>
      rw [found] at codeRead
      cases codeRead
      refine ⟨tokens, rfl, tokens, [], names, (List.append_nil _).symm, tail, rfl, ?_⟩
      rw [← value, found]
      rfl
  complete := by
    rintro _ status rest - ⟨tokens, _, names, rfl, tail, rfl, found⟩ follows
    rw [List.append_nil, bind_of_ok (remaining_apply _)]
    have enough : tokens.length ≤ (rest.preceded tokens).tokens.length := by
      rw [length_tokens_preceded]
      omega
    obtain ⟨last, read, value⟩ := lastSegmentWithin_complete tail enough first follows
    obtain ⟨code, known, rfl⟩ := Option.map_eq_some_iff.mp found
    rw [bind_of_ok read, value, known]
    rfl

/-- A status is read in front of anything that does not continue a path. -/
theorem status : Reads n closing Parser.status statusForm := by
  refine peek (fun first => ?_) ?_
  · unfold statusForm
    -- the greatest number that is written is not to be computed
    generalize Nat.pow 10 decimalLimit = limit
    split
    next isInteger =>
      refine .next (m := n) (by rw [isInteger]; decide)
        ((boundedValue first limit).congr fun back status => ?_) (Nat.le_succ n)
      exact (either_statusForm_iff.trans (by simp [isInteger])).symm
    next isString =>
      refine .next (m := n) (by rw [isString]; decide)
        ((rangeValue first).congr fun back status => ?_) (Nat.le_succ n)
      exact (either_statusForm_iff.trans (by simp [isString])).symm
    next isName =>
      have named : Reads n closing _ _ := (namedStatus first).mono fun kind follows same => by
        rw [same] at follows
        cases follows
      refine .next (m := n) (by rw [isName]; decide)
        (named.congr fun back status => ?_) (Nat.le_succ n)
      exact (either_statusForm_iff.trans (by simp [isName])).symm
    next notInteger notString notName =>
      refine .refuse (failExpected_ne_ok _) fun back status written => ?_
      rcases either_statusForm_iff.mp written with ⟨isKind, -⟩ | ⟨isKind, -⟩ | ⟨isKind, -⟩
      · exact notInteger isKind
      · exact notString isKind
      · exact notName isKind
  · rintro value (written | written | written) <;> exact Form.not_token_bind_nil written

/-- So is one behind an equals sign. -/
theorem assignedStatus : Reads n closing
    (do let _ ← expect .equals; Parser.status) assignedStatusForm :=
  bindExpectAs _ (by decide) fun _ _ => status

/-! ### Reading bodies and content types

The form of a word in front of a parenthesis, and the one of a single item or a list of items in
brackets, are used once each. -/

/-- A body is read, a reference or a type.  That the word for a reference is followed by a
parenthesis is what tells the two apart. -/
theorem bodyType : Reads n closing Parser.bodyType bodyForm := by
  refine beforeWord (by decide) ?_
    (inlineType.bindPure _) ?_ ?_
  · exact bindExpectAs _ (by decide) fun _ _ => bindExpectAs _ (by decide) fun _ _ => pure _
  · rintro value ⟨front, back, type, whole, inType, -⟩
    rw [(List.append_eq_nil_iff.mp whole.symm).1] at inType
    exact not_inlineTypeForm_nil inType
  · intro tokens value written rest follows isWord
    obtain ⟨front, _, type, rfl, inType, rfl, -⟩ := written
    rw [List.append_nil] at isWord ⊢
    exact not_openParen_behind_word inType follows isWord (by decide)

/-- Content types are read behind an equals sign, one alone or several in brackets. -/
theorem contentTypes : Reads n closing Parser.contentTypes contentTypesForm := by
  refine bindExpectAs _ (by decide) fun _ _ => peek (fun first => ?_) ?_
  · have decided {back : List Token} {types : List String} :
        Form.either (do return [← Form.token .string])
          (do let _ ← Form.token .openBracket; listForm .closeBracket (Form.token .string))
          (first :: back) types ↔
        first.kind = .string ∧ (Pure.pure [first.value] : Form (List String)) back types ∨
          first.kind = .openBracket ∧ listForm .closeBracket (Form.token .string) back types :=
      or_congr Form.cons_token_bind_iff Form.cons_token_bind_iff
    split
    next isString =>
      refine .next (m := n) (by rw [isString]; decide)
        ((pure [first.value]).congr fun back types => ?_) (Nat.le_succ n)
      exact (decided.trans (by simp [isString])).symm
    next isOpening =>
      have list : Reads n closing
          (Parser.separated .closeBracket "`,` or `]`" (do return (← expect .string).value))
          (listForm .closeBracket (Form.token .string)) :=
        separated _ (expectValue _ (by decide)) (rfl : closing .closeBracket) (by decide)
          (by decide) (.token (by decide))
      refine .next (m := n) (by rw [isOpening]; decide) (list.congr fun back types => ?_)
        (Nat.le_succ n)
      exact (decided.trans (by simp [isOpening])).symm
    next notString notOpening =>
      refine .refuse (failExpected_ne_ok _) fun back types written => ?_
      rcases decided.mp written with ⟨isKind, -⟩ | ⟨isKind, -⟩
      · exact notString isKind
      · exact notOpening isKind
  · rintro value (written | written) <;> exact Form.not_token_bind_nil written

/-! ### Reading headers

Inside a header every part is read in front of the parenthesis that closes it, or of what may stand
before that. -/

private theorem headerTail : Reads n beforeParen
    (do
      if (← Parser.peek).kind == .identifier then
        let key ← Parser.next
        unless key.value == "description" do failAt key (.unknownHeaderKey key.value)
        let description ← Parser.assignedString
        let _ ← eat .comma
        return some description
      return none)
    headerTailForm := by
  have text : Reads n beforeParen
      (do
        let description ← Parser.assignedString
        let _ ← eat .comma
        return some description)
      (do
        let description ← assignedStringForm
        let _ ← Form.optional .comma
        return some description) := by
    refine assignedString.bind
      (fun description => bindEat (by decide) (fun _ => pure _) (pure _) ?_)
      fun description => .optional_bind rfl (.pure fun kind isParen => isParen ▸ rfl)
    exact .pure fun kind isParen => isParen ▸ by decide
  -- a name is taken before it is compared, so none of the laws for choices applies
  constructor
  · intro stream description rest read
    rw [bind_of_ok (peek_apply _)] at read
    split at read
    next isName =>
      rw [bind_of_ok (next_apply _)] at read
      split at read
      next isKey =>
        obtain ⟨back, advanced, written⟩ := text.sound _ _ _ read
        refine ⟨stream.lookahead 0 :: back, ?_, .inl (Form.cons_word_bind_iff.mpr ⟨?_, written⟩)⟩
        · rw [eq_preceded_of_front (beq_iff_eq.mp isName) (by decide), advanced, preceded_preceded]
          rfl
        · rw [Token.isWord, isName, isKey]
          rfl
      next => cases read
    next =>
      cases read
      exact ⟨[], rfl, .inr ⟨rfl, rfl⟩⟩
  · rintro tokens description rest short (written | ⟨rfl, rfl⟩) isParen
    · obtain ⟨key, back, rfl, isWord, written⟩ := Form.word_bind_iff.mp written
      rw [Token.isWord, Bool.and_eq_true] at isWord
      rw [List.length_cons] at short
      rw [bind_of_ok (peek_apply _), lookahead_zero_preceded, if_pos isWord.1,
        bind_of_ok (next_apply _), lookahead_zero_preceded, if_pos isWord.2]
      exact text.complete back description rest (by omega) written isParen
    · have notName : ¬ ((rest.lookahead 0).kind == .identifier) = true := by
        rw [beq_iff_eq]
        intro isName
        cases isParen.symm.trans isName
      rw [preceded_nil, bind_of_ok (peek_apply _), if_neg notName]
      rfl

private theorem headerDescription :
    Reads n beforeParen Parser.headerDescription headerDescriptionForm :=
  bindEat (by decide) (fun _ => headerTail) (pure _) (.pure fun kind isParen => isParen ▸ by decide)

private theorem header : Reads n closing Parser.header headerForm := by
  -- behind the name a type may be given or not, and what comes then is read in the same way
  have tail (name : String) (type : Option InlineType) : Reads n closing
      (do
        let description ← Parser.headerDescription
        let _ ← expectAs .closeParen "`)` closing header"
        return Header.mk name type description)
      (do
        let description ← headerDescriptionForm
        let _ ← Form.token .closeParen
        return ⟨name, type, description⟩) :=
    headerDescription.bind (fun _ => bindExpectAs _ (by decide) fun _ _ => pure _)
      fun _ => .token_bind _ rfl
  have opens (name : String) (type : Option InlineType) : Form.Opens (do
        let description ← headerDescriptionForm
        let _ ← Form.token .closeParen
        return Header.mk name type description) closing closing := by
    rintro _ value ⟨front, _, description, rfl, described, closed⟩ rest -
    obtain ⟨mark, _, rfl, isParen, -⟩ := Form.token_bind_iff.mp closed
    rcases Form.optional_bind_iff.mp described with ⟨comma, _, rfl, isComma, -⟩ | ⟨rfl, -⟩
    · rw [List.cons_append, front_preceded, isComma]
      rfl
    · rw [List.nil_append, front_preceded, isParen]
      rfl
  refine bindExpectAs _ (by decide) fun _ _ => bindExpectAs _ (by decide) fun name _ => ?_
  refine bindEat (by decide) (fun _ => ?_) ?_ ?_
  · exact (inlineType.map some).bind (fun type => tail name.value type) fun _ => opens _ _
  · exact pureBind (tail name.value none)
  · refine .pure_bind ((opens _ _).mono fun kind closes same => ?_)
    rw [same] at closes
    cases closes

/-- A group in parentheses, behind an equals sign that may be left out. -/
theorem assignedGroup {α : Type} {item : Parser α} {form : Form α}
    (reads : Reads n closing item form) (avoids : form.Avoids .closeParen) :
    Reads n closing (do let _ ← eat .equals; Parser.group item)
      (do let _ ← Form.optional .equals; groupForm form) :=
  bindEat (by decide) (fun _ => group reads avoids) (group reads avoids)
    (.token_bind _ (by decide))

/-- A group of headers is read, with an equals sign in front of it or without. -/
theorem headers : Reads n closing Parser.headers headersForm :=
  assignedGroup header (.token_bind _ (by decide))

/-! ### Reading examples and content

Both are groups of items in parentheses whose keys are read from tables. -/

private theorem exampleKeys : HandlersRead n Parser.exampleKeys exampleTable applyChange := by
  refine .cons ⟨rfl, fun _ _ => ?_⟩ (.cons ⟨rfl, fun _ _ => ?_⟩ (.cons ⟨rfl, fun _ _ => ?_⟩
    (.cons ⟨rfl, fun _ _ => ?_⟩ .nil)))
  · exact entry assignedString fun _ => rfl
  · exact entry assignedString fun _ => rfl
  · exact entry exampleValue fun _ => rfl
  · exact entry assignedString fun _ => rfl

private theorem namedExample : Reads n closing Parser.namedExample namedExampleForm := by
  refine bindExpectAs _ (by decide) fun _ _ => bindExpectAs _ (by decide) fun name _ =>
    bindExpectAs _ (by decide) fun _ _ => bindExpectAs _ (by decide) fun _ _ => ?_
  refine (keyedInParens exampleKeys _).bind (fun entry => ?_) fun _ => .token_bind _ rfl
  refine bindExpectAs _ (by decide) fun _ _ => bindEat (by decide) (fun _ => ?_) ?_
    (.token_bind _ (by decide))
  · exact bindExpectAs _ (by decide) fun _ _ => pure _
  · exact bindExpectAs _ (by decide) fun _ _ => pure _

/-- So is a group of named examples. -/
theorem examples : Reads n closing Parser.examples examplesForm :=
  assignedGroup namedExample (.token_bind _ (by decide))

private theorem variantKeys : HandlersRead n Parser.variantKeys variantTable applyChange := by
  refine .cons ⟨rfl, fun _ _ => ?_⟩ (.cons ⟨rfl, fun _ _ => ?_⟩ .nil)
  · exact entry exampleValue fun _ => rfl
  · exact entry examples fun _ => rfl

private theorem contentVariant : Reads n closing Parser.contentVariant contentVariantForm := by
  refine bindExpectAs _ (by decide) fun _ _ => bindExpectAs _ (by decide) fun contentType _ =>
    bindExpectAs _ (by decide) fun _ _ => ?_
  have closed (variant : ContentVariant) : Reads n closing
      (do let _ ← expectAs .closeParen "`)` closing content"; return variant)
      (do let _ ← Form.token .closeParen; return variant) :=
    bindExpectAs _ (by decide) fun _ _ => pure _
  refine bodyType.bind (fun body => bindEat (by decide) (fun _ => ?_) ?_ ?_) fun body => ?_
  · exact (keyedInParens variantKeys _).bind closed fun _ => .token_bind _ rfl
  · exact pureBind (closed _)
  · exact .pure_bind (.token_bind _ (by decide))
  · exact .optional_bind rfl (.pure_bind (.token_bind _ rfl))

/-- So is content by content type. -/
theorem content : Reads n closing Parser.content contentForm :=
  assignedGroup contentVariant (.token_bind _ (by decide))

end Parser.Reads

end OpenResponse
