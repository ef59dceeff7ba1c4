import OpenResponse.Proofs.Response.Sequence
import OpenResponse.Proofs.Response.Writing
import OpenResponse.Proofs.TypeRef.NameTexts

/-!
# Words in lists of responses

A word can stand in a list of responses as an entry of its own, or as the type of a response that a
tuple inlines.  In both places it has to be a text of a name, and then the name is all that is kept
of it.

That a text of a name is read as that name follows from writing the tuple: the word is one of its
symbols, and both texts of the name are laid out for it.  The converse takes the tuple apart.  Its
opening is known token by token, and a tuple that is read and begins so must have a type behind it
and a parenthesis that closes it, wherever in the rest of the text that is.  This is enough for the
law about words in front of a type.

## Main definitions

* `inlineText` — a tuple that inlines a response

## Main statements

* `exists_typeForm_behind` — what stands behind the opening of such a tuple
* `NameText.readResponses_inline` — such a tuple with the text of a name
* `exists_nameText_of_entry`, `exists_nameText_of_inline` — no other words are read

## Hypotheses

The word has to be the text of a word of a source, so without blanks and punctuation; else a text
could be given that closes the tuple itself and goes on with more entries.  It must not be empty.

The text behind the word is fixed, two parentheses.  But it is not known from the start that the
word does not take part in what is read around it, and so the inversion is stated for any tokens
behind the opening.
-/

namespace OpenResponse

/-! ### Inverting tuples

Where a part of a known sequence of tokens is read, it is either shorter than the sequence or goes
on beyond it.  The lemmas cut the tokens at the end of the part, one part after the other. -/

/-- The symbols of a tuple in front of the type of the response that it refers to. -/
def inlineOpening (status : String) : List Symbol :=
  .mark '(' :: (statusEntry status ++
    [.mark ',', .word "response", .mark '=', .word "inline", .mark '('])

/-- The status of a tuple reaches up to the comma behind it. -/
theorem eq_of_assignedStatus {status given : String} {tokens more rest : List Token}
    {equals code comma next : Token} (written : assignedStatusForm tokens given)
    (isCode : code.symbol = statusSymbol status)
    (whole : equals :: code :: comma :: rest = tokens ++ next :: more) :
    comma = next ∧ rest = more := by
  have notName : code.kind ≠ .identifier := by
    intro isName
    have isKind := (congrArg Symbol.kind isCode).symm.trans isName
    rw [statusSymbol] at isKind
    split at isKind <;> cases isKind
  obtain ⟨_, back, rfl, -, written⟩ := Form.token_bind_iff.mp written
  rcases written with written | written | written
  · obtain ⟨_, _, rfl, -, rfl, -⟩ := Form.token_bind_iff.mp written
    cases whole
    exact ⟨rfl, rfl⟩
  · obtain ⟨_, _, rfl, -, rfl, -⟩ := Form.token_bind_iff.mp written
    cases whole
    exact ⟨rfl, rfl⟩
  · obtain ⟨_, _, rfl, isName, -⟩ := Form.token_bind_iff.mp written
    rw [List.cons_append, List.cons_append, List.cons.injEq, List.cons.injEq] at whole
    exact absurd (whole.2.1 ▸ isName) notName

/-- Behind the word that marks a type to be written out, that type stands between parentheses. -/
theorem exists_typeForm_of_inline {type : InlineType} {tokens more rest : List Token}
    {word opening next : Token} (written : inlineTypeForm tokens type)
    (isWord : word.kind = .identifier) (isOpening : opening.kind = .openParen)
    (ends : next.kind ≠ .openParen)
    (whole : word :: opening :: rest = tokens ++ next :: more) :
    ∃ inner closing behind type, rest = inner ++ closing :: behind ∧ TypeForm inner type ∧
      closing.kind = .closeParen := by
  rcases written with written | ⟨_, _, type, rfl, written, rfl, -⟩
  · obtain ⟨_, _, rfl, -, written⟩ := Form.word_bind_iff.mp written
    obtain ⟨_, _, rfl, -, inner, back, type, rfl, isType, written⟩ := Form.token_bind_iff.mp written
    obtain ⟨closing, _, rfl, isClosing, rfl, -⟩ := Form.token_bind_iff.mp written
    cases whole
    exact ⟨inner, closing, next :: more, type, by simp, isType, isClosing⟩
  · -- without the word a parenthesis would stand behind a name
    exfalso
    obtain ⟨first, others, rfl, -⟩ := written.cons
    cases others with
    | nil =>
      cases whole
      exact ends isOpening
    | cons second others =>
      cases whole
      have follows := written.followsName isWord opening rfl
      rw [isOpening] at follows
      cases follows

/-- The first key of a list that is closed by a parenthesis, with what stands behind its value. -/
theorem KeyList.exists_first {ε : Type} {value : String → Form ε} {tokens more rest : List Token}
    {entries : List (Location × ε)} {key ending : Token} (list : KeyList value tokens entries)
    (isKey : key.kind = .identifier) (isEnding : ending.kind = .closeParen)
    (whole : key :: rest = tokens ++ ending :: more) :
    ∃ front next behind entry, value key.value front entry ∧ rest = front ++ next :: behind ∧
      (next.kind = .closeParen ∨ next.kind = .comma ∧
        ∃ others placed, KeyList value others placed ∧ behind = others ++ ending :: more) := by
  cases list with
  | nil =>
    cases whole
    cases isKey.symm.trans isEnding
  | last _ written =>
    cases whole
    exact ⟨_, ending, more, _, written, rfl, .inl isEnding⟩
  | cons _ written isComma others =>
    cases whole
    exact ⟨_, _, _, _, written, List.append_assoc .., .inr ⟨isComma, _, _, others, rfl⟩⟩

/-- The first item of a list that is not empty. -/
theorem CommaList.exists_first {α : Type} {item : List Token → α → Prop} {first : Token}
    {tokens : List Token} {values : List α} (list : CommaList item (first :: tokens) values) :
    ∃ front more value, first :: tokens = front ++ more ∧ item front value ∧
      ∀ next ∈ more.head?, next.kind = .comma := by
  generalize whole : first :: tokens = all at list
  cases list with
  | nil => cases whole
  | last written => exact ⟨_, [], _, (List.append_nil _).symm, written, nofun⟩
  | cons written isComma =>
    refine ⟨_, _, _, rfl, written, ?_⟩
    rintro _ ⟨⟩
    exact isComma

section Keys

variable {tokens more rest : List Token} {placed : List (Location × Setting)} {key ending : Token}

/-- Behind the status of a tuple and a comma stand its other keys. -/
theorem KeyList.behindStatus {status : String} {equals code comma : Token}
    (list : KeyList (keyForm tupleTable) tokens placed) (isEnding : ending.kind = .closeParen)
    (isStatus : key.symbol = .word "status") (isCode : code.symbol = statusSymbol status)
    (isComma : comma.symbol = .mark ',')
    (whole : key :: equals :: code :: comma :: rest = tokens ++ ending :: more) :
    ∃ others placed, KeyList (keyForm tupleTable) others placed ∧
      rest = others ++ ending :: more := by
  obtain ⟨front, next, behind, setting, ⟨form, found, allowed⟩, tail, follows⟩ :=
    list.exists_first (congrArg Symbol.kind isStatus) isEnding whole
  rw [show key.value = "status" from congrArg Symbol.value isStatus] at found
  cases found
  obtain ⟨given, assigned, rfl⟩ := Form.map_iff.mp allowed
  obtain ⟨rfl, rfl⟩ := eq_of_assignedStatus assigned isCode tail
  have notClosing : comma.kind ≠ .closeParen := by
    intro isKind
    cases isKind.symm.trans (congrArg Symbol.kind isComma)
  exact (follows.resolve_left notClosing).2

/-- Keys that begin with a response to be written out give its type, and the parenthesis behind. -/
theorem KeyList.exists_typeForm {assigns word opening : Token}
    (list : KeyList (keyForm tupleTable) tokens placed) (isEnding : ending.kind = .closeParen)
    (isResponse : key.symbol = .word "response") (isWord : word.kind = .identifier)
    (isOpening : opening.kind = .openParen)
    (whole : key :: assigns :: word :: opening :: rest = tokens ++ ending :: more) :
    ∃ inner closing behind type, rest = inner ++ closing :: behind ∧ TypeForm inner type ∧
      closing.kind = .closeParen := by
  obtain ⟨front, next, behind, setting, ⟨form, found, allowed⟩, tail, follows⟩ :=
    list.exists_first (congrArg Symbol.kind isResponse) isEnding whole
  rw [show key.value = "response" from congrArg Symbol.value isResponse] at found
  cases found
  obtain ⟨type, assigned, rfl⟩ := Form.map_iff.mp allowed
  obtain ⟨_, back, rfl, -, inlined⟩ := Form.token_bind_iff.mp assigned
  have ends : next.kind ≠ .openParen := by
    rcases follows with isKind | ⟨isKind, -⟩ <;> rw [isKind] <;> decide
  exact exists_typeForm_of_inline inlined isWord isOpening ends (List.cons.inj tail).2

end Keys

/-- **What stands behind the opening of a tuple that inlines a response** is a type and the
parenthesis behind it. -/
theorem exists_typeForm_behind {status : String} {front rest : List Token}
    {entries : List ResponseEntry} (opens : front.map Token.symbol = inlineOpening status)
    (list : CommaList responseEntryForm (front ++ rest) entries) :
    ∃ inner closing behind type, rest = inner ++ closing :: behind ∧ TypeForm inner type ∧
      closing.kind = .closeParen := by
  obtain ⟨opening, _, rfl, isOpening, opens⟩ := List.map_eq_cons_iff.mp opens
  obtain ⟨statusKey, _, rfl, isStatus, opens⟩ := List.map_eq_cons_iff.mp opens
  obtain ⟨equals, _, rfl, -, opens⟩ := List.map_eq_cons_iff.mp opens
  obtain ⟨code, _, rfl, isCode, opens⟩ := List.map_eq_cons_iff.mp opens
  obtain ⟨comma, _, rfl, isComma, opens⟩ := List.map_eq_cons_iff.mp opens
  obtain ⟨responseKey, _, rfl, isResponse, opens⟩ := List.map_eq_cons_iff.mp opens
  obtain ⟨assigns, _, rfl, -, opens⟩ := List.map_eq_cons_iff.mp opens
  obtain ⟨word, _, rfl, isWord, opens⟩ := List.map_eq_cons_iff.mp opens
  obtain ⟨paren, rfl, isParen⟩ := List.map_eq_singleton_iff.mp opens
  -- the first entry is a tuple, for it begins with a parenthesis
  obtain ⟨tokens, more, entry, whole, written, -⟩ := list.exists_first
  rcases responseEntryForm_iff.mp written with ⟨descriptor, tuple, -⟩ | ⟨type, listed, -⟩
  · obtain ⟨_, back, rfl, -, inner, ending, draft, rfl, ⟨placed, keys, -⟩, ended⟩ :=
      Form.token_bind_iff.mp tuple
    obtain ⟨closing, nothing, rfl, isClosing, -⟩ := Form.token_bind_iff.mp ended
    rw [List.cons_append, List.append_assoc, List.cons_append, List.cons.injEq] at whole
    obtain ⟨others, placed, keys, same⟩ :=
      keys.behindStatus isClosing isStatus isCode isComma whole.2
    exact keys.exists_typeForm isClosing isResponse (congrArg Symbol.kind isWord)
      (congrArg Symbol.kind isParen) same
  · obtain ⟨first, others, rfl, -⟩ := listed.1.cons
    have isFirst : opening = first := (List.cons.inj whole).1
    exact absurd (isFirst ▸ congrArg Symbol.kind isOpening) (listed.2 first rfl)

/-! ### Texts of tuples

The tuple is built from a status and the text.  Its opening is laid out in front of any tail, so
that it can be scanned before anything is known of the text. -/

/-- A tuple that inlines a response which is written with a text.  The text stands where a type is
read, so it may be any text. -/
def inlineText (status text : String) : String :=
  "(status = " ++ String.ofList (statusSymbol status).spelling ++ ", response = inline(" ++ text ++
    "))"

/-- The characters of such a tuple in front of the text and behind. -/
theorem toList_inlineText (status text : String) :
    (inlineText status text).toList =
      "(status = ".toList ++ ((statusSymbol status).spelling ++
        (", response = inline(".toList ++ (text.toList ++ [')', ')']))) := by
  simp [inlineText, String.toList_append]

/-- The opening of the tuple is scanned whatever follows. -/
theorem scansTo_inlineOpening {status : String} (isStatus : IsStatus status) (tail : List Char) :
    ScansTo tail ("(status = ".toList ++ ((statusSymbol status).spelling ++
        (", response = inline(".toList ++ tail)))
      fun tokens => tokens.map Token.symbol = inlineOpening status := by
  have front : "(status = ".toList = '(' :: ("status".toList ++ [' ', '=', ' ']) := by decide
  have back : ", response = inline(".toList =
      ',' :: ' ' :: ("response".toList ++ (' ' :: '=' :: ' ' :: ("inline".toList ++ ['(']))) := by
    decide
  have blank : Gap [' '] := .blank (by decide) .nil
  -- the opening is laid out from its end on, each part in front of the next
  have inlined : LaidBefore tail [.word "inline", .mark '('] ("inline".toList ++ ('(' :: tail)) :=
    .name (by decide) (endsNames (by decide) _) (.mark rfl (.nil .nil))
  have assigned : LaidBefore tail [.mark '=', .word "inline", .mark '(']
      (' ' :: '=' :: ' ' :: ("inline".toList ++ ('(' :: tail))) :=
    .behindGap blank (.mark (c := '=') rfl (.behindGap blank inlined))
  have response : LaidBefore tail
      [.mark ',', .word "response", .mark '=', .word "inline", .mark '(']
      (", response = inline(".toList ++ tail) := by
    rw [back]
    simp only [List.cons_append, List.append_assoc, List.nil_append]
    exact .mark rfl (.behindGap blank (.name (by decide) (endsNames (by decide) _) assigned))
  have spelled : Spells (statusSymbol status).spelling (statusSymbol status) := by
    obtain ⟨text, spells⟩ := (writes_status isStatus).spelled _ (List.mem_singleton_self _)
    exact spells.eq_spelling ▸ spells
  have ends : (statusSymbol status).EndsBefore (", response = inline(".toList ++ tail) := by
    rw [back]
    rintro b ⟨⟩
    rw [statusSymbol]
    split <;> rfl
  have opening : LaidBefore tail (inlineOpening status)
      ("(status = ".toList ++ ((statusSymbol status).spelling ++
        (", response = inline(".toList ++ tail))) := by
    rw [front]
    simp only [List.cons_append, List.append_assoc, List.nil_append]
    exact .mark rfl (.name (by decide) (endsNames (by decide) _) (.behindGap blank
      (.mark (c := '=') rfl (.cons blank spelled ends response))))
  exact opening.scansTo

/-- The response that such a tuple refers to. -/
def inlinedUnder (name : String) : InlineType := ⟨.path name [], true⟩

section Reading

variable {status text name : String}

/-- A tuple with a text of a name inlines what is looked up under the name. -/
theorem NameText.readResponses_inline (isText : NameText text name) (isStatus : IsStatus status) :
    readResponses .start (inlineText status text) =
      .ok [.single ⟨some status, .reference (inlinedUnder name)⟩] := by
  have isName := isText.isName
  have closing : LaidBefore [] [.mark ')', .mark ')'] [')', ')'] :=
    .mark rfl (.mark rfl (.nil .nil))
  have named : ScansTo [')', ')'] (text.toList ++ [')', ')']) fun tokens =>
      tokens.map Token.symbol = [.word name] := by
    refine isText.denotes.scansTo (fun _ b first => ?_) fun b first => ?_ <;> cases first <;> decide
  have rest : ScansTo [] (text.toList ++ [')', ')']) fun tokens =>
      tokens.map Token.symbol = [.word name, .mark ')', .mark ')'] :=
    named.append closing.scansTo fun tokens more isNamed closes => by
      rw [List.map_append, isNamed, closes]
      rfl
  have whole : ScansTo [] (inlineText status text).toList fun tokens =>
      tokens.map Token.symbol = inlineOpening status ++ [.word name, .mark ')', .mark ')'] := by
    rw [toList_inlineText]
    refine (scansTo_inlineOpening isStatus _).append rest fun tokens more opens isRest => ?_
    rw [List.map_append, opens, isRest]
  obtain ⟨tokens, scanned, same⟩ := whole.eq_ok .start
  -- these are the symbols of the tuple in the style without what may be left out
  have writable : ResponseDescriptor.Writable ⟨some status, .reference (inlinedUnder name)⟩ :=
    ⟨⟨status, rfl, isStatus⟩, .reference (.name isName)⟩
  have symbols : ResponseDescriptor.symbols .bare
      ⟨some status, .reference (inlinedUnder name)⟩ = tokens.map Token.symbol := by
    rw [same]
    simp [ResponseDescriptor.symbols, Response.entries, inlineOpening, statusEntry, punctuate,
      InlineType.symbols, inlinedUnder, TypeRef.symbols_name isName, Style.here, Style.bare]
  refine readResponses_eq_ok.mpr ⟨tokens, scanned, .last (responseEntryForm_iff.mpr (.inl ?_))⟩
  exact ⟨_, (writable.writes .bare).allowed tokens symbols.symm, rfl⟩

/-- A word in such a tuple is a text of a name, if the tuple is read. -/
theorem exists_nameText_of_inline {entries : List ResponseEntry} (isStatus : IsStatus status)
    (isWord : Source.IsWordText text.toList) (notEmpty : text ≠ "")
    (read : readResponses .start (inlineText status text) = .ok entries) :
    ∃ name, NameText text name := by
  obtain ⟨tokens, scanned, list⟩ := readResponses_eq_ok.mp read
  rw [toList_inlineText] at scanned
  obtain ⟨front, there, opens, split⟩ :=
    scansTo_inlineOpening isStatus (text.toList ++ [')', ')']) .start
  rw [split] at scanned
  obtain ⟨rest, scannedRest, rfl⟩ := map_eq_ok.mp scanned
  obtain ⟨inner, closing, behind, type, rfl, written, isClosing⟩ :=
    exists_typeForm_behind opens list
  obtain ⟨first, others, rfl, opensType⟩ := written.cons
  have stops : ∀ b ∈ [')', ')'].head?, continuesName b = false ∧ b ≠ '#' := by
    rintro b ⟨⟩
    decide
  have closes : ∀ next ∈ (closing :: behind).head?, next.kind.followsName = true := by
    rintro _ ⟨⟩
    rw [isClosing]
    rfl
  have isText := exists_nameText_of_scan isWord notEmpty stops scannedRest opensType
    fun isName => written.followsName_append isName closes
  exact ⟨_, isText.2⟩

/-- A word that is read as a list of responses is a text of a name.  No word begins with a
parenthesis, so it is an entry by its type, and a type that is a single word is a name. -/
theorem exists_nameText_of_entry {origin : Location} {entries : List ResponseEntry}
    (isWord : Source.IsWordText text.toList) (notEmpty : text ≠ "")
    (read : readResponses origin text = .ok entries) : ∃ name, NameText text name := by
  obtain ⟨tokens, scanned, list⟩ := readResponses_eq_ok.mp read
  obtain ⟨c, rest, whole⟩ := List.exists_cons_of_ne_nil (mt String.toList_eq_nil_iff.mp notEmpty)
  have solid := (isWord.isSolid (whole ▸ List.mem_cons_self : c ∈ text.toList)).1
  obtain ⟨first, others, _, _, rfl, -⟩ := exists_token_of_scan (whole ▸ scanned) solid
  obtain ⟨front, more, entry, split, written, commas⟩ := list.exists_first
  rw [← List.append_nil text.toList] at scanned
  have ends : ∀ b ∈ ([] : List Char).head?, continuesName b = false ∧ b ≠ '#' := nofun
  rcases responseEntryForm_iff.mp written with ⟨descriptor, tuple, -⟩ | ⟨type, listed, -⟩
  · -- no word begins with a parenthesis
    obtain ⟨opening, back, rfl, isOpening, -⟩ := Form.token_bind_iff.mp tuple
    cases split
    have opens : first.kind.opensType = true := by rw [isOpening]; rfl
    have named := exists_nameText_of_scan isWord notEmpty ends scanned opens fun isName => by
      cases isOpening.symm.trans isName
    cases isOpening.symm.trans named.1
  · obtain ⟨opening, back, rfl, opens⟩ := listed.1.cons
    cases split
    have separates : ∀ next ∈ more.head?, next.kind.followsName = true := by
      intro next isNext
      rw [commas next isNext]
      rfl
    have isText := exists_nameText_of_scan isWord notEmpty ends scanned opens
      fun isName => listed.1.followsName_append isName separates
    exact ⟨_, isText.2⟩

end Reading

end OpenResponse
