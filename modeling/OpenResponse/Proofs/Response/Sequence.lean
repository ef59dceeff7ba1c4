import OpenResponse.Proofs.Response.Keys
import OpenResponse.Proofs.Response.Relocation
import OpenResponse.Proofs.Token.Layout
import OpenResponse.Proofs.Token.Origin

/-!
# Lists of responses

The entries of a list of responses are tuples and paths, with commas between them.  An entry ends at
the same token whether a comma or the end of the input follows.  So two lists with a comma between
them are one list, the entries of the first followed by those of the second.

The text between the two lists is a comma between line feeds.  A line feed ends whatever the first
text ends with, also a line comment, so the tokens of the whole are those of the first text, a
comma, and those of the second one.  What remains is a fact about lists with commas.

## Main definitions

* `responseEntryForm` — the entries of a list
* `EndsInComma` — lists that already end in a comma

## Main statements

* `Parser.Reads.responseEntry` — the reader of an entry
* `readResponses_eq_ok` — what is read off a text that is a list of responses
* `CommaList.append` — two lists with a comma between them
* `readResponses_joined` — two texts with a comma on a line between them

## Hypotheses

The first list must have entries, and must not end in a comma.  Else two commas would stand side by
side, or a comma in front of the first entry, and neither is a list.  Nothing is asked of the second
list: if it is empty, the comma is one behind the last entry, and if it ends in a comma, so does the
whole.

Both lists are read from the beginning of a text, while the second one stands at another place in
the whole.  Its entries hold no places, so they are the same.
-/

namespace OpenResponse

/-! ### The form of an entry

A tuple begins with a parenthesis, and so does the unit type.  In a list of responses it is a tuple
that is read there, so the unit type is not among the types that may be listed. -/

/-- A type that does not begin with a parenthesis, as it stands in a list of responses. -/
def listedTypeForm : Form TypeRef := fun tokens type =>
  typeForm tokens type ∧ ∀ first ∈ tokens.head?, first.kind ≠ .openParen

/-- An entry of a list of responses: a tuple, or the path of a type. -/
def responseEntryForm : Form ResponseEntry :=
  Form.either (do return .single (← tupleForm)) (do return .allOf (← listedTypeForm).text)

/-- An entry is a response tuple, or it is a listed type and means all responses of that type. -/
theorem responseEntryForm_iff {tokens : List Token} {entry : ResponseEntry} :
    responseEntryForm tokens entry ↔
      (∃ descriptor, tupleForm tokens descriptor ∧ entry = .single descriptor) ∨
        ∃ type, listedTypeForm tokens type ∧ entry = .allOf type.text := by
  refine or_congr ?_ ?_ <;>
  · constructor
    · rintro ⟨front, _, value, rfl, written, rfl, rfl⟩
      exact ⟨value, by rwa [List.append_nil], rfl⟩
    · rintro ⟨value, written, rfl⟩
      exact ⟨tokens, [], value, (List.append_nil _).symm, written, rfl, rfl⟩

/-- An entry begins with a token that does not end the list. -/
theorem responseEntryForm_avoids : responseEntryForm.Avoids .endOfInput := by
  intro tokens entry written
  rcases responseEntryForm_iff.mp written with ⟨descriptor, tuple, -⟩ | ⟨type, ⟨written, -⟩, -⟩
  · obtain ⟨opening, back, rfl, isOpen, -⟩ := Form.token_bind_iff.mp tuple
    exact ⟨opening, back, rfl, by rw [isOpen]; decide⟩
  · obtain ⟨first, back, rfl, opens⟩ := TypeForm.cons written
    refine ⟨first, back, rfl, fun isEnd => ?_⟩
    rw [isEnd] at opens
    cases opens

namespace Parser.Reads

open TokenStream

variable {n : Nat}

/-- An entry is read in front of a comma or the end of the input. -/
theorem responseEntry : Reads n closing Parser.responseEntry responseEntryForm := by
  refine peek (fun first => ?_) fun entry written => ?_
  · by_cases isOpen : (first.kind == .openParen) = true
    · rw [if_pos isOpen]
      refine .of_reads (responseTuple.bindPure ResponseEntry.single)
        (fun _ _ _ tuple => .inl tuple) fun back entry written => ?_
      rcases written with tuple | ⟨_, _, type, whole, listed, rfl, rfl⟩
      · exact tuple
      · rw [List.append_nil] at whole
        subst whole
        exact absurd (beq_iff_eq.mp isOpen) (listed.2 first rfl)
    · rw [if_neg isOpen]
      refine .of_reads (typeRef.bindPure fun type => ResponseEntry.allOf type.text)
        (fun tokens entry isFirst written => ?_) fun back entry written => ?_
      · obtain ⟨front, _, type, rfl, written, rfl, rfl⟩ := written
        refine responseEntryForm_iff.mpr (.inr ⟨type, ⟨by rwa [List.append_nil], ?_⟩, rfl⟩)
        intro token head
        rw [isFirst token head]
        simpa using isOpen
      · rcases responseEntryForm_iff.mp written with ⟨descriptor, tuple, -⟩ | ⟨type, listed, rfl⟩
        · exact absurd (Form.cons_token_bind_iff.mp tuple).1 (by simpa using isOpen)
        · exact ⟨_, [], type, (List.append_nil _).symm, listed.1, rfl, rfl⟩
  · obtain ⟨first, back, same, -⟩ := responseEntryForm_avoids _ _ written
    cases same

/-! ### Reading lists

The list of entries ends at the end of the input, which is a condition on what follows rather than a
token.  So its reader is not one of the separated lists, and its two directions are proved here. -/

private theorem atEnd_apply (stream : TokenStream) :
    Parser.atEnd stream = .ok (stream.front == .endOfInput) stream := rfl

/-- A list of entries ends where the input does. -/
theorem responseEntriesWithin_end (budget : Nat) {stream : TokenStream}
    (ended : stream.front = .endOfInput) :
    Parser.responseEntriesWithin budget stream = .ok [] stream := by
  cases budget with
  | zero => rfl
  | succ budget =>
    rw [Parser.responseEntriesWithin, bind_of_ok (atEnd_apply stream), ended]
    rfl

/-- An entry is read, and a comma behind it unless the list ends there. -/
theorem responseEntriesWithin_entry (budget : Nat) {stream middle : TokenStream}
    {entry : ResponseEntry} (notEnd : stream.front ≠ .endOfInput)
    (read : Parser.responseEntry stream = .ok entry middle) :
    Parser.responseEntriesWithin (budget + 1) stream =
      (do
        unless ← Parser.atEnd do
          let _ ← expectAs .comma "`,` or end of input"
        return entry :: (← Parser.responseEntriesWithin budget)) middle := by
  have going : (stream.front == .endOfInput) = false := beq_false_of_ne notEnd
  rw [Parser.responseEntriesWithin, bind_of_ok (atEnd_apply stream), going]
  exact bind_of_ok read

private theorem responseEntriesWithin_sound {budget : Nat} {stream rest : TokenStream}
    {entries : List ResponseEntry}
    (read : Parser.responseEntriesWithin budget stream = .ok entries rest) :
    (stream.tokens.length ≤ budget → rest.front = .endOfInput) ∧
      ∃ tokens, stream = rest.preceded tokens ∧ CommaList responseEntryForm tokens entries := by
  induction budget generalizing stream entries with
  | zero =>
    cases read
    refine ⟨fun enough => ?_, [], rfl, .nil⟩
    obtain ⟨tokens, finish⟩ := rest
    obtain rfl := List.length_eq_zero_iff.mp (Nat.le_zero.mp enough)
    rfl
  | succ budget ih =>
    by_cases ended : stream.front = .endOfInput
    · rw [responseEntriesWithin_end _ ended] at read
      cases read
      exact ⟨fun _ => ended, [], rfl, .nil⟩
    -- the first entry is there, because the list is read
    have entryRead : ∃ entry middle, Parser.responseEntry stream = .ok entry middle := by
      rw [Parser.responseEntriesWithin, bind_of_ok (atEnd_apply stream),
        beq_false_of_ne ended] at read
      obtain ⟨entry, middle, entryRead, -⟩ := bind_eq_ok.mp read
      exact ⟨entry, middle, entryRead⟩
    obtain ⟨entry, middle, entryRead⟩ := entryRead
    rw [responseEntriesWithin_entry budget ended entryRead, bind_of_ok (atEnd_apply middle)] at read
    obtain ⟨tokens, rfl, written⟩ := (responseEntry (n := 0)).sound _ _ _ entryRead
    obtain ⟨first, back, rfl, -⟩ := responseEntryForm_avoids _ _ written
    by_cases last : middle.front = .endOfInput
    · rw [last] at read
      obtain ⟨others, _, othersRead, done⟩ := bind_eq_ok.mp read
      rw [responseEntriesWithin_end _ last] at othersRead
      cases othersRead
      cases done
      exact ⟨fun _ => last, first :: back, rfl, .last written⟩
    · rw [beq_false_of_ne last] at read
      obtain ⟨comma, behind, commaRead, read⟩ := bind_eq_ok.mp read
      obtain ⟨others, _, othersRead, done⟩ := bind_eq_ok.mp read
      cases done
      obtain ⟨rfl, isComma⟩ := expectAs_eq_ok commaRead (by decide)
      obtain ⟨stops, more, rfl, list⟩ := ih othersRead
      refine ⟨fun enough => stops ?_, first :: back ++ comma :: more, by simp,
        .cons written isComma list⟩
      simp only [length_tokens_preceded, List.length_cons, List.length_nil] at enough ⊢
      omega

private theorem responseEntriesWithin_complete {tokens : List Token} {entries : List ResponseEntry}
    (list : CommaList responseEntryForm tokens entries) {budget : Nat}
    (enough : tokens.length ≤ budget) {rest : TokenStream} (ended : rest.front = .endOfInput) :
    Parser.responseEntriesWithin budget (rest.preceded tokens) = .ok entries rest := by
  induction list generalizing budget with
  | nil => exact responseEntriesWithin_end budget ended
  | @last tokens entry written =>
    obtain ⟨first, back, rfl, differ⟩ := responseEntryForm_avoids _ _ written
    obtain ⟨budget, rfl⟩ := Nat.exists_eq_succ_of_ne_zero (Nat.ne_zero_of_lt enough)
    have notEnd : (rest.preceded (first :: back)).front ≠ .endOfInput := differ
    have read := responseEntry.complete _ entry rest (Nat.le_refl _) written (ended ▸ rfl)
    rw [responseEntriesWithin_entry budget notEnd read, bind_of_ok (atEnd_apply rest), ended]
    exact bind_of_ok (responseEntriesWithin_end budget ended)
  | @cons tokens more comma entry entries written isComma others ih =>
    obtain ⟨first, back, rfl, differ⟩ := responseEntryForm_avoids _ _ written
    rw [List.length_append, List.length_cons, List.length_cons] at enough
    obtain ⟨budget, rfl⟩ := Nat.exists_eq_succ_of_ne_zero (Nat.ne_zero_of_lt enough)
    have read := responseEntry.complete _ entry (rest.preceded (comma :: more)) (Nat.le_refl _)
      written (by rw [front_preceded, isComma]; rfl)
    rw [preceded_preceded] at read
    have notEnd : (rest.preceded (first :: back ++ comma :: more)).front ≠ .endOfInput := differ
    have going : ((rest.preceded (comma :: more)).front == .endOfInput) = false := by
      rw [front_preceded, isComma]
      rfl
    rw [responseEntriesWithin_entry budget notEnd read, bind_of_ok (atEnd_apply _), going]
    exact (bind_of_ok (expectAs_of_kind rest isComma _ more)).trans (bind_of_ok (ih (by omega)))

private theorem responseEntries :
    Reads n (· = .endOfInput) Parser.responseEntries (CommaList responseEntryForm) :=
  .remaining fun _ => {
    sound := fun _ _ _ read => (responseEntriesWithin_sound read).2
    complete := fun _ _ _ short list ended => responseEntriesWithin_complete list short ended }

end Parser.Reads

/-- What is read off a text that is a list of responses.  Its entries are separated by commas, and a
comma may stand behind the last one. -/
theorem readResponses_eq_ok {origin : Location} {text : String} {entries : List ResponseEntry} :
    readResponses origin text = .ok entries ↔
      ∃ tokens, scan origin text.toList = .ok tokens ∧
        CommaList responseEntryForm tokens entries :=
  Parser.Reads.runOn_iff (fun _ => Parser.Reads.responseEntries) rfl fun _ _ _ read =>
    (Parser.Reads.responseEntriesWithin_sound read).1 (Nat.le_refl _)

/-! ### Two lists

The laws of lists hold for any items.  Where the first list has a comma behind its last item, its
tokens end in a comma, which is excluded. -/

/-- What holds of every item that can be written holds of the items of a list. -/
theorem CommaList.forall_mem {α : Type} {item : List Token → α → Prop} {P : α → Prop}
    {tokens : List Token} {values : List α} (list : CommaList item tokens values)
    (holds : ∀ tokens value, item tokens value → P value) : ∀ value ∈ values, P value := by
  induction list with
  | nil =>
    intro value listed
    cases listed
  | last written => exact List.forall_mem_singleton.mpr (holds _ _ written)
  | cons written _ _ ih => exact List.forall_mem_cons.mpr ⟨holds _ _ written, ih⟩

/-- A list without items has no tokens. -/
theorem CommaList.tokens_eq_nil {α : Type} {item : List Token → α → Prop} {tokens : List Token}
    {values : List α} (list : CommaList item tokens values) (none : values = []) : tokens = [] := by
  cases list with
  | nil => rfl
  | last => cases none
  | cons => cases none

/-- Two lists with a comma between them are one list, unless the first already ends in a comma or
has no items. -/
theorem CommaList.append {α : Type} {item : List Token → α → Prop} {front back : List Token}
    {values others : List α} (first : CommaList item front values) (some : values ≠ [])
    (notTrailing : ∀ last ∈ front.getLast?, last.kind ≠ .comma) {comma : Token}
    (isComma : comma.kind = .comma) (second : CommaList item back others) :
    CommaList item (front ++ comma :: back) (values ++ others) := by
  induction first with
  | nil => exact absurd rfl some
  | last written => exact .cons written isComma second
  | @cons tokens more mark value values written isMark list ih =>
    cases more with
    | nil => exact absurd isMark (notTrailing mark (by simp))
    | cons next more =>
      have others : values ≠ [] := fun none => by cases list.tokens_eq_nil none
      have rest := ih others fun last isLast => notTrailing last (by
        rw [List.getLast?_append_cons, List.getLast?_cons_cons]
        exact isLast)
      rw [List.append_assoc, List.cons_append]
      exact .cons written isMark rest

/-- A text whose last token is a comma.  Such a text may be followed by more entries, and any other
needs a comma in between. -/
def EndsInComma (text : String) : Prop :=
  ∃ tokens, scan .start text.toList = .ok tokens ∧ ∃ last ∈ tokens.getLast?, last.kind = .comma

/-- A text with a last token that is no comma does not end in one. -/
theorem not_endsInComma {text : String} {kind : TokenKind}
    (last : (fun tokens : List Token => tokens.getLast?.map Token.kind) <$>
      scan .start text.toList = .ok (some kind)) (differ : kind ≠ .comma) : ¬ EndsInComma text := by
  rintro ⟨tokens, scanned, token, isLast, isComma⟩
  rw [scanned] at last
  obtain ⟨_, isLastToo, rfl⟩ := Option.map_eq_some_iff.mp (Except.ok.inj last)
  cases isLast.symm.trans isLastToo
  exact differ isComma

/-- The tokens of two texts with a comma on a line between them. -/
theorem scan_joined {origin : Location} {front : String} {tokens : List Token}
    (scanned : scan origin front.toList = .ok tokens) (back : String) :
    ∃ comma there, comma.kind = .comma ∧
      scan origin (front ++ "\n,\n" ++ back).toList =
        (tokens ++ comma :: ·) <$> scan there back.toList := by
  have lines : (front ++ "\n,\n" ++ back).toList =
      front.toList ++ '\n' :: ',' :: '\n' :: back.toList := by simp
  have mark (here : Location) (rest : List Char) :
      scan here (',' :: rest) = (⟨.comma, ",", here⟩ :: ·) <$> scan (here.next ',') rest := by
    rw [scan_cons (ScanStep.mark rfl).readLexeme_eq]
    rfl
  let line := (origin.behind front.toList).next '\n'
  let there := (line.next ',').next '\n'
  refine ⟨⟨.comma, ",", line⟩, there, rfl, ?_⟩
  rw [lines, scan_append scanned (.lineFeed _), scan_lineFeed, mark, scan_lineFeed]
  cases scan there back.toList <;> rfl

/-- A list of responses is read alike wherever it stands. -/
theorem readResponses_elsewhere {here : Location} {text : String} {entries : List ResponseEntry}
    (read : readResponses here text = .ok entries) (there : Location) :
    readResponses there text = .ok entries := by
  have moved : Alike (fun _ _ => True) Eq (readResponses here text) (readResponses there text) :=
    Alike.runOn Parser.Respects.responseEntries fun _ _ => trivial
  obtain ⟨_, readThere, rfl⟩ := Alike.eq_ok (read ▸ moved)
  exact readThere

/-- Two texts with a comma on a line between them list the entries of both. -/
theorem readResponses_joined {front back : String} {entries others : List ResponseEntry}
    (frontRead : readResponses .start front = .ok entries)
    (backRead : readResponses .start back = .ok others) (some : entries ≠ [])
    (notTrailing : ¬ EndsInComma front) :
    readResponses .start (front ++ "\n,\n" ++ back) = .ok (entries ++ others) := by
  obtain ⟨tokens, scanned, list⟩ := readResponses_eq_ok.mp frontRead
  obtain ⟨comma, there, isComma, joined⟩ := scan_joined scanned back
  obtain ⟨more, scannedMore, listMore⟩ :=
    readResponses_eq_ok.mp (readResponses_elsewhere backRead there)
  have notComma : ∀ last ∈ tokens.getLast?, last.kind ≠ .comma :=
    fun last isLast isComma => notTrailing ⟨tokens, scanned, last, isLast, isComma⟩
  refine readResponses_eq_ok.mpr
    ⟨tokens ++ comma :: more, ?_, list.append some notComma isComma listMore⟩
  rw [joined, scannedMore]
  rfl

end OpenResponse
