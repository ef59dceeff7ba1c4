import OpenResponse.Declaration.Response
import OpenResponse.Proofs.Outcome
import OpenResponse.Proofs.Response.Writing
import OpenResponse.Proofs.Response.Relocation
import OpenResponse.Proofs.Token.Origin

/-!
# Declarations and tuples

A declaration that stands for its only field takes the body of its response from the type of the
field and everything else from its attribute.  A response tuple takes all of it from one list of
keys.  Whatever is written in the field and in the attribute, the tuple in which both stand one
behind the other is read as the response of the declaration.

The type and the arguments of the attribute are texts of their own, which may end in a line comment.
In the tuple a line feed keeps what stands behind them out of the comment.

The text of the tuple is scanned in pieces, each in front of whatever follows it, and the pieces are
those from which the declaration was made.  So the tokens of the tuple are an opening, the tokens of
the type, a comma, the tokens of the attribute and a closing mark.  That these are a tuple is a
matter of forms: every key of an attribute is a key of tuples, and what it sets in an attribute it
sets in the draft of a tuple too.  The two drafts are followed through the keys side by side.

## Main definitions

* `BodyText`, `tupleText` — the tuple that says what a declaration says
* `Declaration.StandsFor` — declarations that stand for their only field

## Main statements

* `keysForm_of_detailsForm` — what an attribute says, behind a body in a tuple
* `readResponseTuple_tupleText` — the tuple of a body and an attribute
* `Declaration.StandsFor.agrees_with_tuple` — **declarations and tuples agree**

## Hypotheses

The type of the field and the arguments of the attribute are texts that are read; nothing else is
asked of them.  They are read where they stand in a source and again inside the tuple, at other
places.  The response holds no places, so this makes no difference.

`BodyText` has one condition.  Where the body is marked to be written out and the parenthesis that
closes the mark stands on the line of the type, the type must not end in a line comment, which would
swallow the parenthesis.  With the parenthesis on a line of its own nothing is asked.

That the field is no reference is asked only where responses are listed, because only there it could
be one.
-/

namespace OpenResponse

/-! ### The keys of attributes in tuples

A table covers another one if it allows whatever the other allows.  Covering is checked line by line
and used for whole lists of keys. -/

/-- Every key of a table is in another one, where it allows what it allows in the first. -/
def Covers {ε ε' : Type} (make : ε → ε') (table : List (String × Form ε))
    (other : List (String × Form ε')) : Prop :=
  ∀ entry ∈ table, ∃ form, other.lookup entry.1 = some form ∧
    ∀ tokens setting, entry.2 tokens setting → form tokens (make setting)

private theorem Covers.keyForm {ε ε' : Type} {make : ε → ε'} {table : List (String × Form ε)}
    {other : List (String × Form ε')} (covers : Covers make table other) {key : String}
    {tokens : List Token} {setting : ε} (written : keyForm table key tokens setting) :
    keyForm other key tokens (make setting) := by
  obtain ⟨form, listed, allowed⟩ := written
  obtain ⟨before, behind, rfl, -⟩ := List.lookup_eq_some_iff.mp listed
  obtain ⟨form', listed', weaker⟩ := covers (key, form) (by simp)
  exact ⟨form', listed', weaker tokens setting allowed⟩

/-- The keys of an attribute are keys of an attribute that gives the status. -/
theorem covers_statusDetailTable : Covers .value detailTable statusDetailTable := by
  simp only [Covers, detailTable, List.forall_mem_cons, List.not_mem_nil, false_imp_iff,
    implies_true, and_true]
  refine ⟨⟨_, rfl, ?_⟩, ⟨_, rfl, ?_⟩, ⟨_, rfl, ?_⟩, ⟨_, rfl, ?_⟩, ⟨_, rfl, ?_⟩⟩ <;>
  · intro tokens setting written
    exact Form.map_iff.mpr ⟨setting, written, rfl⟩

/-- The keys of an attribute that gives the status are keys of a tuple. -/
theorem covers_tupleTable : Covers id statusDetailTable tupleTable := by
  simp only [Covers, statusDetailTable, detailTable, List.map_cons, List.map_nil,
    List.forall_mem_cons, List.not_mem_nil, false_imp_iff, implies_true, and_true]
  refine ⟨⟨_, rfl, fun _ _ written => written⟩, ⟨_, rfl, ?_⟩, ⟨_, rfl, ?_⟩, ⟨_, rfl, ?_⟩,
    ⟨_, rfl, ?_⟩, ⟨_, rfl, ?_⟩⟩ <;>
  · intro tokens setting written
    obtain ⟨said, inner, rfl⟩ := Form.map_iff.mp written
    obtain ⟨value, innermost, rfl⟩ := Form.map_iff.mp inner
    exact Form.map_iff.mpr ⟨value, innermost, rfl⟩

/-- A list of keys of a table is one of the keys of a table that covers it. -/
theorem Covers.keyList {ε ε' : Type} {make : ε → ε'} {table : List (String × Form ε)}
    {other : List (String × Form ε')} (covers : Covers make table other) {tokens : List Token}
    {placed : List (Location × ε)} (list : KeyList (OpenResponse.keyForm table) tokens placed) :
    KeyList (OpenResponse.keyForm other) tokens (placed.map (Prod.map id make)) := by
  induction list with
  | nil => exact .nil
  | last isKey written => exact .last isKey (covers.keyForm written)
  | cons isKey written isComma _ ih => exact .cons isKey (covers.keyForm written) isComma ih

/-- A list of keys is a list of entries with commas between them. -/
theorem KeyList.commaList {ε : Type} {value : String → Form ε} {tokens : List Token}
    {placed : List (Location × ε)} (list : KeyList value tokens placed) :
    CommaList (Form.token .identifier >>= value) tokens (placed.map Prod.snd) := by
  induction list with
  | nil => exact .nil
  | @last key tokens entry isKey written =>
    exact .last (Form.token_bind_iff.mpr ⟨key, tokens, rfl, isKey, written⟩)
  | @cons key comma tokens more entry entries isKey written isComma others ih =>
    have item : (Form.token .identifier >>= value) (key :: tokens) entry :=
      Form.token_bind_iff.mpr ⟨key, tokens, rfl, isKey, written⟩
    exact .cons item isComma ih

/-! ### What attributes say in tuples

The same settings are made in two states: in what an attribute says and in a status with a value.
What relates the states is the response that an attribute describes. -/

/-- The description of a declaration without documentation is that of its attribute. -/
theorem ite_isEmpty (text : String) : (if text.isEmpty then "" else text) = text := by
  split
  · next empty => exact (String.isEmpty_iff.mp empty).symm
  · rfl

/-- A setting of an attribute is the same setting of the response that the attribute describes. -/
theorem ValueSetting.change_responseValue {setting : ValueSetting} {here : Location}
    {details later : Details} (applied : setting.onDetails here details = some later)
    (body : Option Body) :
    setting.change (details.responseValue "" body []) = later.responseValue "" body [] := by
  cases setting with
  | description text =>
    cases applied
    rw [Details.responseValue, Details.responseValue, ite_isEmpty text]
    rfl
  | body said => cases applied
  | content variants => cases applied
  | contentTypes types => cases applied; rfl
  | headers list => cases applied; rfl
  | sample shown => cases applied; rfl
  | examples list => cases applied; rfl

/-- The settings of an attribute describe the response that the attribute describes. -/
theorem foldl_make_of_onStatusDetails {placed : List (Location × Setting)}
    {state later : Option String × Details}
    (applied : applyAll Setting.onStatusDetails placed state = some later) (body : Option Body) :
    (∀ setting ∈ placed.map Prod.snd, setting.describes = true) ∧
      (placed.map Prod.snd).foldl Setting.make (state.1, state.2.responseValue "" body []) =
        (later.1, later.2.responseValue "" body []) := by
  induction placed generalizing state with
  | nil =>
    cases applied
    exact ⟨fun _ listed => (by cases listed), rfl⟩
  | cons entry rest ih =>
    obtain ⟨here, setting⟩ := entry
    obtain ⟨between, first, others⟩ := Option.bind_eq_some_iff.mp applied
    obtain ⟨describe, made⟩ := ih others
    cases setting with
    | status text =>
      cases first
      exact ⟨List.forall_mem_cons.mpr ⟨rfl, describe⟩, made⟩
    | value setting =>
      obtain ⟨details, done, rfl⟩ := Option.map_eq_some_iff.mp first
      refine ⟨List.forall_mem_cons.mpr ⟨rfl, describe⟩, ?_⟩
      rw [List.map_cons, List.foldl_cons, Setting.make, ValueSetting.change_responseValue done]
      exact made
    | reference type => cases first

/-- Settings that are made without a status are made whatever it is. -/
theorem applyAll_onStatusDetails {placed : List (Location × ValueSetting)} {details later : Details}
    (applied : applyAll ValueSetting.onDetails placed details = some later)
    (status : Option String) :
    applyAll Setting.onStatusDetails (placed.map (Prod.map id .value)) (status, details) =
      some (status, later) := by
  induction placed generalizing details with
  | nil =>
    cases applied
    rfl
  | cons entry rest ih =>
    obtain ⟨here, setting⟩ := entry
    obtain ⟨between, first, others⟩ := Option.bind_eq_some_iff.mp applied
    show (Setting.onStatusDetails here (.value setting) (status, details)).bind _ = _
    rw [Setting.onStatusDetails, first]
    exact ih others

/-- What an attribute says that does not give the status, with a status from elsewhere. -/
theorem keysForm_of_detailsForm {tokens : List Token} {details : Details}
    (written : detailsForm tokens details) (status : Option String) :
    keysForm statusDetailTable Setting.onStatusDetails (status, .empty) tokens
      (status, details) := by
  obtain ⟨placed, list, applied⟩ := written
  exact ⟨_, covers_statusDetailTable.keyList list, applyAll_onStatusDetails applied status⟩

/-! ### Bodies in tuples

The body of the tuple is the type of the field, as it stands or between the parentheses of a mark.
-/

/-- The texts that say in a tuple what a type says in a field, where it may be marked to be written
out.  Behind a type that ends in a line comment the mark is closed on a line of its own. -/
inductive BodyText (typeText : String) : Bool → String → Prop
  | plain : BodyText typeText false typeText
  | inLine (closed : ¬ EndsInComment typeText.toList) :
      BodyText typeText true ("inline(" ++ typeText ++ ")")
  | behindLine : BodyText typeText true ("inline(" ++ typeText ++ "\n)")

/-- The text of a body is scanned as the body, on the line that it ends. -/
theorem BodyText.scansTo {typeText text : String} {isInline : Bool} {type : TypeRef}
    (isText : BodyText typeText isInline text)
    (scans : ∀ here, ∃ tokens, scan here typeText.toList = .ok tokens ∧ typeForm tokens type)
    (back : List Char) :
    ScansTo ('\n' :: back) (text.toList ++ '\n' :: back)
      (bodyForm · (.typed ⟨type, isInline⟩)) := by
  have typed {form : Form InlineType} {tail text : List Char} {inner : InlineType}
      (scans : ScansTo tail text (form · inner))
      (weaker : ∀ tokens, form tokens inner → inlineTypeForm tokens inner) :
      ScansTo tail text (bodyForm · (.typed inner)) :=
    ((scans.mono weaker).bind (.pure (Body.typed inner) tail)).mono fun tokens => .inr
  -- what closes the mark stands behind the type at once, or on the next line
  have marked {b : Char} {more : List Char} (closes : Closes b typeText.toList)
      (closing : ScansTo ('\n' :: back) (b :: more) (Form.token .closeParen · ")")) :
      ScansTo ('\n' :: back) ("inline(".toList ++ (typeText.toList ++ b :: more))
        (bodyForm · (.typed ⟨type, true⟩)) := by
    have whole : ScansTo ('\n' :: back) ("inline(".toList ++ (typeText.toList ++ b :: more))
        ((do
          Form.word "inline"
          let _ ← Form.token .openParen
          let type ← typeForm
          let _ ← Form.token .closeParen
          return InlineType.mk type true) · ⟨type, true⟩) := by
      have name : isName "inline" = true := by decide
      refine (ScansTo.word name ?_).bind ((ScansTo.mark rfl _).bind
        ((ScansTo.of_closes scans closes more).bind (closing.bind (.pure _ _))))
      intro b first
      cases first
      decide
    exact typed whole fun tokens => .inl
  cases isText with
  | plain =>
    have whole : ScansTo ('\n' :: back) (typeText.toList ++ '\n' :: back)
        ((do return InlineType.mk (← typeForm) false) · ⟨type, false⟩) :=
      (ScansTo.of_closes scans (.lineFeed _) back).bind (.pure _ _)
    exact typed whole fun tokens => .inr
  | inLine closed =>
    have whole := marked (.paren closed) (.mark (c := ')') rfl _)
    simpa using whole
  | behindLine =>
    have whole := marked (.lineFeed _)
      (.blank (c := '\n') (by decide) (.mark (c := ')') rfl _))
    simpa using whole

/-! ### Tuples that describe a response

`Describes` relates tokens to what they make of a status and a value.  Tokens with a comma between
them are related one after the other, which is how the pieces of the tuple are put together. -/

/-- Entries of a tuple that make one status and value out of another one. -/
def Describes (before after : Option String × ResponseValue) (tokens : List Token) : Prop :=
  ∃ settings, CommaList (entryItem tupleTable) tokens settings ∧
    (∀ setting ∈ settings, setting.describes = true) ∧ settings.foldl Setting.make before = after

namespace Describes

variable {before after : Option String × ResponseValue} {tail middle text : List Char}

/-- An entry in front of others. -/
theorem cons {setting : Setting} (describes : setting.describes = true)
    (entry : ScansTo (',' :: middle) text (entryItem tupleTable · setting))
    (others : ScansTo tail middle (Describes (Setting.make before setting) after)) :
    ScansTo tail text (Describes before after) := by
  have behind : ScansTo tail (',' :: middle) fun tokens => ∃ comma more,
      tokens = comma :: more ∧ comma.kind = .comma ∧
        Describes (Setting.make before setting) after more := by
    refine (ScansTo.mark (c := ',') rfl middle).append others ?_
    rintro _ more ⟨comma, rfl, isComma, -⟩ written
    exact ⟨comma, more, rfl, isComma, written⟩
  refine entry.append behind ?_
  rintro tokens _ written ⟨comma, more, rfl, isComma, settings, list, describe, made⟩
  exact ⟨setting :: settings, .cons written isComma list,
    List.forall_mem_cons.mpr ⟨describes, describe⟩, made⟩

/-- What the keys of an attribute describe. -/
theorem of_keysForm {state later : Option String × Details} {tokens : List Token}
    (written : keysForm statusDetailTable Setting.onStatusDetails state tokens later)
    (body : Option Body) :
    Describes (state.1, state.2.responseValue "" body [])
      (later.1, later.2.responseValue "" body []) tokens := by
  obtain ⟨placed, list, applied⟩ := written
  obtain ⟨describe, made⟩ := foldl_make_of_onStatusDetails applied body
  have entries := (covers_tupleTable.keyList list).commaList
  rw [List.map_map] at entries
  exact ⟨_, entries, describe, made⟩

/-- Entries that give a status and a value are closed as their descriptor. -/
theorem close {status : String} {value : ResponseValue} {tokens closing : List Token}
    (describes : Describes (none, .empty) (some status, value) tokens)
    (isClosing : Form.token .closeParen closing ")") :
    (keysForm tupleTable Setting.onDraft .empty >>= draftForm) (tokens ++ closing)
      ⟨some status, .value value⟩ := by
  obtain ⟨settings, list, describe, made⟩ := describes
  obtain ⟨placed, same, keys⟩ := KeyList.of_commaList list
  obtain ⟨draft, applied, there, isDescriptor⟩ := exists_draft describe made
  obtain ⟨token, rfl, isKind, -⟩ := isClosing
  refine ⟨tokens, [token], draft, rfl, ⟨placed, keys, applied placed same⟩, ?_⟩
  exact Form.cons_token_bind_iff.mpr ⟨isKind, rfl, there, isDescriptor.symm⟩

end Describes

/-! ### The text of a tuple

The tuple has a status in front only if the attribute gives none. -/

/-- The tuple of a body and of the arguments of an attribute, with more in front. -/
def tupleText (front body arguments : String) : String :=
  "(" ++ front ++ "body = " ++ body ++ "\n,\n" ++ arguments ++ "\n)"

/-- What stands in front of a body in a tuple, and the status that it gives. -/
inductive Front : String → Option String → Prop
  | none : Front "" none
  | status : Front "status = 200, " (some "200")

/-- A body behind its key. -/
theorem scansTo_bodyEntry {tail text : List Char} {said : Body}
    (scans : ScansTo tail text (bodyForm · said)) :
    ScansTo tail ("body = ".toList ++ text) (entryItem tupleTable · (.value (.body said))) := by
  have space : isBlank ' ' = true := by decide
  have assigned : ScansTo tail (" = ".toList ++ text) (assignedBodyForm · said) :=
    .blank space ((ScansTo.mark rfl _).bind (.blank space scans))
  have name : isName "body" = true := by decide
  refine (ScansTo.name name ?_).bind (assigned.mono fun tokens written => ?_)
  · intro b first
    cases first
    decide
  · exact ⟨_, rfl, Form.map_iff.mpr ⟨said, written, rfl⟩⟩

/-- A status behind its key. -/
theorem scansTo_statusEntry (tail : List Char) :
    ScansTo (',' :: tail) ("status = 200".toList ++ ',' :: tail)
      (entryItem tupleTable · (.status "200")) := by
  have space : Gap [' '] := .blank (by decide) .nil
  have isStatus : IsStatus "200" := .inr ⟨200, by decide, by decide⟩
  have key : isName "status" = true := by decide
  have numeral : Spells ['2', '0', '0'] (statusSymbol "200") :=
    .numeral (forall_mem_of_all (by decide))
  refine (writes_statusEntry isStatus).scansTo (.cons Gap.nil (Symbol.spells_word key) ?_
    (.cons space (Symbol.spells_mark rfl) ?_ (.cons space numeral ?_ (.nil .nil))))
  all_goals
    intro b first
    cases first
    decide

/-- A body, a comma on the next line, and the arguments of an attribute. -/
theorem scansTo_bodyAndArguments {body arguments : String} {given : Option String} {said : Body}
    {after : Option String × ResponseValue}
    (bodyScans : ∀ back, ScansTo ('\n' :: back) (body.toList ++ '\n' :: back) (bodyForm · said))
    (argumentsScan : ∀ here, ∃ tokens, scan here arguments.toList = .ok tokens ∧
      Describes (given, Details.empty.responseValue "" (some said) []) after tokens)
    (tail : List Char) :
    ScansTo ('\n' :: tail)
      ("body = ".toList ++ (body.toList ++ '\n' :: ',' :: '\n' ::
        (arguments.toList ++ '\n' :: tail)))
      (Describes (given, .empty) after) := by
  have line : isBlank '\n' = true := by decide
  refine Describes.cons rfl (.blankBehind line (scansTo_bodyEntry (bodyScans _))) ?_
  exact .blank line (.of_closes argumentsScan (.lineFeed _) tail)

/-- The tuple of a body and an attribute is read as what the attribute says of the body. -/
theorem readResponseTuple_tupleText {front body arguments : String} {given : Option String}
    {status : String} {said : Body} {value : ResponseValue} (isFront : Front front given)
    (bodyScans : ∀ back, ScansTo ('\n' :: back) (body.toList ++ '\n' :: back) (bodyForm · said))
    (argumentsScan : ∀ here, ∃ tokens, scan here arguments.toList = .ok tokens ∧
      Describes (given, Details.empty.responseValue "" (some said) []) (some status, value) tokens)
    (origin : Location) :
    readResponseTuple origin (tupleText front body arguments) =
      .ok ⟨some status, .value value⟩ := by
  have behind := scansTo_bodyAndArguments bodyScans argumentsScan [')']
  have entries : ScansTo ['\n', ')'] (front.toList ++ ("body = ".toList ++ (body.toList ++
      '\n' :: ',' :: '\n' :: (arguments.toList ++ ['\n', ')']))))
      (Describes (none, .empty) (some status, value)) := by
    cases isFront with
    | none => exact behind
    | status =>
      exact Describes.cons rfl (scansTo_statusEntry _) (.blank (c := ' ') (by decide) behind)
  have closing : ScansTo [] ['\n', ')'] (Form.token .closeParen · ")") :=
    .blank (c := '\n') (by decide) (.mark rfl [])
  have inner : ScansTo [] _ ((keysForm tupleTable Setting.onDraft .empty >>= draftForm) ·
      ⟨some status, .value value⟩) := entries.append closing fun _ _ => Describes.close
  have whole : ScansTo [] ('(' :: _) (tupleForm · ⟨some status, .value value⟩) :=
    (ScansTo.mark rfl _).bind inner
  obtain ⟨tokens, scanned, written⟩ := whole.eq_ok origin
  refine readResponseTuple_eq_ok.mpr ⟨tokens, ?_, written⟩
  simpa [tupleText] using scanned

/-! ### Texts that are read elsewhere

A text that is read at one place is read at any other, with the same value up to places. -/

section Elsewhere

variable {origin : Location} {text : String} {R : Location → Location → Prop}

private theorem readTypeRef_elsewhere {type : TypeRef} (read : readTypeRef origin text = .ok type)
    (here : Location) : readTypeRef here text = .ok type := by
  have moved : Alike (fun _ _ => True) Eq (readTypeRef origin text) (readTypeRef here text) :=
    Alike.runOnAll Parser.Respects.typeRef fun _ _ => trivial
  obtain ⟨_, readHere, rfl⟩ := Alike.eq_ok (read ▸ moved)
  exact readHere

private theorem readDetails_elsewhere
    {details : Details} (read : readDetails origin text = .ok details)
    (here : Location) :
    ∃ other, readDetails here text = .ok other ∧ details.Related (fun _ _ => True) other := by
  have moved : Alike (fun _ _ => True) (Details.Related fun _ _ => True) (readDetails origin text)
      (readDetails here text) := Alike.runOn Parser.Respects.details fun _ _ => trivial
  exact Alike.eq_ok (read ▸ moved)

private theorem readStatusDetails_elsewhere {said : StatusDetails}
    (read : readStatusDetails origin text = .ok said) (here : Location) :
    ∃ other, readStatusDetails here text = .ok other ∧ said.Related (fun _ _ => True) other := by
  have moved : Alike (fun _ _ => True) (StatusDetails.Related fun _ _ => True)
      (readStatusDetails origin text) (readStatusDetails here text) :=
    Alike.runOn Parser.Respects.statusDetails fun _ _ => trivial
  exact Alike.eq_ok (read ▸ moved)

/-- The places that an attribute remembers are not in the response that it describes. -/
theorem Details.Related.responseValue {details other : Details} (same : details.Related R other)
    (description : String) (body : Option Body) (content : List ContentVariant) :
    other.responseValue description body content =
      details.responseValue description body content := by
  rw [Details.responseValue, Details.responseValue, same.contentTypes, same.headers,
    same.description, same.sample, same.examples]

/-- The text of a type is scanned as the type wherever it stands. -/
theorem exists_tokens_of_readTypeRef {type : TypeRef} (read : readTypeRef origin text = .ok type)
    (here : Location) : ∃ tokens, scan here text.toList = .ok tokens ∧ typeForm tokens type :=
  readTypeRef_eq_ok.mp (readTypeRef_elsewhere read here)

/-- The arguments of an attribute describe the same response wherever they stand. -/
theorem describes_of_readDetails {details : Details} (read : readDetails origin text = .ok details)
    (status : Option String) (body : Option Body) (here : Location) :
    ∃ tokens, scan here text.toList = .ok tokens ∧
      Describes (status, Details.empty.responseValue "" body [])
        (status, details.responseValue "" body []) tokens := by
  obtain ⟨other, readHere, same⟩ := readDetails_elsewhere read here
  obtain ⟨tokens, scanned, written⟩ := readDetails_eq_ok.mp readHere
  refine ⟨tokens, scanned, ?_⟩
  rw [← same.responseValue]
  exact .of_keysForm (keysForm_of_detailsForm written status) body

/-- The arguments of an attribute that gives the status do so too. -/
theorem describes_of_readStatusDetails {said : StatusDetails}
    (read : readStatusDetails origin text = .ok said) (body : Option Body) (here : Location) :
    ∃ tokens, scan here text.toList = .ok tokens ∧
      Describes (none, Details.empty.responseValue "" body [])
        (some said.status, said.details.responseValue "" body []) tokens := by
  obtain ⟨other, readHere, same⟩ := readStatusDetails_elsewhere read here
  obtain ⟨tokens, scanned, written⟩ := readStatusDetails_eq_ok.mp readHere
  refine ⟨tokens, scanned, ?_⟩
  rw [same.status, ← same.details.responseValue]
  exact .of_keysForm written body

end Elsewhere

/-! ### Declarations that stand for their only field

Here the response of the declaration is computed.  Without documentation its description is that of
the attribute. -/

/-- A tuple struct without documentation that has one field and one attribute. -/
structure Declaration.StandsFor (declaration : Declaration) (field : Field) (attr : Attribute) :
    Prop where
  kind : declaration.kind = .struct
  tuple : declaration.isTuple = true
  fields : declaration.fields = [field]
  attributes : declaration.attributes = [attr]
  name : attr.name = "response"
  docs : declaration.docs = []

/-- A single attribute is what all attributes say. -/
theorem foldAttributes_single {α : Type} {read : Location → String → Except Fault α}
    {merge : α → α → α} {attr : Attribute} {value : α} (named : attr.name = "response")
    (isRead : read attr.location attr.arguments = .ok value) :
    foldAttributes read merge [attr] = .ok (some value) := by
  have only : [attr].filter (·.name == "response") = [attr] := by simp [named]
  rw [foldAttributes, only, List.mapM_cons, isRead]
  rfl

namespace Declaration.StandsFor

variable {declaration : Declaration} {field : Field} {attr : Attribute} {type : TypeRef}

private theorem description (stands : declaration.StandsFor field attr) :
    declaration.description = "" := by
  rw [Declaration.description, stands.docs]
  rfl

private theorem shape (stands : declaration.StandsFor field attr) (typed : field.type = .ok type) :
    declaration.shape = .ok (.newtype type field.attributes) := by
  rw [Declaration.shape, stands.kind, stands.fields]
  dsimp only
  rw [if_pos stands.tuple, typed]
  rfl

/-- The response that the declaration is. -/
theorem response_eq (stands : declaration.StandsFor field attr) (typed : field.type = .ok type)
    {details : Details} (read : readDetails attr.location attr.arguments = .ok details) :
    declaration.response = .ok ⟨none, .value (details.responseValue ""
      (some (.typed ⟨type, hasAttribute field.attributes "to_schema"⟩)) [])⟩ := by
  have merged : mergedDetails declaration.attributes = .ok (some details) := by
    rw [stands.attributes]
    exact foldAttributes_single stands.name read
  rw [Declaration.response, stands.shape typed]
  show createResponse declaration _ _ = _
  rw [createResponse, merged, stands.description]
  rfl

/-- The only response that the declaration lists. -/
theorem responses_eq (stands : declaration.StandsFor field attr) (typed : field.type = .ok type)
    (notReference : hasAttribute field.attributes "ref_response" = false)
    (notResponse : hasAttribute field.attributes "to_response" = false) {said : StatusDetails}
    (read : readStatusDetails attr.location attr.arguments = .ok said) :
    declaration.responses = .ok [⟨some said.status, .value (said.details.responseValue ""
      (some (.typed ⟨type, hasAttribute field.attributes "to_schema"⟩)) [])⟩] := by
  have merged : requiredStatus declaration.attributes declaration.location = .ok said := by
    rw [requiredStatus, mergedStatusDetails, stands.attributes,
      foldAttributes_single stands.name read]
    rfl
  have contents : field.responseBody =
      .ok (.inr (.typed ⟨type, hasAttribute field.attributes "to_schema"⟩)) := by
    rw [Field.responseBody, notReference, notResponse, Field.body, typed]
    rfl
  rw [Declaration.responses, stands.shape typed]
  show (do
    let value ← requiredStatus declaration.attributes declaration.location
    let contents ← declaration.fields.head?.mapM Field.responseBody
    return [← statusResponse value declaration.description contents declaration.location]) = _
  rw [merged, stands.fields, stands.description, List.head?_cons, Option.mapM_some, contents]
  rfl

/-- **Declarations and tuples agree.**  Whatever type stands in the field and whatever the attribute
says, the declaration is the response that is read off the tuple of both; and if the attribute gives
the status, the declaration lists the one response that is read off that tuple, with its status. -/
theorem agrees_with_tuple (stands : declaration.StandsFor field attr) {place origin : Location}
    (typed : readTypeRef place field.typeText = .ok type) {body : String}
    (isBody : BodyText field.typeText (hasAttribute field.attributes "to_schema") body) :
    (∀ details, readDetails origin attr.arguments = .ok details →
      ∃ value, declaration.response = .ok ⟨none, .value value⟩ ∧
        ∀ here, readResponseTuple here (tupleText "status = 200, " body attr.arguments) =
          .ok ⟨some "200", .value value⟩) ∧
    (∀ said, readStatusDetails origin attr.arguments = .ok said →
      hasAttribute field.attributes "ref_response" = false →
      hasAttribute field.attributes "to_response" = false →
      ∃ status value, declaration.responses = .ok [⟨some status, .value value⟩] ∧
        ∀ here, readResponseTuple here (tupleText "" body attr.arguments) =
          .ok ⟨some status, .value value⟩) := by
  have fieldType : field.type = .ok type := readTypeRef_elsewhere typed field.location
  have bodyScans := isBody.scansTo (exists_tokens_of_readTypeRef typed)
  constructor
  · intro details read
    obtain ⟨other, readThere, -⟩ := readDetails_elsewhere read attr.location
    refine ⟨_, stands.response_eq fieldType readThere, ?_⟩
    exact readResponseTuple_tupleText .status bodyScans (describes_of_readDetails readThere _ _)
  · intro said read notReference notResponse
    obtain ⟨other, readThere, -⟩ := readStatusDetails_elsewhere read attr.location
    refine ⟨_, _, stands.responses_eq fieldType notReference notResponse readThere, ?_⟩
    exact readResponseTuple_tupleText .none bodyScans (describes_of_readStatusDetails readThere _)

/-- A tuple struct whose field is written out, with a description and with a range of statuses. -/
theorem agrees_with_tuple_users :
    let field : Field := ⟨none, "Vec<User>", ⟨2, 9⟩, [⟨"to_schema", "", none, ⟨2, 3⟩⟩], []⟩
    let found : Attribute := ⟨"response", "description = \"found\",", none, ⟨1, 12⟩⟩
    let refused : Attribute := ⟨"response", "status = \"4XX\"", none, ⟨1, 12⟩⟩
    let declared (attr : Attribute) : Declaration :=
      ⟨"Users", .struct, [field], true, [], [attr], [], [], ⟨2, 1⟩⟩
    (∃ value, (declared found).response = .ok ⟨none, .value value⟩ ∧
      readResponseTuple .start
          "(status = 200, body = inline(Vec<User>)\n,\ndescription = \"found\",\n)" =
        .ok ⟨some "200", .value value⟩) ∧
    (∃ status value, (declared refused).responses = .ok [⟨some status, .value value⟩] ∧
      readResponseTuple .start "(body = inline(Vec<User>\n)\n,\nstatus = \"4XX\"\n)" =
        .ok ⟨some status, .value value⟩) := by
  intro field found refused declared
  have stands (attr : Attribute) (named : attr.name = "response") :
      (declared attr).StandsFor field attr := ⟨rfl, rfl, rfl, rfl, named, rfl⟩
  have typed : (readTypeRef .start field.typeText).isOk = true := by decide +kernel
  have foundRead : (readDetails .start found.arguments).isOk = true := by decide +kernel
  have refusedRead : (readStatusDetails .start refused.arguments).isOk = true := by decide +kernel
  obtain ⟨type, typed⟩ := exists_of_isOk typed
  obtain ⟨details, foundRead⟩ := exists_of_isOk foundRead
  obtain ⟨said, refusedRead⟩ := exists_of_isOk refusedRead
  obtain ⟨value, isResponse, isTuple⟩ :=
    (agrees_with_tuple (stands found rfl) typed
      (.inLine (not_endsInComment (by decide)))).1 details foundRead
  obtain ⟨status, value', isResponses, isTuple'⟩ :=
    (agrees_with_tuple (stands refused rfl) typed .behindLine).2 said refusedRead rfl rfl
  exact ⟨⟨value, isResponse, isTuple .start⟩, ⟨status, value', isResponses, isTuple' .start⟩⟩

/-- Behind a type that ends in a line comment the parenthesis that closes the mark is part of the
comment, if it stands on the same line. -/
theorem not_agrees_behind_comment :
    ¬ ∀ (declaration : Declaration) (field : Field) (attr : Attribute) (type : TypeRef)
      (details : Details), declaration.StandsFor field attr →
        readTypeRef .start field.typeText = .ok type →
        hasAttribute field.attributes "to_schema" = true →
        readDetails .start attr.arguments = .ok details →
        ∃ value, declaration.response = .ok ⟨none, .value value⟩ ∧
          readResponseTuple .start
              (tupleText "status = 200, " ("inline(" ++ field.typeText ++ ")") attr.arguments) =
            .ok ⟨some "200", .value value⟩ := by
  intro agrees
  let field : Field := ⟨none, "X // c", .start, [⟨"to_schema", "", none, .start⟩], []⟩
  let attr : Attribute := ⟨"response", "", none, .start⟩
  let declaration : Declaration :=
    ⟨"Y", .struct, [field], true, [], [attr], [], [], .start⟩
  have typed : (readTypeRef .start field.typeText).isOk = true := by decide +kernel
  have said : (readDetails .start attr.arguments).isOk = true := by decide +kernel
  obtain ⟨type, typed⟩ := exists_of_isOk typed
  obtain ⟨details, said⟩ := exists_of_isOk said
  obtain ⟨value, -, read⟩ := agrees declaration field attr type details
    ⟨rfl, rfl, rfl, rfl, rfl, rfl⟩ typed rfl said
  have fails : (readResponseTuple .start
      "(status = 200, body = inline(X // c)\n,\n\n)").isOk = false := by decide +kernel
  have same : tupleText "status = 200, " ("inline(" ++ field.typeText ++ ")") attr.arguments =
      "(status = 200, body = inline(X // c)\n,\n\n)" := by decide
  rw [same] at read
  rw [read] at fails
  cases fails

end Declaration.StandsFor

end OpenResponse
