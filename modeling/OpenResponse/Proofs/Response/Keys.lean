import OpenResponse.Proofs.Response.Form
import OpenResponse.Proofs.Token.Text
import OpenResponse.Response.Details

/-!
# The keys of a response

A response tuple and an attribute of a declaration list keys with values.  What a key sets is kept
apart here from what setting it does: the same setting changes the draft of a tuple, where it may be
refused, and what an attribute says, where the places of examples are remembered.

A tuple is refused as soon as it has a reference and a value.  So the form of a tuple must know of
refusal too, and it does in the way in which settings are applied: `Setting.onDraft` gives nothing
where a setting is refused.  The question whether a list of settings goes through is then answered
without reading: what is in a draft stays there, so no setting is refused if and only if the draft
that they all make is not mixed.

## Main definitions

* `ValueSetting`, `Setting` — what a key sets
* `tupleTable`, `detailTable`, `statusDetailTable` — the forms of the values of the keys
* `Setting.onDraft`, `ValueSetting.onDetails`, `Setting.onStatusDetails` — what setting them does
* `TupleDraft.Mixed` — drafts with a reference and a value, which are refused
* `Setting.make` — what it comes to in a status and a value
* `tupleForm`, `detailsForm`, `statusDetailsForm` — tuples and attributes

## Main statements

* `Parser.Reads.responseTuple`, `Parser.Reads.details`, `Parser.Reads.statusDetails` — their readers
* `TupleDraft.applyAll_of_not_mixed`, `TupleDraft.refusedAt_of_mixed` — which settings are refused
* `exists_draft` — what the settings of a tuple come to
* `readResponseTuple_eq_ok`, `readDetails_eq_ok`, `readStatusDetails_eq_ok` — reading whole texts

## Design notes

What a setting does is given twice for drafts, by `Setting.onDraft` and by `TupleDraft.make`.  The
first is what readers do, one step at a time.  The second ignores the conflict, is total, and can
therefore be folded over a list, and the lemmas on mixed drafts say where the two agree.

The keys of attributes are those of tuples, without bodies and content.  An attribute that gives the
status has one key more, which its table says by adding a line to the other table.
-/

namespace OpenResponse

/-- What a key sets in a response that is described by its value.  There is one constructor for each
key, so a table of keys can be read as a table of settings. -/
inductive ValueSetting
  | description (text : String)
  | body (body : Body)
  | contentTypes (types : List String)
  | headers (headers : List Header)
  | sample (value : Document)
  | examples (examples : List Example)
  | content (variants : List ContentVariant)

/-- What a key of a response sets.  It is the status, the response that is referred to, or something
in a value. -/
inductive Setting
  | status (text : String)
  | value (setting : ValueSetting)
  | reference (type : InlineType)

/-- The response in which a setting is made. -/
def ValueSetting.change : ValueSetting → ResponseValue → ResponseValue
  | .description text, value => { value with description := text }
  | .body said, value => { value with body := some said }
  | .contentTypes types, value => { value with contentTypes := some types }
  | .headers entries, value => { value with headers := entries }
  | .sample shown, value => { value with sample := some shown }
  | .examples entries, value => { value with examples := some entries }
  | .content variants, value => { value with content := variants }

/-- What a setting does to the draft of a tuple.  A response is described by its value or refers to
another one, but not both. -/
def Setting.onDraft (_ : Location) : Setting → TupleDraft → Option TupleDraft
  | .status text, draft => some { draft with status := some text }
  | .value setting, draft =>
    if draft.reference.isSome then none
    else some { draft with value := some (setting.change (draft.value.getD .empty)) }
  | .reference type, draft =>
    if draft.value.isSome then none else some { draft with reference := some type }

/-- What a setting does to what an attribute says.  Bodies and content are not for attributes. -/
def ValueSetting.onDetails (here : Location) : ValueSetting → Details → Option Details
  | .description text, details => some { details with description := text }
  | .contentTypes types, details => some { details with contentTypes := some types }
  | .headers entries, details => some { details with headers := entries }
  | .sample shown, details => some { details with sample := some shown, sampleAt := some here }
  | .examples entries, details =>
    some { details with examples := some entries, examplesAt := some here }
  | .body _, _ => none
  | .content _, _ => none

/-- What a setting does to what an attribute says that also gives the status. -/
def Setting.onStatusDetails (here : Location) :
    Setting → Option String × Details → Option (Option String × Details)
  | .status text, state => some (some text, state.2)
  | .value setting, state => (setting.onDetails here state.2).map fun details => (state.1, details)
  | .reference _, _ => none

/-- Whether a setting describes a response rather than refers to one. -/
def Setting.describes : Setting → Bool
  | .reference _ => false
  | _ => true

/-- A setting in a status and a value.  A setting of the status leaves the value alone, and the
other way round. -/
def Setting.make : Option String × ResponseValue → Setting → Option String × ResponseValue
  | (_, said), .status text => (some text, said)
  | (given, said), .value setting => (given, setting.change said)
  | state, .reference _ => state

/-- A setting in a draft that does not refuse it.  Whether a draft refuses a setting is a question
of its own, which is asked first. -/
def TupleDraft.make : TupleDraft → Setting → TupleDraft
  | draft, .status text => { draft with status := some text }
  | draft, .value setting =>
    { draft with value := some (setting.change (draft.value.getD .empty)) }
  | draft, .reference type => { draft with reference := some type }

/-- The keys of an attribute.  There is no key for the status among them, nor one for content. -/
def detailTable : List (String × Form ValueSetting) := [
  ("description", .description <$> assignedStringForm),
  ("content_type", .contentTypes <$> contentTypesForm),
  ("headers", .headers <$> headersForm),
  ("example", .sample <$> exampleValueForm),
  ("examples", .examples <$> examplesForm)]

/-- The keys of an attribute that also gives the status.  They are those of an attribute without
one, and the key of the status. -/
def statusDetailTable : List (String × Form Setting) :=
  ("status", .status <$> assignedStatusForm) ::
    detailTable.map fun (key, form) => (key, .value <$> form)

/-- A body behind an equals sign. -/
def assignedBodyForm : Form Body := do
  let _ ← Form.token .equals
  bodyForm

/-- A type behind an equals sign, which may be marked to be written out. -/
def assignedTypeForm : Form InlineType := do
  let _ ← Form.token .equals
  inlineTypeForm

/-- The keys of a response tuple.  They are those of a value, the status, and the response that is
referred to. -/
def tupleTable : List (String × Form Setting) := [
  ("status", .status <$> assignedStatusForm),
  ("description", (.value ∘ .description) <$> assignedStringForm),
  ("body", (.value ∘ .body) <$> assignedBodyForm),
  ("content_type", (.value ∘ .contentTypes) <$> contentTypesForm),
  ("headers", (.value ∘ .headers) <$> headersForm),
  ("example", (.value ∘ .sample) <$> exampleValueForm),
  ("examples", (.value ∘ .examples) <$> examplesForm),
  ("content", (.value ∘ .content) <$> contentForm),
  ("response", .reference <$> assignedTypeForm)]

/-- The end of a draft, which must have a status. -/
def draftForm (draft : TupleDraft) : Form ResponseDescriptor := do
  let _ ← Form.token .closeParen
  fun tokens descriptor => tokens = [] ∧ draft.status.isSome = true ∧ descriptor = draft.descriptor

/-- A response tuple.  It is written between parentheses, its keys are applied to an empty draft,
and its status must be set. -/
def tupleForm : Form ResponseDescriptor := do
  let _ ← Form.token .openParen
  let draft ← keysForm tupleTable Setting.onDraft .empty
  draftForm draft

/-- An attribute.  Its keys are applied to an attribute that says nothing. -/
def detailsForm : Form Details := keysForm detailTable ValueSetting.onDetails .empty

/-- An attribute that gives the status.  Its keys must set the status. -/
def statusDetailsForm : Form StatusDetails := fun tokens value =>
  keysForm statusDetailTable Setting.onStatusDetails (none, .empty) tokens
    (some value.status, value.details)

/-! ### Keys that exclude each other

The draft that is mixed at the end was mixed at some first setting.  Up to there the settings are
made, and this one is refused, at the place of its key. -/

/-- A draft with a reference and a value.  Reading never gets to one, but the settings of a list may
make one if nothing is refused. -/
def TupleDraft.Mixed (draft : TupleDraft) : Prop :=
  draft.reference.isSome = true ∧ draft.value.isSome = true

instance (draft : TupleDraft) : Decidable draft.Mixed :=
  inferInstanceAs (Decidable (draft.reference.isSome = true ∧ draft.value.isSome = true))

namespace Setting

variable {here : Location} {setting : Setting} {draft : TupleDraft}

/-- A setting is made unless it mixes a reference with a value. -/
theorem onDraft_of_not_mixed (apart : ¬ (draft.make setting).Mixed) :
    setting.onDraft here draft = some (draft.make setting) := by
  cases setting with
  | status text => rfl
  | value setting =>
    have noReference : ¬ draft.reference.isSome = true := fun refers => apart ⟨refers, rfl⟩
    exact if_neg noReference
  | reference type =>
    have noValue : ¬ draft.value.isSome = true := fun described => apart ⟨rfl, described⟩
    exact if_neg noValue

/-- A setting that mixes a reference with a value is refused. -/
theorem onDraft_of_mixed (apart : ¬ draft.Mixed) (mixed : (draft.make setting).Mixed) :
    setting.onDraft here draft = none := by
  cases setting with
  | status text => exact absurd mixed apart
  | value setting => exact if_pos mixed.1
  | reference type => exact if_pos mixed.2

/-- What is there stays there. -/
theorem mixed_make (mixed : draft.Mixed) : (draft.make setting).Mixed := by
  cases setting with
  | status text => exact mixed
  | value setting => exact ⟨mixed.1, rfl⟩
  | reference type => exact ⟨rfl, mixed.2⟩

end Setting

namespace TupleDraft

private theorem mixed_foldl {draft : TupleDraft} (mixed : draft.Mixed) (settings : List Setting) :
    (settings.foldl make draft).Mixed := by
  induction settings generalizing draft with
  | nil => exact mixed
  | cons setting settings ih => exact ih (Setting.mixed_make mixed)

/-- Settings that do not mix a reference with a value are made one after the other.  A mix is the
only thing that a setting can be refused for. -/
theorem applyAll_of_not_mixed {placed : List (Location × Setting)} {draft : TupleDraft}
    (apart : ¬ ((placed.map Prod.snd).foldl make draft).Mixed) :
    applyAll Setting.onDraft placed draft = some ((placed.map Prod.snd).foldl make draft) := by
  induction placed generalizing draft with
  | nil => rfl
  | cons entry placed ih =>
    obtain ⟨here, setting⟩ := entry
    -- the draft is mixed at the end if it is mixed behind the first setting
    have firstApart : ¬ (draft.make setting).Mixed := fun mixed =>
      apart (mixed_foldl mixed (placed.map Prod.snd))
    rw [applyAll, Setting.onDraft_of_not_mixed firstApart, Option.bind_some]
    exact ih apart

/-- The first setting that mixes a reference with a value is refused.  It is refused whichever of
the two came first. -/
theorem refusedAt_of_mixed {front back : List (Location × Setting)} {here : Location}
    {setting : Setting} {draft : TupleDraft}
    (apart : ¬ ((front.map Prod.snd).foldl make draft).Mixed)
    (mixed : (((front.map Prod.snd).foldl make draft).make setting).Mixed) :
    RefusedAt Setting.onDraft (front ++ (here, setting) :: back) draft here :=
  .of_applyAll (applyAll_of_not_mixed apart) (Setting.onDraft_of_mixed apart mixed)

end TupleDraft

/-! ### What settings come to

Where nothing refers to another response, a draft is a status and a value.  They are followed
through the settings side by side, as neither has to do with the other. -/

/-- Settings that describe a response refer to none. -/
theorem reference_foldl_make {settings : List Setting} {draft : TupleDraft}
    (describe : ∀ setting ∈ settings, setting.describes = true)
    (noReference : draft.reference = none) :
    (settings.foldl TupleDraft.make draft).reference = none := by
  induction settings generalizing draft with
  | nil => exact noReference
  | cons setting rest ih =>
    obtain ⟨describes, others⟩ := List.forall_mem_cons.mp describe
    cases setting with
    | status text => exact ih others noReference
    | value setting => exact ih others noReference
    | reference type => cases describes

/-- The descriptor of a draft is made of the last status and of all the settings of its value. -/
theorem descriptor_foldl_make {settings : List Setting} {draft : TupleDraft}
    (describe : ∀ setting ∈ settings, setting.describes = true)
    (noReference : draft.reference = none) :
    (settings.foldl TupleDraft.make draft).status =
        (settings.foldl Setting.make (draft.status, draft.value.getD .empty)).1 ∧
      (settings.foldl TupleDraft.make draft).descriptor =
        ⟨(settings.foldl Setting.make (draft.status, draft.value.getD .empty)).1,
          .value (settings.foldl Setting.make (draft.status, draft.value.getD .empty)).2⟩ := by
  induction settings generalizing draft with
  | nil =>
    refine ⟨rfl, ?_⟩
    rw [List.foldl_nil, TupleDraft.descriptor, noReference]
    rfl
  | cons setting rest ih =>
    have others := fun other listed => describe other (List.mem_cons_of_mem setting listed)
    cases setting with
    | status text => exact @ih (draft.make (.status text)) others noReference
    | value setting => exact @ih (draft.make (.value setting)) others noReference
    | reference type => cases describe _ List.mem_cons_self

/-- Settings that give a status and describe a value make the draft of a descriptor.  Since no
setting is a reference, none can be refused, wherever the settings are placed. -/
theorem exists_draft {settings : List Setting} {status : String} {value : ResponseValue}
    (describe : ∀ setting ∈ settings, setting.describes = true)
    (made : settings.foldl Setting.make (none, .empty) = (some status, value)) :
    ∃ draft : TupleDraft,
      (∀ placed, placed.map Prod.snd = settings →
        applyAll Setting.onDraft placed .empty = some draft) ∧
      draft.status.isSome = true ∧ draft.descriptor = ⟨some status, .value value⟩ := by
  obtain ⟨isStatus, isDescriptor⟩ := @descriptor_foldl_make settings .empty describe rfl
  rw [TupleDraft.empty, Option.getD_none, made] at isStatus isDescriptor
  refine ⟨settings.foldl TupleDraft.make .empty, ?_, ?_, isDescriptor⟩
  · rintro placed rfl
    refine TupleDraft.applyAll_of_not_mixed fun mixed => ?_
    rw [TupleDraft.Mixed, reference_foldl_make describe rfl] at mixed
    cases mixed.1
  · rw [TupleDraft.empty, isStatus]
    rfl

namespace Parser.Reads

variable {n : Nat} {follow : TokenKind → Prop}

/-! ### Reading tuples

A key reads its value and applies the setting, so its form is the form of its value followed by the
condition that the setting is not refused.  The body is asked about a reference twice, once before
its value; the second time the answer is the same. -/

/-- A key of a value reads its value first and is refused behind a reference. -/
theorem valueKey {α : Type} {read : Parser α} {form : Form α} (make : α → ValueSetting)
    (reads : Reads n closing read form) (here : Location) (draft : TupleDraft) :
    Reads n closing (Parser.valueKey read (fun value => (make value).change) here draft)
      (entryForm ((.value ∘ make) <$> form) Setting.onDraft here draft) := by
  refine entryBind reads fun value => ?_
  rw [changeValue, Function.comp_apply, Setting.onDraft]
  split
  · exact refuses fun _ _ _ read => by cases read
  · exact gives _

/-- The body is refused behind a reference before it is read. -/
theorem bodyKey (here : Location) (draft : TupleDraft) :
    Reads n closing (Parser.bodyKey here draft)
      (entryForm ((.value ∘ .body) <$> assignedBodyForm) Setting.onDraft here draft) := by
  by_cases refers : draft.reference.isSome = true
  · refine never (fun stream later rest read => ?_) fun tokens later => ?_
    · rw [Parser.bodyKey, changeValue, if_pos refers] at read
      cases read
    · rintro ⟨_, written, applied⟩
      obtain ⟨body, -, rfl⟩ := Form.map_iff.mp written
      rw [Function.comp_apply, Setting.onDraft, if_pos refers] at applied
      cases applied
  · have opened : changeValue here draft id =
        Pure.pure { draft with value := some (draft.value.getD .empty) } := by
      rw [changeValue, if_neg refers]
      rfl
    have body : Reads n closing (do let _ ← expect .equals; Parser.bodyType) assignedBodyForm :=
      bindExpectAs _ (by decide) fun _ _ => bodyType
    rw [Parser.bodyKey, opened, pure_bind]
    simp only [← bind_assoc]
    refine entryBind body fun said => ?_
    rw [changeValue, if_neg refers, Function.comp_apply, Setting.onDraft, if_neg refers]
    exact gives _

/-- A reference is refused behind the value of a response. -/
theorem referenceKey (here : Location) (draft : TupleDraft) :
    Reads n closing (Parser.referenceKey here draft)
      (entryForm (.reference <$> assignedTypeForm) Setting.onDraft here draft) := by
  have type : Reads n closing (do let _ ← expect .equals; Parser.inlineType) assignedTypeForm :=
    bindExpectAs _ (by decide) fun _ _ => inlineType
  rw [Parser.referenceKey]
  simp only [← bind_assoc]
  refine entryBind type fun target => ?_
  rw [Setting.onDraft]
  split
  · exact refuses fun _ _ _ read => by cases read
  · exact gives _

/-- Every key of a tuple reads the values that the table has for it, and refuses them as its setting
does. -/
theorem tupleKeys : HandlersRead n Parser.tupleKeys tupleTable Setting.onDraft := by
  refine .cons ⟨rfl, fun _ _ => ?_⟩ (.cons ⟨rfl, fun _ _ => ?_⟩ (.cons ⟨rfl, fun _ _ => ?_⟩
    (.cons ⟨rfl, fun _ _ => ?_⟩ (.cons ⟨rfl, fun _ _ => ?_⟩ (.cons ⟨rfl, fun _ _ => ?_⟩
    (.cons ⟨rfl, fun _ _ => ?_⟩ (.cons ⟨rfl, fun _ _ => ?_⟩ (.cons ⟨rfl, fun _ _ => ?_⟩ .nil))))))))
  · exact entry assignedStatus fun _ => rfl
  · exact valueKey .description assignedString _ _
  · exact bodyKey _ _
  · exact valueKey .contentTypes contentTypes _ _
  · exact valueKey .headers headers _ _
  · exact valueKey .sample exampleValue _ _
  · exact valueKey .examples examples _ _
  · exact valueKey .content content _ _
  · exact referenceKey _ _

/-- The end of a tuple of which the keys are read. -/
theorem draft (opening : Token) (draft : TupleDraft) :
    Reads n follow
      (do
        if draft.status.isNone then failAt opening .statusMissing
        let _ ← expect .closeParen
        return draft.descriptor)
      (draftForm draft) := by
  by_cases missing : draft.status.isNone = true
  · rw [if_pos missing, failAt_bind]
    refine never (failAt_ne_ok _ _) fun tokens descriptor written => ?_
    obtain ⟨mark, back, -, -, -, there, -⟩ := Form.token_bind_iff.mp written
    rw [← Option.not_isNone, missing] at there
    cases there
  · rw [if_neg missing]
    refine bindExpectAs _ (by decide) fun _ _ => (pure draft.descriptor).congr ?_
    intro tokens descriptor
    have there := Option.isNone_eq_false_iff.mp (Bool.eq_false_iff.mpr missing)
    simp only [there, true_and]
    rfl

/-- A response tuple is read, in front of anything that does not continue a type. -/
theorem responseTuple : Reads n closing Parser.responseTuple tupleForm := by
  refine bindExpectAs _ (by decide) fun opening _ => ?_
  exact (keyedInParens tupleKeys _).bind (draft opening) fun _ => .token_bind _ rfl

/-! ### Reading attributes

An attribute ends where its text ends, not at a parenthesis. -/

private theorem detailKeys :
    HandlersRead n Parser.detailKeys detailTable ValueSetting.onDetails := by
  refine .cons ⟨rfl, fun _ _ => ?_⟩ (.cons ⟨rfl, fun _ _ => ?_⟩ (.cons ⟨rfl, fun _ _ => ?_⟩
    (.cons ⟨rfl, fun _ _ => ?_⟩ (.cons ⟨rfl, fun _ _ => ?_⟩ .nil))))
  · exact entry assignedString fun _ => rfl
  · exact entry contentTypes fun _ => rfl
  · exact entry headers fun _ => rfl
  · exact entry exampleValue fun _ => rfl
  · exact entry examples fun _ => rfl

/-- A key that sets a part of a state. -/
theorem onPart {handler : KeyHandler Details} {form : Form ValueSetting} {here : Location}
    {state : Option String × Details}
    (reads : Reads n closing (handler here state.2)
      (entryForm form ValueSetting.onDetails here state.2)) :
    Reads n closing
      (handler.onPart (·.2) (fun details state => (state.1, details)) here state)
      (entryForm (.value <$> form) Setting.onStatusDetails here state) := by
  refine (reads.bindPure fun details => (state.1, details)).congr fun tokens later => ?_
  constructor
  · rintro ⟨front, _, details, rfl, ⟨setting, written, applied⟩, rfl, rfl⟩
    rw [List.append_nil]
    refine ⟨.value setting, Form.map_iff.mpr ⟨setting, written, rfl⟩, ?_⟩
    rw [Setting.onStatusDetails, applied]
    rfl
  · rintro ⟨_, written, applied⟩
    obtain ⟨setting, inner, rfl⟩ := Form.map_iff.mp written
    obtain ⟨details, done, rfl⟩ := Option.map_eq_some_iff.mp applied
    exact ⟨tokens, [], details, (List.append_nil _).symm, ⟨setting, inner, done⟩, rfl, rfl⟩

private theorem statusDetailKeys :
    HandlersRead n Parser.statusDetailKeys statusDetailTable Setting.onStatusDetails := by
  refine .cons ⟨rfl, fun _ _ => entry assignedStatus fun _ => rfl⟩ ?_
  refine List.forall₂_map_left_iff.mpr (List.forall₂_map_right_iff.mpr ?_)
  exact List.Forall₂.imp (fun _ _ reads => ⟨reads.1, fun _ _ => onPart (reads.2 _ _)⟩) detailKeys

/-- What an attribute says is read up to the end of its text.  The end of the text closes its list
of keys, as a parenthesis closes that of a tuple. -/
theorem details : Reads n (· = .endOfInput) Parser.details detailsForm :=
  keyed detailKeys (rfl : closing .endOfInput) (by decide) .empty

/-- So is what an attribute says that also gives the status.  Without a status it is refused. -/
theorem statusDetails : Reads n (· = .endOfInput) Parser.statusDetails statusDetailsForm := by
  have keys : Reads n (· = .endOfInput) (Parser.keyed .endOfInput Parser.statusDetailKeys
      (none, .empty)) (keysForm statusDetailTable Setting.onStatusDetails (none, .empty)) :=
    keyed statusDetailKeys (rfl : closing .endOfInput) (by decide) _
  constructor
  · intro stream value rest read
    rw [Parser.statusDetails, bind_of_ok (peek_apply _)] at read
    obtain ⟨⟨status, details⟩, _, keysRead, statusRead⟩ := bind_eq_ok.mp read
    obtain ⟨tokens, rfl, written⟩ := keys.sound _ _ _ keysRead
    cases status with
    | none => cases statusRead
    | some status =>
      cases statusRead
      exact ⟨tokens, rfl, written⟩
  · intro tokens value rest short written atEnd
    rw [Parser.statusDetails, bind_of_ok (peek_apply _),
      bind_of_ok (keys.complete tokens _ rest short written atEnd)]
    rfl

end Parser.Reads

/-! ### Reading texts

A whole text is read if it can be cut into tokens that are of the form.  These are the statements by
which everything else gets from texts to tokens. -/

section Texts

open OpenResponse.Parser

variable {origin : Location} {text : String}

/-- What is read off a text that is a response tuple.  Its tokens are those of a tuple with the
descriptor, and nothing is left behind them. -/
theorem readResponseTuple_eq_ok {descriptor : ResponseDescriptor} :
    readResponseTuple origin text = .ok descriptor ↔
      ∃ tokens, scan origin text.toList = .ok tokens ∧ tupleForm tokens descriptor :=
  Reads.runOnAll_iff (fun _ => Reads.responseTuple) rfl

/-- What is read off the text of an attribute.  Its tokens are those of an attribute, whatever
layout the text has. -/
theorem readDetails_eq_ok {details : Details} :
    readDetails origin text = .ok details ↔
      ∃ tokens, scan origin text.toList = .ok tokens ∧ detailsForm tokens details :=
  Reads.runOn_iff (fun _ => Reads.details) rfl fun _ _ _ read =>
    Reads.front_of_keyed (n := 0) Reads.detailKeys read

/-- What is read off the text of an attribute that gives the status.  Its tokens are those of an
attribute whose keys set the status. -/
theorem readStatusDetails_eq_ok {details : StatusDetails} :
    readStatusDetails origin text = .ok details ↔
      ∃ tokens, scan origin text.toList = .ok tokens ∧ statusDetailsForm tokens details := by
  refine Reads.runOn_iff (fun _ => Reads.statusDetails) rfl fun stream value rest read => ?_
  rw [Parser.statusDetails, bind_of_ok (peek_apply _)] at read
  obtain ⟨⟨status, details⟩, _, keysRead, statusRead⟩ := bind_eq_ok.mp read
  have stops := Reads.front_of_keyed (n := 0) Reads.statusDetailKeys keysRead
  cases status with
  | none => cases statusRead
  | some status =>
    cases statusRead
    exact stops

/-- What is read off a text that is a type. -/
theorem readTypeRef_eq_ok {type : TypeRef} :
    readTypeRef origin text = .ok type ↔
      ∃ tokens, scan origin text.toList = .ok tokens ∧ typeForm tokens type :=
  Reads.runOnAll_iff (fun _ => Reads.typeRef) rfl

end Texts

end OpenResponse
