import OpenResponse.Proofs.Declaration.Agreement
import OpenResponse.Proofs.Response.Entries
import OpenResponse.Proofs.TypeRef.Reading
import OpenResponse.Source.Extraction

/-!
# References beside keys of a value

A response that refers to another one has nothing to say for itself.  It is written as a response
tuple with a reference, or as a tuple struct whose field is marked as one, and in both ways a
description, a content type, headers or examples may stand beside it by mistake.

The tuple is refused at the first such key, whatever the key says.  The declaration is judged by
what all keys say together: content types and examples are noticed even when there are none in the
list, but a description or headers only if the last of them is not empty.  So an empty description
beside a reference is a conflict in the tuple and is ignored in the declaration.

What an attribute says is not computed a second time here: its keys are settings of the same
response that the keys of a tuple set, and `lastValues` tells what comes of those.

Both sides are computed from one list of entries.  For the tuple the law of entries tells what is
read.  For the declaration the entries are keys of an attribute, whose settings are the same, so the
response that the attribute describes has the last values of the keys; and whether something is
noticed beside the reference is asked of these values.

## Main definitions

* `attributeKeys` — the keys of a value that an attribute knows
* `SayValue` — keys that are noticed beside the reference of a declaration
* `Attribute.Gives`, `Declaration.RefersTo` — tuple structs that list a reference

## Main statements

* `Attribute.Gives.exists_read` — what is read of an attribute that gives entries
* `Declaration.RefersTo.responses_eq` — the reference that a declaration lists, or the conflict
* `reference_besideKeys` — **which keys are refused beside a reference**

## Hypotheses

The entries stand in two texts, so they are two lists with the same symbols: `keys` in the tuple and
`said` in the attribute of the declaration.  They are keys that an attribute knows.  The two others,
a body and content, cannot be written in an attribute at all.

In the tuple the keys stand behind the status and the reference, so that the first of them is where
the conflict is found.  `RefersTo` asks for a single response attribute, in which all keys are
written.
-/

namespace OpenResponse

/-- The keys of a value that an attribute knows.  The status is not among them, as not every
attribute has one. -/
def attributeKeys : List String := ["description", "content_type", "headers", "example", "examples"]

/-- Keys that say something of a value together: a key for content types or for examples, whatever
its value, or a description or headers of which the last are not empty. -/
def SayValue (keys : List TupleEntry) : Prop :=
  (lastValues (keys.map TupleEntry.setting)).description ≠ "" ∨
    (lastValues (keys.map TupleEntry.setting)).headers ≠ [] ∨
    ∃ key ∈ keys, key.name ∈ ["content_type", "example", "examples"]

/-- An attribute whose arguments are entries with commas between them.  The tokens are those of the
text itself, so that the condition is about what is written and not about what is read. -/
def Attribute.Gives (attr : Attribute) (entries : List TupleEntry) : Prop :=
  ∃ tokens, scan attr.location attr.arguments.toList = .ok tokens ∧
    CommaList (fun tokens entry => tokens = entry.tokens) tokens entries

/-- The attributes of a field that is a reference, which may be marked to be written out.  Where it
is marked as both, it is not. -/
inductive MarksReference (attributes : List Attribute) : Bool → Prop
  | plain (marked : hasAttribute attributes "ref_response" = true) : MarksReference attributes false
  | writtenOut (marked : hasAttribute attributes "to_response" = true)
      (alone : hasAttribute attributes "ref_response" = false) : MarksReference attributes true

/-- A tuple struct whose only field is a reference, with one response attribute that gives entries.
-/
structure Declaration.RefersTo (declaration : Declaration) (reference : InlineType)
    (entries : List TupleEntry) : Prop where
  kind : declaration.kind = .struct
  isTuple : declaration.isTuple = true
  marked : ∃ field, declaration.fields = [field] ∧ field.type = .ok reference.type ∧
    MarksReference field.attributes reference.isInline
  gives : ∃ attr, declaration.attributes.filter (·.name == "response") = [attr] ∧
    attr.Gives entries

/-! ### Keys of tuples in attributes

What the parser of a key accepts in a tuple is accepted in an attribute. -/

/-- What a key of a tuple allows it allows in an attribute that knows it. -/
theorem keyForm_statusDetailTable {key : String} {tokens : List Token} {setting : Setting}
    (written : keyForm tupleTable key tokens setting) (known : key ∈ "status" :: attributeKeys) :
    keyForm statusDetailTable key tokens setting := by
  obtain ⟨form, found, allowed⟩ := written
  simp only [attributeKeys, List.mem_cons, List.not_mem_nil, or_false] at known
  rcases known with rfl | rfl | rfl | rfl | rfl | rfl
  · cases found
    exact ⟨_, rfl, allowed⟩
  all_goals
    cases found
    obtain ⟨value, inner, rfl⟩ := Form.map_iff.mp allowed
    exact ⟨_, rfl, Form.map_iff.mpr ⟨_, Form.map_iff.mpr ⟨value, inner, rfl⟩, rfl⟩⟩

/-- A setting of a key that an attribute knows is made in what the attribute says. -/
theorem Setting.exists_onStatusDetails {setting : Setting}
    (known : setting.key ∈ "status" :: attributeKeys) (here : Location)
    (state : Option String × Details) :
    ∃ later, setting.onStatusDetails here state = some later := by
  cases setting with
  | status text => exact ⟨_, rfl⟩
  | reference type =>
    have unknown : "response" ∉ "status" :: attributeKeys := by decide
    exact absurd known unknown
  | value setting =>
    cases setting with
    | body said =>
      have unknown : "body" ∉ "status" :: attributeKeys := by decide
      exact absurd known unknown
    | content variants =>
      have unknown : "content" ∉ "status" :: attributeKeys := by decide
      exact absurd known unknown
    | description text => exact ⟨_, rfl⟩
    | contentTypes types => exact ⟨_, rfl⟩
    | headers list => exact ⟨_, rfl⟩
    | sample shown => exact ⟨_, rfl⟩
    | examples list => exact ⟨_, rfl⟩

section Entries

variable {entries : List TupleEntry}

/-- Entries with keys that an attribute knows are keys of an attribute. -/
theorem keyList_attribute {tokens : List Token}
    (list : CommaList (fun tokens entry => tokens = entry.tokens) tokens entries)
    (known : ∀ entry ∈ entries, entry.name ∈ "status" :: attributeKeys) :
    KeyList (keyForm statusDetailTable) tokens (entries.map TupleEntry.placed) := by
  induction list with
  | nil => exact .nil
  | @last _ entry same =>
    subst same
    exact .last entry.isKey
      (keyForm_statusDetailTable entry.written (known entry List.mem_cons_self))
  | @cons _ more comma entry entries same isComma _ ih =>
    subst same
    obtain ⟨knownHere, others⟩ := List.forall_mem_cons.mp known
    exact .cons entry.isKey (keyForm_statusDetailTable entry.written knownHere) isComma (ih others)

/-- They are all applied. -/
theorem exists_applyAll_attribute
    (known : ∀ entry ∈ entries, entry.name ∈ "status" :: attributeKeys)
    (state : Option String × Details) :
    ∃ later, applyAll Setting.onStatusDetails (entries.map TupleEntry.placed) state =
      some later := by
  induction entries generalizing state with
  | nil => exact ⟨state, rfl⟩
  | cons entry entries ih =>
    obtain ⟨knownHere, others⟩ := List.forall_mem_cons.mp known
    rw [← entry.key_setting] at knownHere
    obtain ⟨middle, first⟩ := Setting.exists_onStatusDetails knownHere entry.key.location state
    obtain ⟨later, rest⟩ := ih others middle
    exact ⟨later, Option.bind_eq_some_iff.mpr ⟨middle, first, rest⟩⟩

/-- Settings that refer to nothing make the last status and the last values. -/
theorem foldl_make_eq_last {settings : List Setting}
    (describe : ∀ setting ∈ settings, setting.describes = true) :
    settings.foldl Setting.make (none, .empty) =
      (lastOf Setting.status? settings, lastValues settings) := by
  have same := (descriptor_foldl settings).symm.trans
    (@descriptor_foldl_make settings .empty describe rfl).2
  rw [describedBy] at same
  obtain ⟨sameStatus, sameResponse⟩ := ResponseDescriptor.mk.inj same
  cases refers : lastOf Setting.reference? settings with
  | some type =>
    rw [refers] at sameResponse
    cases sameResponse
  | none =>
    rw [refers] at sameResponse
    exact (Prod.ext sameStatus (Response.value.inj sameResponse)).symm

/-- What is read of an attribute that gives entries: the last status, and what says the same of a
response as the last values. -/
theorem Attribute.Gives.exists_read {attr : Attribute} (gives : attr.Gives entries)
    (known : ∀ entry ∈ entries, entry.name ∈ "status" :: attributeKeys) {status : String}
    (isStatus : lastOf Setting.status? (entries.map TupleEntry.setting) = some status) :
    ∃ details, readStatusDetails attr.location attr.arguments = .ok ⟨status, details⟩ ∧
      details.responseValue "" none [] = lastValues (entries.map TupleEntry.setting) := by
  obtain ⟨tokens, scanned, list⟩ := gives
  obtain ⟨later, applied⟩ := exists_applyAll_attribute known (none, .empty)
  obtain ⟨describe, made⟩ := foldl_make_of_onStatusDetails applied none
  rw [map_snd_placed] at describe made
  obtain ⟨given, said⟩ := Prod.mk.inj ((foldl_make_eq_last describe).symm.trans made)
  have whole : later = (some status, later.2) := Prod.ext (given.symm.trans isStatus) rfl
  rw [whole] at applied
  exact ⟨later.2, readStatusDetails_eq_ok.mpr
    ⟨tokens, scanned, _, keyList_attribute list known, applied⟩, said.symm⟩

/-! ### What is noticed beside a reference

Two of the parts are noticed by being there and two by not being empty. -/

/-- Something is picked from the last of the settings if one of them is of the key of such settings.
-/
theorem isSome_lastOf {α : Type} {pick : Setting → Option α} {key : String}
    (picks : ∀ setting, (pick setting).isSome = true ↔ setting.key = key) :
    (lastOf pick (entries.map TupleEntry.setting)).isSome = true ↔
      ∃ entry ∈ entries, entry.name = key := by
  rw [lastOf, List.getLast?_isSome, ne_eq, List.filterMap_eq_nil_iff, List.forall_mem_map]
  push Not
  simp only [← Option.isSome_iff_ne_none, picks, TupleEntry.key_setting]

/-- Details that say the last values of keys describe a value if the keys say one. -/
theorem describesValue_iff {details : Details} {keys : List TupleEntry}
    (same : details.responseValue "" none [] = lastValues (keys.map TupleEntry.setting)) :
    details.describesValue = true ↔ SayValue keys := by
  have description : details.description =
      (lastValues (keys.map TupleEntry.setting)).description := by
    rw [← same, Details.responseValue, ite_isEmpty]
  have headers : details.headers = (lastValues (keys.map TupleEntry.setting)).headers :=
    congrArg ResponseValue.headers same
  have types : details.contentTypes.isSome = true ↔
      ∃ key ∈ keys, key.name = "content_type" := by
    rw [show details.contentTypes = _ from congrArg ResponseValue.contentTypes same]
    exact isSome_lastOf (by rintro (_ | ⟨⟨⟩⟩ | _) <;> simp [Setting.key, ValueSetting.key])
  have sample : details.sample.isSome = true ↔ ∃ key ∈ keys, key.name = "example" := by
    rw [show details.sample = _ from congrArg ResponseValue.sample same]
    exact isSome_lastOf (by rintro (_ | ⟨⟨⟩⟩ | _) <;> simp [Setting.key, ValueSetting.key])
  have examples : details.examples.isSome = true ↔ ∃ key ∈ keys, key.name = "examples" := by
    rw [show details.examples = _ from congrArg ResponseValue.examples same]
    exact isSome_lastOf (by rintro (_ | ⟨⟨⟩⟩ | _) <;> simp [Setting.key, ValueSetting.key])
  rw [Details.describesValue, SayValue, ← description, ← headers]
  simp only [Bool.or_eq_true, Bool.not_eq_true', types, sample, examples,
    String.isEmpty_eq_false_iff, List.isEmpty_eq_false_iff, List.mem_cons, List.not_mem_nil,
    or_false, and_or_left, exists_or, or_assoc]

end Entries

/-! ### Declarations that list a reference

A tuple struct with a marked field lists the reference or fails at the place of the declaration. -/

/-- Without keys nothing is said. -/
theorem not_sayValue_nil : ¬ SayValue [] := by
  rintro (description | headers | ⟨key, listed, -⟩)
  · exact description rfl
  · exact headers rfl
  · cases listed

section References

variable {status reference : TupleEntry} {code : String} {type : InlineType}
  {keys : List TupleEntry}

/-- The status in front of keys of a value is the last status. -/
theorem lastOf_status (isStatus : status.setting = .status code)
    (known : ∀ key ∈ keys, key.name ∈ attributeKeys) :
    lastOf Setting.status? ((status :: keys).map TupleEntry.setting) = some code := by
  have others : (keys.map TupleEntry.setting).filterMap Setting.status? = [] := by
    rw [List.filterMap_eq_nil_iff, List.forall_mem_map]
    intro key listed
    have isKey := known key listed
    rw [← key.key_setting] at isKey
    cases isSetting : key.setting with
    | value setting => rfl
    | reference type => rfl
    | status text =>
      rw [isSetting] at isKey
      have unknown : "status" ∉ attributeKeys := by decide
      exact absurd isKey unknown
  have first : Setting.status? (.status code) = some code := rfl
  rw [lastOf, List.map_cons, isStatus, List.filterMap_cons_some first, others]
  rfl

/-- A status does not change the values. -/
theorem lastValues_status (isStatus : status.setting = .status code) :
    lastValues ((status :: keys).map TupleEntry.setting) =
      lastValues (keys.map TupleEntry.setting) := by
  rw [List.map_cons, isStatus]
  rfl

/-- A field that is marked as a reference stands for one. -/
theorem MarksReference.responseBody {field : Field} {isInline : Bool}
    (marks : MarksReference field.attributes isInline) {type : TypeRef}
    (typed : field.type = .ok type) : field.responseBody = .ok (.inl ⟨type, isInline⟩) := by
  cases marks with
  | plain marked =>
    rw [Field.responseBody, if_pos marked, typed]
    rfl
  | writtenOut marked alone =>
    rw [Field.responseBody, if_neg (Bool.eq_false_iff.mp alone), if_pos marked, typed]
    rfl

/-- The only response of a declaration that lists a reference.  It is the reference alone, or the
fault, and it is the details that decide: not whether there are keys, but whether they say anything.
-/
theorem Declaration.RefersTo.responses_eq {declaration : Declaration} {entries : List TupleEntry}
    (refers : declaration.RefersTo type entries)
    (known : ∀ entry ∈ entries, entry.name ∈ "status" :: attributeKeys)
    (isStatus : lastOf Setting.status? (entries.map TupleEntry.setting) = some code) :
    ∃ details : Details,
      details.responseValue "" none [] = lastValues (entries.map TupleEntry.setting) ∧
      declaration.responses =
        if details.describesValue then .error (.found declaration.location .referenceWithValue)
        else .ok [⟨some code, .reference type⟩] := by
  obtain ⟨field, onlyField, typed, marks⟩ := refers.marked
  obtain ⟨attr, onlyAttr, gives⟩ := refers.gives
  obtain ⟨details, read, same⟩ := gives.exists_read known isStatus
  refine ⟨details, same, ?_⟩
  have shape : declaration.shape = .ok (.newtype type.type field.attributes) := by
    rw [Declaration.shape, refers.kind, onlyField]
    dsimp only
    rw [if_pos refers.isTuple, typed]
    rfl
  have merged : requiredStatus declaration.attributes declaration.location =
      .ok ⟨code, details⟩ := by
    rw [requiredStatus, mergedStatusDetails, foldAttributes, onlyAttr, List.mapM_cons, read]
    rfl
  rw [Declaration.responses, shape]
  show (do
    let value ← requiredStatus declaration.attributes declaration.location
    let contents ← declaration.fields.head?.mapM Field.responseBody
    return [← statusResponse value declaration.description contents declaration.location]) = _
  rw [merged, onlyField, List.head?_cons, Option.mapM_some, marks.responseBody typed]
  show (do return [← statusResponse ⟨code, details⟩ declaration.description (some (.inl type))
    declaration.location]) = _
  rw [statusResponse]
  split <;> rfl

/-- What comes of a reference beside keys of a value, in a tuple and in a declaration. -/
structure BesideReference (origin : Location) (text : String) (declaration : Declaration)
    (described : ResponseDescriptor) (keys : List TupleEntry) : Prop where
  /-- A tuple without such keys is read. -/
  tuple_alone : keys = [] → readResponseTuple origin text = .ok described
  /-- A tuple with such keys is refused at the first of them. -/
  tuple_refused : ∀ first rest, keys = first :: rest →
    readResponseTuple origin text = .error (.found first.key.location .referenceWithValue)
  /-- A declaration with keys that say nothing is read. -/
  declaration_silent : ¬ SayValue keys → declaration.responses = .ok [described]
  /-- A declaration with keys that say something of a value is refused. -/
  declaration_refused : SayValue keys →
    declaration.responses = .error (.found declaration.location .referenceWithValue)
  /-- Both come to the same unless there are keys which say nothing. -/
  agree_iff : declaration.responses.mapError Fault.cause =
      ((readResponseTuple origin text).map ([·])).mapError Fault.cause ↔
    keys = [] ∨ SayValue keys

/-- A status and a reference are not mixed with a value. -/
theorem not_mixes_reference (isStatus : status.setting = .status code)
    (isReference : reference.setting = .reference type) : ¬ Mixes [status, reference] := by
  have statusName : status.name = "status" := by rw [← status.key_setting, isStatus]; rfl
  have referenceName : reference.name = "response" := by
    rw [← reference.key_setting, isReference]
    rfl
  rintro ⟨-, valued⟩
  simp only [List.mem_cons, List.not_mem_nil, or_false, exists_eq_or_imp, exists_eq_left,
    statusName, referenceName] at valued
  have noValues : ¬ ("status" ∈ valueKeys ∨ "response" ∈ valueKeys) := by decide
  exact noValues valued

/-- With a key of a value they are. -/
theorem mixes_reference (isReference : reference.setting = .reference type) {key : TupleEntry}
    (known : key.name ∈ attributeKeys) : Mixes ([status, reference] ++ [key]) := by
  have subset : attributeKeys ⊆ valueKeys := by decide
  refine ⟨⟨reference, by simp, ?_⟩, key, by simp, subset known⟩
  rw [← reference.key_setting, isReference]
  rfl

/-- What entries have in common with others that are written alike. -/
theorem map_eq_of_symbols {α : Type} {measure : TupleEntry → α} {entries others : List TupleEntry}
    (determined : ∀ entry other, entry.symbols = other.symbols → measure entry = measure other)
    (alike : entries.map TupleEntry.symbols = others.map TupleEntry.symbols) :
    entries.map measure = others.map measure := by
  have symbols : List.Forall₂ (· = ·) (entries.map TupleEntry.symbols)
      (others.map TupleEntry.symbols) := by
    rw [List.forall₂_eq_eq_eq]
    exact alike
  have measured := (List.forall₂_map_right_iff.mp (List.forall₂_map_left_iff.mp symbols)).imp
    determined
  rw [← List.forall₂_eq_eq_eq]
  exact List.forall₂_map_left_iff.mpr (List.forall₂_map_right_iff.mpr measured)

/-- A status and a reference alone are read from a tuple. -/
theorem TupleText.read_reference {origin opening : Location} {text : String}
    (isStatus : status.setting = .status code) (isReference : reference.setting = .reference type)
    (written : TupleText origin text opening [status, reference]) :
    readResponseTuple origin text = .ok ⟨some code, .reference type⟩ := by
  have made : ([status, reference].map TupleEntry.setting).foldl TupleDraft.make .empty =
      ⟨some code, none, some type⟩ := by
    rw [List.map_cons, isStatus, List.map_cons, isReference]
    rfl
  have applied := TupleText.applyAll_placed (not_mixes_reference isStatus isReference)
  rw [made] at applied
  exact written.read_described applied rfl

/-- A key of a value behind them is a conflict. -/
theorem TupleText.read_reference_besideKey {origin opening : Location} {text : String}
    {key : TupleEntry} (isStatus : status.setting = .status code)
    (isReference : reference.setting = .reference type) (known : key.name ∈ attributeKeys)
    (written : TupleText origin text opening (status :: reference :: key :: keys)) :
    readResponseTuple origin text = .error (.found key.key.location .referenceWithValue) := by
  have mixed : Mixes ([status, reference] ++ [key]) := mixes_reference isReference known
  exact TupleText.read_conflict written (not_mixes_reference isStatus isReference) mixed

section Alike

variable {declaration : Declaration} {said : List TupleEntry}

/-- Entries that are written like a status and keys of a value are keys of an attribute. -/
theorem known_of_alike (isStatus : status.setting = .status code)
    (known : ∀ key ∈ keys, key.name ∈ attributeKeys)
    (alike : said.map TupleEntry.symbols = (status :: keys).map TupleEntry.symbols) :
    ∀ entry ∈ said, entry.name ∈ "status" :: attributeKeys := by
  have names : said.map TupleEntry.name = (status :: keys).map TupleEntry.name :=
    map_eq_of_symbols (fun _ _ same => congrArg Symbol.value (List.cons.inj same).1) alike
  rw [← List.forall_mem_map (P := (· ∈ "status" :: attributeKeys)), names, List.forall_mem_map]
  have others : ∀ key ∈ keys, key.name ∈ "status" :: attributeKeys :=
    fun key listed => List.mem_cons_of_mem _ (known key listed)
  refine List.forall_mem_cons.mpr ⟨?_, others⟩
  rw [← status.key_setting, isStatus]
  exact List.mem_cons_self

/-- A declaration lists the reference beside keys that say nothing of a value, and is a conflict
beside keys that do. -/
theorem Declaration.RefersTo.responses_besideKeys (refers : declaration.RefersTo type said)
    (isStatus : status.setting = .status code) (known : ∀ key ∈ keys, key.name ∈ attributeKeys)
    (alike : said.map TupleEntry.symbols = (status :: keys).map TupleEntry.symbols) :
    (¬ SayValue keys → declaration.responses = .ok [⟨some code, .reference type⟩]) ∧
      (SayValue keys →
        declaration.responses = .error (.found declaration.location .referenceWithValue)) := by
  have settings : said.map TupleEntry.setting = (status :: keys).map TupleEntry.setting :=
    map_eq_of_symbols (fun _ _ => TupleEntry.setting_eq) alike
  have lastStatus : lastOf Setting.status? (said.map TupleEntry.setting) = some code := by
    rw [settings, lastOf_status isStatus known]
  obtain ⟨details, same, responses⟩ :=
    refers.responses_eq (known_of_alike isStatus known alike) lastStatus
  -- the attribute says what the keys of the tuple say
  rw [settings, lastValues_status isStatus] at same
  have describes := describesValue_iff same
  constructor
  · intro nothing
    rw [responses, if_neg fun describe => nothing (describes.mp describe)]
  · intro say
    rw [responses, if_pos (describes.mpr say)]

end Alike

/-- **A reference beside keys of a value.**  A status, a reference and such keys are written as a
tuple, and as a tuple struct whose attribute has the status and the keys.  Without a key both are
the reference.  With keys the tuple is a conflict at the first of them; the declaration is one if
the keys say something, and the same reference as without them otherwise. -/
theorem reference_besideKeys {origin opening : Location} {text : String} {declaration : Declaration}
    {said : List TupleEntry} (isStatus : status.setting = .status code)
    (isReference : reference.setting = .reference type)
    (known : ∀ key ∈ keys, key.name ∈ attributeKeys)
    (written : TupleText origin text opening (status :: reference :: keys))
    (refers : declaration.RefersTo type said)
    (alike : said.map TupleEntry.symbols = (status :: keys).map TupleEntry.symbols) :
    BesideReference origin text declaration ⟨some code, .reference type⟩ keys := by
  obtain ⟨silent, refused⟩ := refers.responses_besideKeys isStatus known alike
  have alone (none : keys = []) :
      readResponseTuple origin text = .ok ⟨some code, .reference type⟩ := by
    subst none
    exact written.read_reference isStatus isReference
  have first (key : TupleEntry) (rest : List TupleEntry) (isFirst : keys = key :: rest) :
      readResponseTuple origin text = .error (.found key.key.location .referenceWithValue) := by
    subst isFirst
    exact written.read_reference_besideKey isStatus isReference (known key List.mem_cons_self)
  refine ⟨alone, first, silent, refused, ?_⟩
  -- if the keys say something both are refused, each in its way
  by_cases say : SayValue keys
  · refine iff_of_true ?_ (.inr say)
    cases keys with
    | nil => exact absurd say not_sayValue_nil
    | cons key rest =>
      rw [refused say, first key rest rfl]
      rfl
  · rw [silent say]
    cases keys with
    | nil =>
      rw [alone rfl]
      exact iff_of_true rfl (.inl rfl)
    | cons key rest =>
      rw [first key rest rfl]
      refine iff_of_false ?_ ?_
      · rintro ⟨⟩
      · rintro (none | also)
        · cases none
        · exact say also

end References

/-- A status behind an equals sign is accepted in full. -/
theorem Parser.assignedStatus_written {status : String} (isStatus : IsStatus status)
    {tokens : List Token}
    (written : tokens.map Token.symbol = [.mark '=', statusSymbol status]) (finish : Location) :
    assignedStatus ⟨tokens, finish⟩ = .ok status ⟨[], finish⟩ := by
  have assigned : assignedStatusForm.Writes _ _ := .markBind (c := '=') rfl (writes_status isStatus)
  have read := Reads.assignedStatus.complete tokens status ⟨[], finish⟩ (Nat.le_refl _)
    (assigned.allowed tokens written) rfl
  rw [TokenStream.preceded, List.append_nil] at read
  exact read

/-- A reference to a type that is written out, beside an empty description and a content type. -/
theorem reference_besideKeys_inline :
    let text := "(status = 200, response = inline(User), description = \"\", " ++
      "content_type = \"text/csv\")"
    let source := "#[derive(IntoResponses)]\n#[response(status = 200, description = \"\", " ++
      "content_type = \"text/csv\")]\nstruct Found(#[to_response] User);\n"
    ∃ declaration keys, extractDeclarations source = .ok [declaration] ∧
      keys.map TupleEntry.name = ["description", "content_type"] ∧
      BesideReference .start text declaration ⟨some "200", .reference ⟨.path "User" [], true⟩⟩
        keys := by
  intro text source
  let arguments := "status = 200, description = \"\", content_type = \"text/csv\""
  let field : Field := ⟨none, "User", ⟨3, 29⟩, [⟨"to_response", "", none, ⟨3, 16⟩⟩], []⟩
  let attr : Attribute := ⟨"response", arguments, none, ⟨2, 12⟩⟩
  let derive : Attribute := ⟨"derive", "IntoResponses", none, ⟨1, 10⟩⟩
  let declaration : Declaration :=
    ⟨"Found", .struct, [field], true, [], [derive, attr], [], ["IntoResponses"], ⟨3, 8⟩⟩
  have extracted : extractDeclarations source = .ok [declaration] := by decide +kernel
  -- the keys that stand in both texts
  let status (line column : Nat) : TupleEntry := ⟨⟨.identifier, "status", ⟨line, column⟩⟩,
    [⟨.equals, "=", ⟨line, column + 7⟩⟩, ⟨.integer, "200", ⟨line, column + 9⟩⟩], .status "200",
    rfl, _, .start, rfl,
    Parser.map_eq_ok.mpr ⟨"200", Parser.assignedStatus_written
      (.inr ⟨200, by decide, by decide⟩) rfl _, rfl⟩⟩
  let description (line column : Nat) : TupleEntry :=
    ⟨⟨.identifier, "description", ⟨line, column⟩⟩,
      [⟨.equals, "=", ⟨line, column + 12⟩⟩, ⟨.string, "", ⟨line, column + 14⟩⟩],
      .value (.description ""), rfl, _, .start, rfl, rfl⟩
  let types (line column : Nat) : TupleEntry := ⟨⟨.identifier, "content_type", ⟨line, column⟩⟩,
    [⟨.equals, "=", ⟨line, column + 13⟩⟩, ⟨.string, "text/csv", ⟨line, column + 15⟩⟩],
    .value (.contentTypes ["text/csv"]), rfl, _, .start, rfl, rfl⟩
  let reference : TupleEntry := ⟨⟨.identifier, "response", ⟨1, 16⟩⟩,
    [⟨.equals, "=", ⟨1, 25⟩⟩, ⟨.identifier, "inline", ⟨1, 27⟩⟩, ⟨.openParen, "(", ⟨1, 33⟩⟩,
      ⟨.identifier, "User", ⟨1, 34⟩⟩, ⟨.closeParen, ")", ⟨1, 38⟩⟩],
    .reference ⟨.path "User" [], true⟩, rfl, _, .start, rfl, rfl⟩
  have list {tokens : List Token} {entries : List TupleEntry} (entry : TupleEntry)
      (comma : Location)
      (others : CommaList (fun tokens entry => tokens = entry.tokens) tokens entries) :
      CommaList (fun tokens entry => tokens = entry.tokens)
        (entry.tokens ++ ⟨.comma, ",", comma⟩ :: tokens) (entry :: entries) :=
    .cons rfl rfl others
  have written : TupleText .start text .start
      [status 1 2, reference, description 1 41, types 1 59] :=
    ⟨⟨.openParen, "(", .start⟩, _, ⟨.closeParen, ")", ⟨1, 84⟩⟩, by decide +kernel, rfl, rfl, rfl,
      list _ ⟨1, 14⟩ (list _ ⟨1, 39⟩ (list _ ⟨1, 57⟩ (.last rfl)))⟩
  have gives : attr.Gives [status 2 12, description 2 26, types 2 44] :=
    ⟨_, by decide +kernel, list _ ⟨2, 24⟩ (list _ ⟨2, 42⟩ (.last rfl))⟩
  have user : (TypeRef.path "User" []).WellFormed := .name (by decide)
  have typed : field.type = .ok (.path "User" []) := readTypeRef_text user ⟨3, 29⟩
  have refers : declaration.RefersTo ⟨.path "User" [], true⟩
      [status 2 12, description 2 26, types 2 44] :=
    ⟨rfl, rfl, ⟨field, rfl, typed, .writtenOut rfl rfl⟩, attr, rfl, gives⟩
  exact ⟨declaration, [description 1 41, types 1 59], extracted, rfl,
    reference_besideKeys rfl rfl (by decide) written refers rfl⟩

/-- An empty description beside a reference is a conflict in a tuple and is ignored in a
declaration. -/
theorem responses_emptyDescription :
    let source := "#[derive(IntoResponses)]\n#[response(status = 200, description = \"\")]\n" ++
      "struct Found(#[ref_response] User);\n"
    (∃ fault, readResponseTuple .start "(status = 200, response = User, description = \"\")" =
      .error fault ∧ fault.kind = .conflict) ∧
    ∃ declaration type, extractDeclarations source = .ok [declaration] ∧
      declaration.responses = .ok [⟨some "200", .reference type⟩] := by
  intro source
  let field : Field := ⟨none, "User", ⟨3, 30⟩, [⟨"ref_response", "", none, ⟨3, 16⟩⟩], []⟩
  let declaration : Declaration :=
    ⟨"Found", .struct, [field], true, [], [⟨"derive", "IntoResponses", none, ⟨1, 10⟩⟩,
      ⟨"response", "status = 200, description = \"\"", none, ⟨2, 12⟩⟩], [], ["IntoResponses"],
      ⟨3, 8⟩⟩
  have extracted : extractDeclarations source = .ok [declaration] := by decide +kernel
  have refused : (fun _ => ()) <$> readResponseTuple .start
      "(status = 200, response = User, description = \"\")" =
        .error (.found ⟨1, 33⟩ .referenceWithValue) := by
    decide +kernel
  have listed : List.map (fun described : ResponseDescriptor =>
      (described.status, described.response matches .reference _)) <$> declaration.responses =
        .ok [(some "200", true)] := by
    decide +kernel
  obtain ⟨responses, isResponses, only⟩ := map_eq_ok.mp listed
  obtain ⟨⟨status, response⟩, rfl, same⟩ := List.map_eq_singleton_iff.mp only
  cases response with
  | value value => cases same
  | reference type =>
    cases same
    exact ⟨⟨_, map_eq_error.mp refused, rfl⟩, declaration, type, extracted, isResponses⟩

end OpenResponse
