import Mathlib.Data.List.Induction
import Mathlib.Data.List.Nodup
import Mathlib.Data.List.Perm.Basic
import OpenResponse.Proofs.Response.Keys
import OpenResponse.Proofs.Response.Relocation
import OpenResponse.Proofs.Token.Layout

/-!
# The entries of a response tuple

A response tuple is a list of keys, each with tokens that the parser of its key accepts in full.
What comes of it is told by the entries alone.  A reference beside a key that describes a value is a
conflict, found at the first entry at which both have appeared; otherwise the status must not be
missing; otherwise every key has the value of its last occurrence.

Reading goes through the entries one by one and keeps a draft.  The law of one entry says that it is
refused exactly if it makes a draft with a reference and a value, and since no later entry takes
either of them away, the law of all entries looks at the last draft only.

What makes the two meet is that a setting is refused by what is in the draft, while `Mixes` looks at
names of keys.  A part of a draft is there exactly if an entry with one of its keys has been read,
so a mixed draft is the same as mixed names.  The values are found by folding over the entries: each
setting either replaces a part or leaves it alone, and what such a fold says of a part is what the
last of the settings said that concern it.

## Main definitions

* `TupleEntry` — a key and its value
* `TupleText` — texts with given entries
* `Mixes` — keys of a value beside a reference
* `describedBy` — the response that entries describe
* `ReadsEntries` — what is read off a text with given entries

## Main statements

* `getLast?_foldl` — what a fold says of a part is what the last element says of it
* `foldl_make_perm` — entries with different keys may come in any order
* `TupleText.readsEntries` — **the entries of a response tuple tell what is read**

## Hypotheses

An entry carries the proof that the parser of its key accepts its value in full.  Without it nothing
could be said of a text, as a value that breaks off is a fault of its own, found wherever it is;
with it, the keys alone decide.

`permuted` asks for keys that differ.  For the last occurrence of a key is what counts, and of two
entries with one key another one is the last after they are exchanged.  The two texts may stand at
different places and be spaced differently, so their outcomes are compared apart from the places of
faults, and their entries by their symbols.
-/

namespace OpenResponse

/-! ### Entries

Entries, what they set, and what they are said to come to.  None of these definitions reads
anything: `describedBy` is a function of the list of settings alone. -/

/-- The keys that describe a response by its value. -/
def valueKeys : List String :=
  ["description", "body", "content_type", "headers", "example", "examples", "content"]

/-- The parsers of the values of the keys. -/
def tupleParsers : List (String × Parser Setting) := [
  ("status", .status <$> Parser.assignedStatus),
  ("description", (.value ∘ .description) <$> Parser.assignedString),
  ("body", (.value ∘ .body) <$> do let _ ← Parser.expect .equals; Parser.bodyType),
  ("content_type", (.value ∘ .contentTypes) <$> Parser.contentTypes),
  ("headers", (.value ∘ .headers) <$> Parser.headers),
  ("example", (.value ∘ .sample) <$> Parser.exampleValue),
  ("examples", (.value ∘ .examples) <$> Parser.examples),
  ("content", (.value ∘ .content) <$> Parser.content),
  ("response", .reference <$> do let _ ← Parser.expect .equals; Parser.inlineType)]

/-- An entry of a response tuple: a key, and a value that the parser of the key accepts in full. -/
structure TupleEntry where
  /-- The key. -/
  key : Token
  /-- The tokens of the value. -/
  value : List Token
  /-- What the value sets. -/
  setting : Setting
  isKey : key.kind = .identifier
  accepted : ∃ parser finish, tupleParsers.lookup key.value = some parser ∧
    parser ⟨value, finish⟩ = .ok setting ⟨[], finish⟩

namespace TupleEntry

/-- The name of the key. -/
def name (entry : TupleEntry) : String := entry.key.value

/-- The tokens of an entry. -/
def tokens (entry : TupleEntry) : List Token := entry.key :: entry.value

/-- An entry as it is written, wherever that is. -/
def symbols (entry : TupleEntry) : List Symbol := entry.tokens.map Token.symbol

/-- What an entry sets, with the place of its key. -/
def placed (entry : TupleEntry) : Location × Setting := (entry.key.location, entry.setting)

end TupleEntry

/-- A text of entries between parentheses, the first of which stands at a place.  Commas separate
the entries, and the last one may be followed by one too. -/
def TupleText (origin : Location) (text : String) (opening : Location) (entries : List TupleEntry) :
    Prop :=
  ∃ first inner last, scan origin text.toList = .ok (first :: (inner ++ [last])) ∧
    first.kind = .openParen ∧ first.location = opening ∧ last.kind = .closeParen ∧
    CommaList (fun tokens entry => tokens = entry.tokens) inner entries

/-- A reference to another response stands beside keys that describe a value.  It does not matter
which of them comes first. -/
def Mixes (entries : List TupleEntry) : Prop :=
  (∃ entry ∈ entries, entry.name = "response") ∧ ∃ entry ∈ entries, entry.name ∈ valueKeys

/-- The status that a setting gives. -/
def Setting.status? : Setting → Option String
  | .status text => some text
  | _ => none

/-- The reference that a setting makes. -/
def Setting.reference? : Setting → Option InlineType
  | .reference type => some type
  | _ => none

/-- What is picked from the last setting from which it can be picked.  Settings of other keys are
passed over. -/
def lastOf {α : Type} (pick : Setting → Option α) (settings : List Setting) : Option α :=
  (settings.filterMap pick).getLast?

/-- The value in which each key has the value of its last occurrence. -/
def lastValues (settings : List Setting) : ResponseValue where
  description :=
    (lastOf (fun | .value (.description text) => some text | _ => none) settings).getD ""
  body := lastOf (fun | .value (.body body) => some body | _ => none) settings
  contentTypes := lastOf (fun | .value (.contentTypes types) => some types | _ => none) settings
  headers := (lastOf (fun | .value (.headers headers) => some headers | _ => none) settings).getD []
  sample := lastOf (fun | .value (.sample shown) => some shown | _ => none) settings
  examples := lastOf (fun | .value (.examples shown) => some shown | _ => none) settings
  content :=
    (lastOf (fun | .value (.content variants) => some variants | _ => none) settings).getD []

/-- The response in which each key has the value of its last occurrence.  Keys that do not occur
have the value that they have in an empty response. -/
def describedBy (settings : List Setting) : ResponseDescriptor where
  status := lastOf Setting.status? settings
  response :=
    match lastOf Setting.reference? settings with
    | some type => .reference type
    | none => .value (lastValues settings)

/-- What is read off a text of entries.  Each field answers one question about the outcome: when
there is a conflict and where, when the status is missing, what is read otherwise, and what happens
if the entries are permuted. -/
structure ReadsEntries (origin : Location) (text : String) (opening : Location)
    (entries : List TupleEntry) : Prop where
  /-- Keys that exclude each other are the only conflict. -/
  conflict_iff :
    (∃ fault, readResponseTuple origin text = .error fault ∧ fault.kind = .conflict) ↔ Mixes entries
  /-- The conflict is found at the first entry at which both families of keys have appeared. -/
  conflict_at : ∀ front entry back, entries = front ++ entry :: back → ¬ Mixes front →
    Mixes (front ++ [entry]) →
    readResponseTuple origin text = .error (.found entry.key.location .referenceWithValue)
  /-- Without a conflict the status is missing exactly if it is not written. -/
  missing_iff : ¬ Mixes entries →
    (readResponseTuple origin text = .error (.found opening .statusMissing) ↔
      ∀ entry ∈ entries, entry.name ≠ "status")
  /-- Without a conflict and with a status the entries describe a response. -/
  described : ¬ Mixes entries → (∃ entry ∈ entries, entry.name = "status") →
    readResponseTuple origin text = .ok (describedBy (entries.map TupleEntry.setting))
  /-- Entries with different keys may be written in any order. -/
  permuted : (entries.map TupleEntry.name).Nodup →
    ∀ origin' text' opening' entries', TupleText origin' text' opening' entries' →
      (entries.map TupleEntry.symbols).Perm (entries'.map TupleEntry.symbols) →
      (readResponseTuple origin text).mapError Fault.cause =
        (readResponseTuple origin' text').mapError Fault.cause

/-! ### What settings come to

Each part of a descriptor is treated by itself.  The two general lemmas differ in whether a part may
be absent; what has to be shown for each is a single step, which holds by looking at the setting. -/

section Folds

variable {σ ε γ : Type} {make : σ → ε → σ} {pick : ε → Option γ}

/-- Where every setting either leaves a part of a draft alone or replaces it by what is picked from
the setting, the part is what is picked last. -/
theorem getLast?_foldl (part : σ → Option γ)
    (step : ∀ state setting, part (make state setting) = (pick setting).or (part state))
    (settings : List ε) (state : σ) :
    part (settings.foldl make state) = (settings.filterMap pick).getLast?.or (part state) := by
  induction settings generalizing state with
  | nil => rfl
  | cons setting settings ih =>
    rw [List.foldl_cons, ih, step, List.filterMap_cons]
    cases pick setting with
    | none => rfl
    | some picked =>
      dsimp only
      rw [List.getLast?_cons]
      cases (settings.filterMap pick).getLast? with
      | none => rfl
      | some last => rfl

/-- A part that is always there is what is picked last, or what it was. -/
theorem getD_getLast?_foldl (part : σ → γ)
    (step : ∀ state setting, part (make state setting) = (pick setting).getD (part state))
    (settings : List ε) (state : σ) :
    part (settings.foldl make state) = (settings.filterMap pick).getLast?.getD (part state) := by
  have asOption (state : σ) (setting : ε) :
      some (part (make state setting)) = (pick setting).or (some (part state)) := by
    rw [step, Option.or_some]
  have last := getLast?_foldl (fun state => some (part state)) asOption settings state
  rw [Option.or_some] at last
  exact Option.some.inj last

end Folds

attribute [ext] ResponseValue

/-- The values of a draft are those that are set last. -/
theorem value_foldl_make (settings : List Setting) :
    (settings.foldl TupleDraft.make .empty).value.getD .empty = lastValues settings := by
  have always {γ : Type} {pick : Setting → Option γ} (part : ResponseValue → γ)
      (step : ∀ (draft : TupleDraft) (setting : Setting),
        part ((draft.make setting).value.getD .empty) =
          (pick setting).getD (part (draft.value.getD .empty))) :=
    getD_getLast?_foldl (fun draft : TupleDraft => part (draft.value.getD .empty)) step settings
      .empty
  have perhaps {γ : Type} {pick : Setting → Option γ} (part : ResponseValue → Option γ)
      (step : ∀ (draft : TupleDraft) (setting : Setting),
        part ((draft.make setting).value.getD .empty) =
          (pick setting).or (part (draft.value.getD .empty)))
      (absent : part .empty = none) :
      part ((settings.foldl TupleDraft.make .empty).value.getD .empty) = lastOf pick settings := by
    have last := getLast?_foldl (fun draft : TupleDraft => part (draft.value.getD .empty)) step
      settings .empty
    rw [last, TupleDraft.empty, Option.getD_none, absent, Option.or_none, lastOf]
  ext1
  · exact always (·.description) (by rintro draft (_ | ⟨⟨⟩⟩ | _) <;> rfl)
  · exact perhaps (·.body) (by rintro draft (_ | ⟨⟨⟩⟩ | _) <;> rfl) rfl
  · exact perhaps (·.contentTypes) (by rintro draft (_ | ⟨⟨⟩⟩ | _) <;> rfl) rfl
  · exact always (·.headers) (by rintro draft (_ | ⟨⟨⟩⟩ | _) <;> rfl)
  · exact perhaps (·.sample) (by rintro draft (_ | ⟨⟨⟩⟩ | _) <;> rfl) rfl
  · exact perhaps (·.examples) (by rintro draft (_ | ⟨⟨⟩⟩ | _) <;> rfl) rfl
  · exact always (·.content) (by rintro draft (_ | ⟨⟨⟩⟩ | _) <;> rfl)

/-- A draft is described by the settings that are made in it. -/
theorem descriptor_foldl (settings : List Setting) :
    (settings.foldl TupleDraft.make .empty).descriptor = describedBy settings := by
  have statusStep (draft : TupleDraft) (setting : Setting) :
      (draft.make setting).status = setting.status?.or draft.status := by
    cases setting <;> rfl
  have referenceStep (draft : TupleDraft) (setting : Setting) :
      (draft.make setting).reference = setting.reference?.or draft.reference := by
    cases setting <;> rfl
  have status : (settings.foldl TupleDraft.make .empty).status = lastOf Setting.status? settings :=
    (getLast?_foldl TupleDraft.status statusStep settings .empty).trans Option.or_none
  have reference :
      (settings.foldl TupleDraft.make .empty).reference = lastOf Setting.reference? settings :=
    (getLast?_foldl TupleDraft.reference referenceStep settings .empty).trans Option.or_none
  rw [TupleDraft.descriptor, describedBy, ← status, ← reference, ← value_foldl_make]
  cases (settings.foldl TupleDraft.make .empty).reference with
  | none => rfl
  | some type => rfl

/-! ### Reading entries

The keys of a tuple are refused at three moments: a reference and most values once they are read,
the body before it is.  As the values are accepted in full, this makes no difference to which fault
is found, and all keys have one law. -/

/-- The key that makes a setting in a value. -/
def ValueSetting.key : ValueSetting → String
  | .description _ => "description"
  | .body _ => "body"
  | .contentTypes _ => "content_type"
  | .headers _ => "headers"
  | .sample _ => "example"
  | .examples _ => "examples"
  | .content _ => "content"

/-- The key that makes a setting. -/
def Setting.key : Setting → String
  | .status _ => "status"
  | .value setting => setting.key
  | .reference _ => "response"

namespace Parser

/-- The parser of a key makes settings of that key. -/
theorem key_of_tupleParsers : ∀ line ∈ tupleParsers, ∀ stream setting rest,
    line.2 stream = .ok setting rest → setting.key = line.1 := by
  simp only [tupleParsers, List.forall_mem_cons, List.not_mem_nil, false_imp_iff, implies_true,
    and_true]
  refine ⟨?_, ?_, ?_, ?_, ?_, ?_, ?_, ?_, ?_⟩ <;>
  · intro stream setting rest read
    obtain ⟨inner, -, rfl⟩ := map_eq_ok.mp read
    rfl

namespace Reads

/-- The parsers of the values read the forms of the keys. -/
theorem tupleParsers (n : Nat) :
    List.Forall₂ (fun line rule => line.1 = rule.1 ∧ Reads n closing line.2 rule.2)
      OpenResponse.tupleParsers tupleTable := by
  refine .cons ⟨rfl, assignedStatus.map _⟩ (.cons ⟨rfl, assignedString.map _⟩ (.cons ⟨rfl, ?_⟩
    (.cons ⟨rfl, contentTypes.map _⟩ (.cons ⟨rfl, headers.map _⟩ (.cons ⟨rfl, exampleValue.map _⟩
    (.cons ⟨rfl, examples.map _⟩ (.cons ⟨rfl, content.map _⟩ (.cons ⟨rfl, ?_⟩ .nil))))))))
  · exact map (bindExpectAs _ (by decide) fun _ _ => bodyType) _
  · exact map (bindExpectAs _ (by decide) fun _ _ => inlineType) _

end Reads

end Parser

/-- What is found in a table is one of its lines. -/
theorem mem_of_lookup {α : Type} {table : List (String × α)} {key : String} {value : α}
    (found : table.lookup key = some value) : (key, value) ∈ table := by
  obtain ⟨front, back, lines, -⟩ := List.lookup_eq_some_iff.mp found
  rw [lines]
  exact List.mem_append_right front List.mem_cons_self

namespace TupleEntry

variable (entry : TupleEntry)

/-- The setting of an entry is one of its own key. -/
theorem key_setting : entry.setting.key = entry.name := by
  obtain ⟨parser, finish, found, read⟩ := entry.accepted
  exact Parser.key_of_tupleParsers _ (mem_of_lookup found) _ _ _ read

/-- What the parser of a key accepts is of the form of its values. -/
theorem written : keyForm tupleTable entry.name entry.value entry.setting := by
  obtain ⟨parser, finish, found, read⟩ := entry.accepted
  rcases lookup_of_forall₂ (R := fun parser form => Parser.Reads 0 closing parser form)
    (Parser.Reads.tupleParsers 0) entry.name with ⟨missing, -⟩ | ⟨_, form, found', known, reads⟩
  · cases found.symm.trans missing
  cases found.symm.trans found'
  obtain ⟨tokens, whole, written⟩ := reads.sound _ _ _ read
  have same : entry.value = tokens :=
    (congrArg TokenStream.tokens whole).trans (List.append_nil tokens)
  exact ⟨form, known, same ▸ written⟩

end TupleEntry

/-- Entries between commas are keys with the values that belong to them. -/
theorem keyList_of_entries {tokens : List Token} {entries : List TupleEntry}
    (list : CommaList (fun tokens entry => tokens = entry.tokens) tokens entries) :
    KeyList (keyForm tupleTable) tokens (entries.map TupleEntry.placed) := by
  induction list with
  | nil => exact .nil
  | @last _ entry same =>
    subst same
    exact .last entry.isKey entry.written
  | @cons _ more comma entry entries same isComma _ ih =>
    subst same
    exact .cons entry.isKey entry.written isComma ih

namespace Parser.Reads

open TokenStream

variable {n : Nat}

/-- A key of a value is refused at its place once its value is read. -/
theorem valueKey_refuses {α : Type} {read : Parser α} {form : Form α} (make : α → ValueSetting)
    (reads : Reads n closing read form) :
    Refuses n (Parser.valueKey read fun value => (make value).change)
      ((.value ∘ make) <$> form) Setting.onDraft (.found · .referenceWithValue) := by
  intro here draft tokens setting short written refused rest follows
  obtain ⟨value, inner, rfl⟩ := Form.map_iff.mp written
  have valueRead := reads.complete tokens value rest short inner follows
  have refers : draft.reference.isSome = true := by
    by_contra noReference
    cases (if_neg noReference).symm.trans refused
  refine ⟨rest, ?_⟩
  rw [Parser.valueKey, bind_of_ok valueRead, changeValue, if_pos refers]
  rfl

/-- The body is refused at its place before it is read. -/
theorem bodyKey_refuses : Refuses n Parser.bodyKey ((.value ∘ .body) <$> assignedBodyForm)
    Setting.onDraft (.found · .referenceWithValue) := by
  intro here draft tokens setting short written refused rest follows
  obtain ⟨body, -, rfl⟩ := Form.map_iff.mp written
  have refers : draft.reference.isSome = true := by
    by_contra noReference
    cases (if_neg noReference).symm.trans refused
  refine ⟨rest.preceded tokens, ?_⟩
  rw [Parser.bodyKey, changeValue, if_pos refers]
  rfl

/-- A reference is refused at its place once it is read. -/
theorem referenceKey_refuses : Refuses n Parser.referenceKey (.reference <$> assignedTypeForm)
    Setting.onDraft (.found · .referenceWithValue) := by
  intro here draft tokens setting short written refused rest follows
  obtain ⟨type, inner, rfl⟩ := Form.map_iff.mp written
  have reads : Reads n closing (do let _ ← expect .equals; Parser.inlineType) assignedTypeForm :=
    bindExpectAs _ (by decide) fun _ _ => inlineType
  have typeRead := reads.complete tokens type rest short inner follows
  have described : draft.value.isSome = true := by
    by_contra noValue
    cases (if_neg noValue).symm.trans refused
  refine ⟨rest, ?_⟩
  rw [Parser.referenceKey]
  simp only [← bind_assoc]
  rw [bind_of_ok typeRead, if_pos described]
  rfl

private theorem tupleKeys_refuse : HandlersRefuse n Parser.tupleKeys tupleTable Setting.onDraft
    (.found · .referenceWithValue) := by
  refine .cons ⟨rfl, ?_⟩ (.cons ⟨rfl, ?_⟩ (.cons ⟨rfl, ?_⟩ (.cons ⟨rfl, ?_⟩ (.cons ⟨rfl, ?_⟩
    (.cons ⟨rfl, ?_⟩ (.cons ⟨rfl, ?_⟩ (.cons ⟨rfl, ?_⟩ (.cons ⟨rfl, ?_⟩ .nil))))))))
  · -- a status is never refused
    intro here draft tokens setting _ written refused
    obtain ⟨text, -, rfl⟩ := Form.map_iff.mp written
    cases refused
  · exact valueKey_refuses .description assignedString
  · exact bodyKey_refuses
  · exact valueKey_refuses .contentTypes contentTypes
  · exact valueKey_refuses .headers headers
  · exact valueKey_refuses .sample exampleValue
  · exact valueKey_refuses .examples examples
  · exact valueKey_refuses .content content
  · exact referenceKey_refuses

end Parser.Reads

/-- Behind its opening mark a tuple is a list of keys, of which something must come. -/
theorem Parser.responseTuple_preceded {opening : Token} (isOpen : opening.kind = .openParen)
    (stream : TokenStream) :
    Parser.responseTuple (stream.preceded [opening]) =
      (do
        let draft ← keyed .closeParen tupleKeys .empty
        if draft.status.isNone then failAt opening .statusMissing
        let _ ← expect .closeParen
        return draft.descriptor : Parser ResponseDescriptor) stream :=
  bind_of_ok (expectAs_of_kind stream isOpen _ [])

section Texts

open OpenResponse.Parser

variable {origin opening : Location} {text : String} {entries : List TupleEntry}

namespace TupleText

/-- Reading ends at the first entry that is refused. -/
theorem read_refused (written : TupleText origin text opening entries) {here : Location}
    (refused : RefusedAt Setting.onDraft (entries.map TupleEntry.placed) .empty here) :
    readResponseTuple origin text = .error (.found here .referenceWithValue) := by
  obtain ⟨first, inner, last, scanned, isOpen, -, isClose, list⟩ := written
  have keys := keyList_of_entries list
  have atClose : (TokenStream.mk [last] (origin.behind text.toList)).front = .closeParen := isClose
  obtain ⟨left, failed⟩ := Reads.keyed_refused Reads.tupleKeys Reads.tupleKeys_refuse
    (rfl : closing .closeParen) (by decide) keys refused (Nat.le_refl inner.length) atClose
  have run := responseTuple_preceded isOpen
    ((TokenStream.mk [last] (origin.behind text.toList)).preceded inner)
  rw [bind_of_error failed] at run
  exact runOnAll_of_error scanned run

/-- Entries that are not refused make a draft, which must have a status. -/
theorem read_missing (written : TupleText origin text opening entries) {draft : TupleDraft}
    (applied : applyAll Setting.onDraft (entries.map TupleEntry.placed) .empty = some draft)
    (missing : draft.status.isNone = true) :
    readResponseTuple origin text = .error (.found opening .statusMissing) := by
  obtain ⟨first, inner, last, scanned, isOpen, rfl, isClose, list⟩ := written
  have keys := keyList_of_entries list
  have keysRead := (Reads.keyedInParens Reads.tupleKeys _).complete inner draft
    ⟨[last], origin.behind text.toList⟩ (Nat.le_refl _) ⟨_, keys, applied⟩ isClose
  have run := responseTuple_preceded isOpen
    ((TokenStream.mk [last] (origin.behind text.toList)).preceded inner)
  rw [bind_of_ok keysRead, if_pos missing] at run
  exact runOnAll_of_error scanned run

/-- A draft with a status is what is read. -/
theorem read_described (written : TupleText origin text opening entries) {draft : TupleDraft}
    (applied : applyAll Setting.onDraft (entries.map TupleEntry.placed) .empty = some draft)
    (given : draft.status.isSome = true) :
    readResponseTuple origin text = .ok draft.descriptor := by
  obtain ⟨first, inner, last, scanned, isOpen, -, isClose, list⟩ := written
  have keys := keyList_of_entries list
  have ended : draftForm draft [last] draft.descriptor :=
    Form.cons_token_bind_iff.mpr ⟨isClose, rfl, given, rfl⟩
  refine readResponseTuple_eq_ok.mpr ⟨_, scanned, Form.cons_token_bind_iff.mpr ⟨isOpen, ?_⟩⟩
  exact ⟨inner, [last], draft, rfl, ⟨_, keys, applied⟩, ended⟩

end TupleText

/-! ### What is read off entries

The outcome of reading is put together from the draft that the settings make.  The first entry that
makes a mixed draft is the first with which both families of keys have appeared, because up to it
nothing has been refused. -/

/-- A part of a draft is there if a setting makes it or if it was there. -/
theorem isSome_foldl {γ : Type} (part : TupleDraft → Option γ) (makes : Setting → Bool)
    (step : ∀ (draft : TupleDraft) (setting : Setting),
      (part (draft.make setting)).isSome = (makes setting || (part draft).isSome))
    (settings : List Setting) (draft : TupleDraft) :
    (part (settings.foldl TupleDraft.make draft)).isSome =
      (settings.any makes || (part draft).isSome) := by
  induction settings generalizing draft with
  | nil => rfl
  | cons setting settings ih =>
    rw [List.foldl_cons, ih, step, List.any_cons, ← Bool.or_assoc, Bool.or_comm (makes setting)]

/-- Entries mix a reference with a value if their draft does. -/
theorem mixed_iff (entries : List TupleEntry) :
    ((entries.map TupleEntry.setting).foldl TupleDraft.make .empty).Mixed ↔ Mixes entries := by
  have reference := isSome_foldl TupleDraft.reference (fun setting => setting.key == "response")
    (by rintro draft (_ | ⟨⟨⟩⟩ | _) <;> rfl) (entries.map TupleEntry.setting) .empty
  have value := isSome_foldl TupleDraft.value (fun setting => valueKeys.contains setting.key)
    (by rintro draft (_ | ⟨⟨⟩⟩ | _) <;> rfl) (entries.map TupleEntry.setting) .empty
  rw [TupleDraft.Mixed, reference, value]
  simp [TupleDraft.empty, Mixes, TupleEntry.key_setting, Function.comp_def]

/-- A draft has a status if an entry gives one. -/
theorem status_iff (entries : List TupleEntry) :
    ((entries.map TupleEntry.setting).foldl TupleDraft.make .empty).status.isSome = true ↔
      ∃ entry ∈ entries, entry.name = "status" := by
  have status := isSome_foldl TupleDraft.status (fun setting => setting.key == "status")
    (by rintro draft (_ | ⟨⟨⟩⟩ | _) <;> rfl) (entries.map TupleEntry.setting) .empty
  rw [status]
  simp [TupleDraft.empty, TupleEntry.key_setting]

/-- What holds of a list but not of nothing begins to hold at one of its members. -/
theorem exists_first {α : Type} {P : List α → Prop} (nothing : ¬ P []) {list : List α}
    (holds : P list) :
    ∃ front item back, list = front ++ item :: back ∧ ¬ P front ∧ P (front ++ [item]) := by
  induction list using List.reverseRecOn with
  | nil => exact absurd holds nothing
  | append_singleton init last ih =>
    by_cases before : P init
    · obtain ⟨front, item, back, rfl, apart, first⟩ := ih before
      exact ⟨front, item, back ++ [last], by simp, apart, first⟩
    · exact ⟨init, last, [], rfl, before, holds⟩

/-- The settings of entries, without the places of their keys. -/
theorem map_snd_placed (entries : List TupleEntry) :
    (entries.map TupleEntry.placed).map Prod.snd = entries.map TupleEntry.setting := by
  rw [List.map_map]
  rfl

namespace TupleText

/-- Entries that do not mix a reference with a value make the draft of their settings. -/
theorem applyAll_placed {entries : List TupleEntry} (apart : ¬ Mixes entries) :
    applyAll Setting.onDraft (entries.map TupleEntry.placed) .empty =
      some ((entries.map TupleEntry.setting).foldl TupleDraft.make .empty) := by
  rw [← mixed_iff, ← map_snd_placed] at apart
  rw [TupleDraft.applyAll_of_not_mixed apart, map_snd_placed]

/-- The first entry that mixes a reference with a value is a conflict. -/
theorem read_conflict {front back : List TupleEntry} {entry : TupleEntry}
    (written : TupleText origin text opening (front ++ entry :: back)) (apart : ¬ Mixes front)
    (mixed : Mixes (front ++ [entry])) :
    readResponseTuple origin text = .error (.found entry.key.location .referenceWithValue) := by
  refine written.read_refused ?_
  rw [← mixed_iff, ← map_snd_placed] at apart mixed
  rw [List.map_append, List.map_cons]
  refine TupleDraft.refusedAt_of_mixed apart ?_
  rw [List.map_append, List.map_append, List.foldl_append] at mixed
  exact mixed

end TupleText

/-! ### The order of entries

Settings of different keys can be exchanged, so a permutation of the settings makes the same draft.
That equal symbols set the same is a property of the parsers: nothing they keep depends on where
tokens stand. -/

/-- Settings of a value with different keys may be made in any order. -/
theorem ValueSetting.change_comm {first second : ValueSetting} (differ : first.key ≠ second.key)
    (value : ResponseValue) :
    second.change (first.change value) = first.change (second.change value) := by
  cases first <;> cases second <;> first | rfl | exact absurd rfl differ

/-- Settings with different keys may be made in any order. -/
theorem Setting.make_comm {first second : Setting} (differ : first.key ≠ second.key)
    (draft : TupleDraft) : (draft.make first).make second = (draft.make second).make first := by
  cases first with
  | status text =>
    cases second with
    | status other => exact absurd rfl differ
    | value setting => rfl
    | reference type => rfl
  | value setting =>
    cases second with
    | status text => rfl
    | value other =>
      have same := ValueSetting.change_comm differ (draft.value.getD .empty)
      simp only [TupleDraft.make, Option.getD_some, same]
    | reference type => rfl
  | reference type =>
    cases second with
    | status text => rfl
    | value setting => rfl
    | reference other => exact absurd rfl differ

/-- The order of settings with different keys does not matter.  Each setting changes a field of its
own, so two of them can be exchanged. -/
theorem foldl_make_perm {settings others : List Setting} (same : settings.Perm others)
    (different : (settings.map Setting.key).Nodup) (draft : TupleDraft) :
    settings.foldl TupleDraft.make draft = others.foldl TupleDraft.make draft := by
  refine same.foldl_eq' (fun first firstListed second secondListed draft => ?_) draft
  by_cases sameKey : first.key = second.key
  · rw [List.inj_on_of_nodup_map different firstListed secondListed sameKey]
  · exact Setting.make_comm sameKey draft

/-- Two lists that are the same up to their order by one measure are so by any measure that the
first one determines. -/
theorem perm_map_of_determined {α β γ : Type} {f : α → β} {g : α → γ} {list other : List α}
    (same : (list.map f).Perm (other.map f))
    (determined : ∀ x ∈ list, ∀ y ∈ other, f x = f y → g x = g y) :
    (list.map g).Perm (other.map g) := by
  induction list generalizing other with
  | nil =>
    have nothing := List.map_eq_nil_iff.mp same.symm.eq_nil
    rw [nothing]
  | cons x list ih =>
    have listed : f x ∈ other.map f := same.subset List.mem_cons_self
    obtain ⟨y, yListed, sameMeasure⟩ := List.mem_map.mp listed
    obtain ⟨front, back, rfl⟩ := List.append_of_mem yListed
    have ahead : (front ++ y :: back).Perm (y :: (front ++ back)) := List.perm_middle
    have others : (list.map f).Perm ((front ++ back).map f) := by
      have both := same.trans (ahead.map f)
      rw [List.map_cons, List.map_cons, sameMeasure] at both
      exact both.cons_inv
    have rest := ih others fun x xListed y yListed =>
      determined x (List.mem_cons_of_mem _ xListed) y
        (ahead.symm.subset (List.mem_cons_of_mem _ yListed))
    have first := determined x List.mem_cons_self y yListed sameMeasure.symm
    refine List.Perm.trans ?_ (ahead.map g).symm
    rw [List.map_cons, List.map_cons, first]
    exact rest.cons (g y)

/-- The places of tokens are nothing to the parsers of the values. -/
theorem uniform_tupleParsers {R : Location → Location → Prop} :
    ∀ line ∈ tupleParsers, Uniform R line.2 := by
  have mapped {α : Type} {parser : Parser α} (uniform : Uniform R parser) (change : α → Setting) :
      Uniform R (change <$> parser) := uniform.map fun _ _ => congrArg change
  simp only [tupleParsers, List.forall_mem_cons, List.not_mem_nil, false_imp_iff, implies_true,
    and_true]
  refine ⟨mapped Respects.assignedStatus _, mapped Respects.assignedString _, ?_,
    mapped Respects.contentTypes _, mapped Respects.headers _, mapped Respects.exampleValue _,
    mapped Respects.examples _, mapped Respects.content _, ?_⟩
  · exact mapped (Respects.bindExpectAs _ _ fun _ _ => Respects.bodyType) _
  · exact mapped (Respects.bindExpectAs _ _ fun _ _ => Respects.inlineType) _

/-- Entries that are written alike set the same, wherever they are written. -/
theorem TupleEntry.setting_eq {entry other : TupleEntry} (same : entry.symbols = other.symbols) :
    entry.setting = other.setting := by
  obtain ⟨sameKey, sameValue⟩ := List.cons.inj same
  obtain ⟨parser, finish, found, read⟩ := entry.accepted
  obtain ⟨parser', finish', found', read'⟩ := other.accepted
  have sameName : entry.key.value = other.key.value := congrArg Symbol.value sameKey
  cases found.symm.trans (sameName ▸ found')
  have tokens : List.Forall₂ (Token.Related fun _ _ => True) entry.value other.value := by
    have symbols : List.Forall₂ (· = ·) (entry.value.map Token.symbol)
        (other.value.map Token.symbol) := by
      rw [List.forall₂_eq_eq_eq]
      exact sameValue
    refine (List.forall₂_map_right_iff.mp (List.forall₂_map_left_iff.mp symbols)).imp ?_
    intro token token' alike
    exact ⟨congrArg Symbol.kind alike, congrArg Symbol.value alike, trivial⟩
  have uniform : Uniform (fun _ _ => True) parser := uniform_tupleParsers _ (mem_of_lookup found)
  have outcomes := uniform ⟨entry.value, finish⟩ ⟨other.value, finish'⟩ ⟨tokens, trivial⟩
  rw [read, read'] at outcomes
  exact outcomes.1

/-- Where nothing is written, nothing is mixed. -/
theorem not_mixes_nil : ¬ Mixes [] := by
  rintro ⟨⟨entry, listed, -⟩, -⟩
  cases listed

/-- What comes of a draft, apart from the place of a fault. -/
def TupleDraft.outcome (draft : TupleDraft) : Except Cause ResponseDescriptor :=
  if draft.Mixed then .error .referenceWithValue
  else if draft.status.isNone then .error .statusMissing
  else .ok draft.descriptor

namespace TupleText

variable (written : TupleText origin text opening entries)

include written

/-- What is read is what comes of the draft that the settings make. -/
theorem mapError_cause :
    (readResponseTuple origin text).mapError Fault.cause =
      ((entries.map TupleEntry.setting).foldl TupleDraft.make .empty).outcome := by
  by_cases mixed : Mixes entries
  · obtain ⟨front, entry, back, rfl, apart, first⟩ := exists_first not_mixes_nil mixed
    rw [written.read_conflict apart first, TupleDraft.outcome, if_pos ((mixed_iff _).mpr mixed)]
    rfl
  · have applied := applyAll_placed mixed
    rw [TupleDraft.outcome, if_neg fun also => mixed ((mixed_iff entries).mp also)]
    generalize (entries.map TupleEntry.setting).foldl TupleDraft.make .empty = draft at *
    by_cases missing : draft.status.isNone = true
    · rw [written.read_missing applied missing, if_pos missing]
      rfl
    · have given := Option.isNone_eq_false_iff.mp (Bool.eq_false_iff.mpr missing)
      rw [written.read_described applied given, if_neg missing]
      rfl

/-- What is read of a response tuple is told by its entries: a conflict at the first entry at which
a reference and a key of a value have both appeared, or else a missing status at the opening mark,
or else the response in which each key has the value of its last occurrence.  If the keys are
different, the order of the entries does not matter. -/
theorem readsEntries : ReadsEntries origin text opening entries where
  conflict_iff := by
    constructor
    · rintro ⟨fault, failed, conflict⟩
      -- without a conflict the outcome is a descriptor or a missing status, and neither is one
      by_contra apart
      have outcome := written.mapError_cause
      rw [failed, TupleDraft.outcome, if_neg fun mixed => apart ((mixed_iff entries).mp mixed)]
        at outcome
      split at outcome
      · have missing : fault.cause = .statusMissing := Except.error.inj outcome
        rw [Fault.kind, missing] at conflict
        cases conflict
      · cases outcome
    · intro mixed
      obtain ⟨front, entry, back, rfl, apart, first⟩ := exists_first not_mixes_nil mixed
      exact ⟨_, written.read_conflict apart first, rfl⟩
  conflict_at := by
    rintro front entry back rfl apart mixed
    exact written.read_conflict apart mixed
  missing_iff := by
    intro apart
    have applied := applyAll_placed apart
    constructor
    · intro failed entry listed isStatus
      have given := (status_iff entries).mpr ⟨entry, listed, isStatus⟩
      cases failed.symm.trans (written.read_described applied given)
    · intro noStatus
      refine written.read_missing applied ?_
      rw [← Option.not_isSome, Bool.not_eq_true', Bool.eq_false_iff]
      intro given
      obtain ⟨entry, listed, isStatus⟩ := (status_iff entries).mp given
      exact noStatus entry listed isStatus
  described := by
    intro apart given
    rw [written.read_described (applyAll_placed apart) ((status_iff entries).mpr given),
      descriptor_foldl]
  permuted := by
    intro different origin' text' opening' entries' written' same
    -- the same entries in another order make the same settings, for they agree entry by entry
    have settings : (entries.map TupleEntry.setting).Perm (entries'.map TupleEntry.setting) :=
      perm_map_of_determined same fun _ _ _ _ alike => TupleEntry.setting_eq alike
    have keys : ((entries.map TupleEntry.setting).map Setting.key).Nodup := by
      rw [List.map_map]
      have names : Setting.key ∘ TupleEntry.setting = TupleEntry.name :=
        funext TupleEntry.key_setting
      rw [names]
      exact different
    rw [written.mapError_cause, written'.mapError_cause, foldl_make_perm settings keys]

end TupleText

end Texts

/-- A reference, a description and a status, of which the second one is a conflict. -/
theorem TupleText.readsEntries_conflict :
    ∃ entries, entries.map TupleEntry.name = ["response", "description", "status"] ∧
      TupleText .start "(response = Problem, description = \"x\", status = \"4XX\",)" .start
        entries ∧
      ReadsEntries .start "(response = Problem, description = \"x\", status = \"4XX\",)" .start
        entries := by
  let reference : TupleEntry := ⟨⟨.identifier, "response", ⟨1, 2⟩⟩,
    [⟨.equals, "=", ⟨1, 11⟩⟩, ⟨.identifier, "Problem", ⟨1, 13⟩⟩], _, rfl, _, .start, rfl, rfl⟩
  let description : TupleEntry := ⟨⟨.identifier, "description", ⟨1, 22⟩⟩,
    [⟨.equals, "=", ⟨1, 34⟩⟩, ⟨.string, "x", ⟨1, 36⟩⟩], _, rfl, _, .start, rfl, rfl⟩
  let status : TupleEntry := ⟨⟨.identifier, "status", ⟨1, 41⟩⟩,
    [⟨.equals, "=", ⟨1, 48⟩⟩, ⟨.string, "4XX", ⟨1, 50⟩⟩], _, rfl, _, .start, rfl, rfl⟩
  have written : TupleText .start
      "(response = Problem, description = \"x\", status = \"4XX\",)" .start
      [reference, description, status] := by
    have list {inner : List Token} {entries : List TupleEntry} (entry : TupleEntry)
        (comma : Location)
        (others : CommaList (fun tokens entry => tokens = entry.tokens) inner entries) :
        CommaList (fun tokens entry => tokens = entry.tokens)
          (entry.tokens ++ ⟨.comma, ",", comma⟩ :: inner) (entry :: entries) :=
      .cons rfl rfl others
    refine ⟨⟨.openParen, "(", .start⟩, _, ⟨.closeParen, ")", ⟨1, 56⟩⟩, ?_, rfl, rfl, rfl,
      list _ ⟨1, 20⟩ (list _ ⟨1, 39⟩ (list _ ⟨1, 55⟩ .nil))⟩
    decide +kernel
  exact ⟨[reference, description, status], rfl, written, written.readsEntries⟩

end OpenResponse
