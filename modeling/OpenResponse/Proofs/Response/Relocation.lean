import OpenResponse.Proofs.Token.Relocation
import OpenResponse.Response.Details

/-!
# Moving the text of a response

Every reader of the attribute language reads a moved text as it reads the text in its old place.
What it keeps is the same, but for the two places that attributes of declarations remember.

The same text at another place has the same tokens but for their locations, and a reader has nothing
but tokens to go by.  It compares kinds and values, which are equal, and it hands locations on to
faults.  So the outcome is the same but for locations, and these correspond as those of the tokens
do.  This is `Respects`, which is proved of the elementary readers once and is carried along
sequences, choices and repetitions.

## Main statements

* `Parser.Respects.typeRef`, `Parser.Respects.document`, `Parser.Respects.status`
* `Parser.Respects.responseTuple`, `Parser.Respects.responseEntries`
* `Parser.Respects.details`, `Parser.Respects.statusDetails`

## Design notes

The relation `R` between locations is arbitrary.  That is what lets one proof serve for several
uses: `R` may say that places are moved from an origin to another, or that they are any two places,
if only the outcome apart from locations is of interest.

`Uniform R` is the case in which values are compared by equality, because no location is kept in
them.  Only attributes remember places, and their values are compared field by field.
-/

namespace OpenResponse

namespace Parser

namespace Respects

variable {α : Type} {R : Location → Location → Prop}

/-! ### Types

The reader of a path looks at its tokens directly, so its names are compared by induction on them.
-/

/-- The names that continue a path do not depend on where they stand. -/
theorem pathTail {tokens others : List Token} :
    List.Forall₂ (Token.Related R) tokens others →
    (OpenResponse.pathTail tokens).1 = (OpenResponse.pathTail others).1 ∧
      List.Forall₂ (Token.Related R) (OpenResponse.pathTail tokens).2
        (OpenResponse.pathTail others).2
  | .nil => ⟨rfl, .nil⟩
  | .cons first .nil => ⟨rfl, .cons first .nil⟩
  | .cons separators (.cons words rests) => by
    have tails := pathTail rests
    rw [OpenResponse.pathTail, OpenResponse.pathTail, separators.kind, words.kind, words.value]
    split
    · exact ⟨congrArg (_ :: ·) tails.1, tails.2⟩
    · exact ⟨rfl, .cons separators (.cons words rests)⟩

private theorem typePath : Uniform R Parser.typePath := by
  have tail : Uniform R Parser.pathNames :=
    fun _ _ same => ⟨(pathTail same.tokens).1, (pathTail same.tokens).2, same.finish⟩
  refine bindEat _ ?_ fun _ _ => ?_ <;>
  · refine (expectAs _ _).bind fun first first' same => ?_
    rw [same.value]
    exact tail.bindEq fun _ => pure rfl

private theorem typeArgument {type : Parser TypeRef} (same : Uniform R type) :
    Uniform R (Parser.typeArgument type) :=
  bindEat _ (same.map fun _ _ => congrArg some) fun _ _ => pure rfl

private theorem typeRefWithin (budget : Nat) : Uniform R (Parser.typeRefWithin budget) := by
  induction budget with
  | zero =>
    refine peek.bind fun token token' same => ?_
    rw [same.describe]
    exact failAt same rfl
  | succ budget ih =>
    refine peek.bind fun token token' same => ?_
    rw [same.kind, same.describe]
    split
    · -- a reference
      refine next.bind fun _ _ _ => ?_
      have target : Uniform R (do
          if (← Parser.peek).isWord "mut" then
            let _ ← Parser.next
          Parser.typeRefWithin budget) := by
        refine peek.bind fun word word' same => ?_
        rw [same.isWord]
        exact ite (next.bind fun _ _ _ => ih) ih
      exact bindEat _ target fun _ _ => target
    · -- a slice or an array
      refine next.bind fun _ _ _ => ih.bindEq fun item => ?_
      have close : Uniform R (do
          let _ ← Parser.expect .closeBracket
          return TypeRef.slice item) := bindExpectAs _ _ fun _ _ => pure rfl
      exact bindEat _ close fun _ _ => bindExpectAs _ _ fun _ _ => close
    · -- the unit type
      refine next.bind fun _ _ _ => peek.bind fun closing closing' same => ?_
      rw [same.kind]
      exact ite (next.bind fun _ _ _ => pure rfl)
        (bind (V := Eq) (failAt same rfl) fun _ _ _ => next.bind fun _ _ _ => pure rfl)
    · -- a path that begins with a name
      refine typePath.bindEq fun path => bindEat _ (pure rfl) fun _ _ => ?_
      exact (separated (typeArgument ih) _ _).bindEq fun _ => pure rfl
    · -- a path that begins at the root
      refine typePath.bindEq fun path => bindEat _ (pure rfl) fun _ _ => ?_
      exact (separated (typeArgument ih) _ _).bindEq fun _ => pure rfl
    · exact failAt same rfl

/-- A type is read alike wherever it stands.  Types have no places, so the two outcomes are the same
type or related faults. -/
theorem typeRef : Uniform R Parser.typeRef := remaining.bindEq typeRefWithin

/-- So is a type that may be marked to be written out. -/
theorem inlineType : Uniform R Parser.inlineType := by
  refine (atWordBefore _ _).bindEq fun marked => ite ?_ (typeRef.bindEq fun _ => pure rfl)
  refine next.bind fun _ _ _ => next.bind fun _ _ _ => typeRef.bindEq fun _ => ?_
  exact bindExpectAs _ _ fun _ _ => pure rfl

/-! ### Statuses and documents

Numbers are read of the values of tokens.  A document in a string is read from its own text, and its
faults are reported at the string. -/

private theorem integerValue {token other : Token} (same : token.Related R other) :
    Respects R Eq (Parser.integerValue token) (Parser.integerValue other) := by
  rw [Parser.integerValue, Parser.integerValue, same.value]
  split
  · exact pure rfl
  · exact failAt same rfl

private theorem lastSegmentWithin
    (budget : Nat) {last other : Token} (same : last.Related R other) :
    Respects R (Token.Related R) (Parser.lastSegmentWithin budget last)
      (Parser.lastSegmentWithin budget other) := by
  induction budget generalizing last other with
  | zero => exact pure same
  | succ budget ih =>
    refine bindEat _ (pure same) fun _ _ => ?_
    exact (expectAs _ _).bind fun _ _ same => ih same

/-- A status is read alike wherever it stands.  What is resolved is the same key, since it only
depends on the kinds and values of tokens. -/
theorem status : Uniform R Parser.status := by
  refine peek.bind fun token token' same => ?_
  rw [same.kind, same.value]
  -- the greatest number that is written is not to be computed
  generalize Nat.pow 10 decimalLimit = limit
  split
  · refine next.bind fun _ _ _ => (integerValue same).bindEq fun value => ?_
    exact ite (bind (V := Eq) (throwNowhere rfl) fun _ _ _ => pure rfl) (pure rfl)
  · refine next.bind fun _ _ _ => ite (pure rfl) ?_
    exact bind (V := Eq) (failAt same rfl) fun _ _ _ => pure rfl
  · refine next.bind fun _ _ first => remaining.bindEq fun budget => ?_
    refine (lastSegmentWithin budget first).bind fun last last' same => ?_
    rw [same.value]
    split
    · exact pure rfl
    · exact failAt same rfl
  · exact failExpected _

private theorem numeral (negative : Bool) : Uniform R (Parser.numeral negative) := by
  refine peek.bind fun token token' same => ?_
  rw [same.kind, same.value]
  split
  · exact next.bind fun _ _ _ => (integerValue same).bindEq fun _ => pure rfl
  · refine next.bind fun _ _ _ => ?_
    split
    · exact pure rfl
    · exact failAt same rfl
  · exact failExpected _

private theorem number :
    Uniform R Parser.number := bindEat _ (numeral false) fun _ _ => numeral true

private theorem member {value : Parser Document} (same : Uniform R value) :
    Uniform R (Parser.member value) := by
  refine (expectAs _ _).bind fun name name' names => bindExpectAs _ _ fun _ _ => ?_
  rw [names.value]
  exact same.bindEq fun _ => pure rfl

private theorem documentWithin (budget : Nat) : Uniform R (Parser.documentWithin budget) := by
  induction budget with
  | zero => exact failExpected _
  | succ budget ih =>
    refine peek.bind fun token token' same => ?_
    rw [same.kind, same.value]
    split
    · exact next.bind fun _ _ _ => (separated (member ih) _ _).bindEq fun _ => pure rfl
    · exact next.bind fun _ _ _ => (separated ih _ _).bindEq fun _ => pure rfl
    · exact next.bind fun _ _ _ => pure rfl
    · exact number
    · exact number
    · exact number
    · split
      · exact next.bind fun _ _ _ => pure rfl
      · exact failExpected _
    · exact failExpected _

/-- A document is read alike wherever it stands.  Documents have no places. -/
theorem document : Uniform R Parser.document := remaining.bindEq documentWithin

private theorem embeddedDocument : Uniform R Parser.embeddedDocument := by
  refine peek.bind fun token token' same => ?_
  rw [same.kind]
  split
  · refine next.bind fun _ _ _ => document.bindEq fun _ => ?_
    exact bindExpectAs _ _ fun _ _ => pure rfl
  · exact document
  · exact document
  · exact failExpected _

private theorem anyValue : Uniform R Parser.anyValue := by
  refine peek.bind fun token token' same => ?_
  rw [same.kind, same.value, same.isWord, same.isWord]
  refine ite (next.bind fun _ _ _ => pure rfl) ((atWordBefore _ _).bindEq fun _ => ?_)
  exact ite (next.bind fun _ _ _ => next.bind fun _ _ _ => embeddedDocument)
    (ite document (failExpected _))

theorem assignedString : Uniform R Parser.assignedString :=
  bindExpectAs _ _ fun _ _ => (expect _).bind fun _ _ same => same.value ▸ pure rfl

theorem exampleValue : Uniform R Parser.exampleValue := bindExpectAs _ _ fun _ _ => anyValue

theorem assignedStatus : Uniform R Parser.assignedStatus := bindExpectAs _ _ fun _ _ => status

/-! ### The parts of a response

Here nothing is left to do but to follow the readers. -/

theorem bodyType : Uniform R Parser.bodyType := by
  refine (atWordBefore _ _).bindEq fun _ => ite ?_ (inlineType.bindEq fun _ => pure rfl)
  refine next.bind fun _ _ _ => next.bind fun _ _ _ => ?_
  refine (expectAs _ _).bind fun target target' same => ?_
  rw [same.value]
  exact bindExpectAs _ _ fun _ _ => pure rfl

theorem contentTypes : Uniform R Parser.contentTypes := by
  refine bindExpectAs _ _ fun _ _ => peek.bind fun token token' same => ?_
  rw [same.kind, same.value]
  split
  · exact next.bind fun _ _ _ => pure rfl
  · refine next.bind fun _ _ _ => separated ?_ _ _
    exact (expect _).bind fun _ _ same => same.value ▸ pure rfl
  · exact failExpected _

private theorem headerDescription : Uniform R Parser.headerDescription := by
  have described : Uniform R (do
      let description ← Parser.assignedString
      let _ ← Parser.eat .comma
      return some description) :=
    assignedString.bindEq fun _ => bindEat _ (pure rfl) fun _ _ => pure rfl
  refine bindEat _ (pure rfl) fun _ _ => peek.bind fun word word' same => ?_
  rw [same.kind]
  refine ite (next.bind fun key key' same => ?_) (pure rfl)
  rw [same.value]
  exact ite described (bind (V := Eq) (failAt same rfl) fun _ _ _ => described)

private theorem header : Uniform R Parser.header := by
  have rest (name : String) (type : Option InlineType) : Uniform R (do
      let description ← Parser.headerDescription
      let _ ← Parser.expectAs .closeParen "`)` closing header"
      return Header.mk name type description) :=
    headerDescription.bindEq fun _ => bindExpectAs _ _ fun _ _ => pure rfl
  refine bindExpectAs _ _ fun _ _ => (expectAs _ _).bind fun name name' same => ?_
  rw [same.value]
  refine bindEat _ (rest _ none) fun _ _ => ?_
  exact (inlineType.map fun _ _ => congrArg some).bindEq fun _ => rest _ _

theorem headers : Uniform R Parser.headers :=
  bindEat _ (group header) fun _ _ => group header

/-- A handler that sets a part of a state to a value that does not depend on locations. -/
theorem setter {σ : Type} {parser : Parser α} (same : Uniform R parser)
    (set : α → σ → σ) : Handles R Eq fun _ state => do return set (← parser) state := by
  rintro _ _ _ state _ rfl
  exact same.bindEq fun _ => pure rfl

private theorem namedExample : Uniform R Parser.namedExample := by
  refine bindExpectAs _ _ fun _ _ => (expectAs _ _).bind fun name name' same => ?_
  rw [same.value]
  refine bindExpectAs _ _ fun _ _ => bindExpectAs _ _ fun _ _ => ?_
  have handled : ∀ entry ∈ exampleKeys, Handles R Eq entry.2 := by
    simp only [exampleKeys, List.forall_mem_cons, List.not_mem_nil, false_imp_iff, implies_true,
      and_true]
    exact ⟨setter assignedString fun text (entry : Example) => { entry with summary := some text },
      setter assignedString fun text (entry : Example) => { entry with description := some text },
      setter exampleValue fun value (entry : Example) => { entry with value := some value },
      setter assignedString fun text (entry : Example) => { entry with externalValue := some text }⟩
  refine (keyed handled _ rfl).bindEq fun entry => bindExpectAs _ _ fun _ _ => ?_
  have close : Uniform R (do
      let _ ← Parser.expectAs .closeParen "`)` closing example"
      return entry) := bindExpectAs _ _ fun _ _ => pure rfl
  exact bindEat _ close fun _ _ => close

theorem examples : Uniform R Parser.examples :=
  bindEat _ (group namedExample) fun _ _ => group namedExample

private theorem contentVariant : Uniform R Parser.contentVariant := by
  refine bindExpectAs _ _ fun _ _ => (expectAs _ _).bind fun name name' same => ?_
  rw [same.value]
  refine bindExpectAs _ _ fun _ _ => bodyType.bindEq fun body => ?_
  have handled : ∀ entry ∈ variantKeys, Handles R Eq entry.2 := by
    simp only [variantKeys, List.forall_mem_cons, List.not_mem_nil, false_imp_iff, implies_true,
      and_true]
    exact ⟨setter exampleValue fun value (variant : ContentVariant) =>
        { variant with sample := some value },
      setter examples fun list (variant : ContentVariant) => { variant with examples := some list }⟩
  have close (variant : ContentVariant) : Uniform R (do
      let _ ← Parser.expectAs .closeParen "`)` closing content"
      return variant) := bindExpectAs _ _ fun _ _ => pure rfl
  exact bindEat _ (close _) fun _ _ => (keyed handled _ rfl).bindEq close

theorem content : Uniform R Parser.content :=
  bindEat _ (group contentVariant) fun _ _ => group contentVariant

/-! ### Response tuples

A conflict is a fault at the place of a key, which its handler is given. -/

private theorem changeValue {here there : Location} (moved : R here there) (draft : TupleDraft)
    (change : ResponseValue → ResponseValue) :
    Respects R Eq (Parser.changeValue here draft change)
      (Parser.changeValue there draft change) :=
  ite (bind (V := Eq) (throwFound moved rfl) fun _ _ _ => pure rfl) (pure rfl)

private theorem valueKey {parser : Parser α} (same : Uniform R parser)
    (set : α → ResponseValue → ResponseValue) : Handles R Eq (Parser.valueKey parser set) := by
  rintro _ _ moved draft _ rfl
  exact same.bindEq fun _ => changeValue moved draft _

private theorem bodyKey : Handles R Eq Parser.bodyKey := by
  rintro _ _ moved draft _ rfl
  refine (changeValue moved draft _).bindEq fun draft => bindExpectAs _ _ fun _ _ => ?_
  exact bodyType.bindEq fun _ => changeValue moved draft _

private theorem referenceKey : Handles R Eq Parser.referenceKey := by
  rintro _ _ moved draft _ rfl
  refine bindExpectAs _ _ fun _ _ => inlineType.bindEq fun type => ite ?_ (pure rfl)
  exact bind (V := Eq) (throwFound moved rfl) fun _ _ _ => pure rfl

/-- A response tuple is read alike wherever it stands.  A conflict is at the place of its key, which
is moved with the text. -/
theorem responseTuple : Uniform R Parser.responseTuple := by
  have handled : ∀ entry ∈ tupleKeys, Handles R Eq entry.2 := by
    simp only [tupleKeys, List.forall_mem_cons, List.not_mem_nil, false_imp_iff, implies_true,
      and_true]
    exact ⟨setter assignedStatus fun status (draft : TupleDraft) =>
        { draft with status := some status },
      valueKey assignedString _, bodyKey, valueKey contentTypes _, valueKey headers _,
      valueKey exampleValue _, valueKey examples _, valueKey content _, referenceKey⟩
  refine (expectAs _ _).bind fun opening opening' same => ?_
  refine (keyed handled _ rfl).bindEq fun draft => ?_
  have close : Uniform R (do
      let _ ← Parser.expect .closeParen
      return draft.descriptor) := bindExpectAs _ _ fun _ _ => pure rfl
  exact ite (bind (V := Eq) (failAt same rfl) fun _ _ _ => close) close

private theorem responseEntry : Uniform R Parser.responseEntry := by
  refine peek.bind fun token token' same => ?_
  rw [same.kind]
  exact ite (responseTuple.bindEq fun _ => pure rfl) (typeRef.bindEq fun _ => pure rfl)

private theorem responseEntriesWithin (budget : Nat) :
    Uniform R (Parser.responseEntriesWithin budget) := by
  induction budget with
  | zero => exact pure rfl
  | succ budget ih =>
    refine atEnd.bindEq fun ended => ite (pure rfl) (responseEntry.bindEq fun entry => ?_)
    refine atEnd.bindEq fun ended => ite (ih.bindEq fun _ => pure rfl) ?_
    exact bindExpectAs _ _ fun _ _ => ih.bindEq fun _ => pure rfl

/-- So is a list of responses.  The places of its faults are those of the tokens that they are
about. -/
theorem responseEntries : Uniform R Parser.responseEntries :=
  remaining.bindEq responseEntriesWithin

end Respects

end Parser

/-! ### Attributes of declarations

What an attribute says holds the places of its two keys for examples.  They are used for faults that
are found later, when it is known what the attribute belongs to. -/

/-- What two attributes say that differ in the places of their examples alone. -/
structure Details.Related (R : Location → Location → Prop) (details other : Details) : Prop where
  contentTypes : details.contentTypes = other.contentTypes
  headers : details.headers = other.headers
  description : details.description = other.description
  sample : details.sample = other.sample
  examples : details.examples = other.examples
  sampleAt : Option.Rel R details.sampleAt other.sampleAt
  examplesAt : Option.Rel R details.examplesAt other.examplesAt

/-- What two attributes with a status say that differ in the places of their examples alone. -/
structure StatusDetails.Related (R : Location → Location → Prop) (value other : StatusDetails) :
    Prop where
  status : value.status = other.status
  details : value.details.Related R other.details

/-- An attribute that says nothing remembers no places. -/
theorem Details.Related.empty (R : Location → Location → Prop) : Details.empty.Related R .empty :=
  ⟨rfl, rfl, rfl, rfl, rfl, .none, .none⟩

namespace Parser.Respects

variable {R : Location → Location → Prop}

private theorem detailKeys :
    ∀ entry ∈ Parser.detailKeys, Handles R (Details.Related R) entry.2 := by
  simp only [Parser.detailKeys, List.forall_mem_cons, List.not_mem_nil, false_imp_iff,
    implies_true, and_true]
  refine ⟨?_, ?_, ?_, ?_, ?_⟩ <;> intro here there moved details details' same
  · exact assignedString.bindEq fun _ => pure { same with description := rfl }
  · exact contentTypes.bindEq fun _ => pure { same with contentTypes := rfl }
  · exact headers.bindEq fun _ => pure { same with headers := rfl }
  · exact exampleValue.bindEq fun _ => pure { same with sample := rfl, sampleAt := .some moved }
  · exact examples.bindEq fun _ => pure { same with examples := rfl, examplesAt := .some moved }

/-- Attributes remember corresponding places, and say the same otherwise.  The places are those of
the keys for examples. -/
theorem details : Respects R (Details.Related R) Parser.details Parser.details :=
  keyed detailKeys _ (.empty R)

/-- The state of the keys of an attribute with a status. -/
def StatusState (R : Location → Location → Prop) (state other : Option String × Details) : Prop :=
  state.1 = other.1 ∧ state.2.Related R other.2

private theorem statusDetailKeys :
    ∀ entry ∈ Parser.statusDetailKeys, Handles R (StatusState R) entry.2 := by
  rw [Parser.statusDetailKeys]
  refine List.forall_mem_cons.mpr ⟨?_, ?_⟩
  · intro here there moved state state' same
    exact assignedStatus.bindEq fun _ => pure ⟨rfl, same.2⟩
  · intro entry member here there moved state state' same
    obtain ⟨inner, inside, rfl⟩ := List.mem_map.mp member
    refine (detailKeys inner inside here there moved _ _ same.2).bind fun _ _ details => ?_
    exact pure ⟨same.1, details⟩

/-- So do attributes that give the status.  The status itself has no place. -/
theorem statusDetails :
    Respects R (StatusDetails.Related R) Parser.statusDetails Parser.statusDetails := by
  refine peek.bind fun first first' firstSame => ?_
  refine (keyed statusDetailKeys _ ⟨rfl, .empty R⟩).bind fun state state' same => ?_
  obtain ⟨status, details⟩ := state
  obtain ⟨status', details'⟩ := state'
  obtain ⟨rfl, detailsSame⟩ := same
  cases status with
  | none => exact failAt firstSame rfl
  | some status => exact pure ⟨rfl, detailsSame⟩

end Parser.Respects

end OpenResponse
