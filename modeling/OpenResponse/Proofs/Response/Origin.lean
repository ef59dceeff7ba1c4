import OpenResponse.Proofs.Response.Relocation
import OpenResponse.Proofs.Token.Origin

/-!
# Origins only move locations

A text of the attribute language is read where it stands in a source, so that faults point into the
source.  Here the place is shown to decide nothing else.  Two runs on one text that begin at
different places end alike: what the second returns is what the first returns, and its fault is the
fault of the first, with every location moved from the one origin to the other.  A location is moved
by as many lines as the origin is, and on the first line by as many columns, because a line feed
begins the next line at its first column wherever the text began.

That the faults are faults of the text is stated beside it: each of them stands at a place which the
text reaches from its origin.  Only the two faults over numbers out of range have no place, and they
are no diagnostics of the attribute language.

Nothing is said about locations themselves while a reader is looked at.  The two runs read tokens
that are the same but for their places, and a reader respects any relation between places whatever:
its values are the same, or hold related places, and its faults are at related places.  The relation
is chosen at the end.  It says that two places are reached by the same part of the text, and from it
both results follow: such places are moved from one origin to the other, and the first of them is
reached from its origin.

## Main definitions

* `Location.moved`, `Fault.moved`, `Details.moved`, `StatusDetails.moved` — the same, with every
  location moved from one origin to another
* `Location.Reaches` — the places in a text
* `MovesWithOrigin` — readers whose outcomes are moved by their origins

## Main statements

* `Location.moved_behind` — what a text reaches is moved with its origin
* `MovesWithOrigin.runOn` — the readers of the attribute language
* `origins_move_locations` — **origins only move locations**

## Hypotheses

Nothing is assumed of texts and origins.  In particular the origin may have any column, also one
that no text begins at.

`located` asks that a fault is a diagnostic.  The two other faults, a number too great to be shown
and an escape out of range, carry no place at all; the first part of the statement covers them too,
since a fault without a place is not changed by moving.
-/

namespace OpenResponse

namespace Location

/-! ### Moving locations

A location on the first line keeps its distance from the origin, any other keeps its column.
Differences of natural numbers are cut off at zero, so places in front of the origin are not moved
rightly; the lemmas are about places not before it, and a text reaches no others. -/

/-- The location that takes the place of `here` when a text is moved from one origin to another. -/
def moved (here origin other : Location) : Location where
  line := other.line + (here.line - origin.line)
  column :=
    if here.line = origin.line then other.column + (here.column - origin.column) else here.column

/-- A location is not before another one in a text. -/
def NotBefore (origin here : Location) : Prop :=
  origin.line < here.line ∨ origin.line = here.line ∧ origin.column ≤ here.column

variable {origin here : Location}

/-- The origin is not before itself. -/
theorem NotBefore.refl (origin : Location) : NotBefore origin origin := .inr ⟨rfl, Nat.le_refl _⟩

/-- Reading a character does not go back. -/
theorem NotBefore.next (after : NotBefore origin here) (c : Char) :
    NotBefore origin (here.next c) := by
  unfold NotBefore Location.next at *
  split
  · left
    simp only
    omega
  · simp only
    omega

/-- Moving from an origin to another takes the one to the other. -/
@[simp]
theorem moved_self (origin other : Location) : origin.moved origin other = other := by
  simp [moved]

/-- Reading a character commutes with moving the text. -/
theorem moved_next (after : NotBefore origin here) (other : Location) (c : Char) :
    (here.next c).moved origin other = (here.moved origin other).next c := by
  unfold NotBefore at after
  unfold moved Location.next
  by_cases feed : c = '\n'
  · have below : here.line + 1 ≠ origin.line := by omega
    simp only [if_pos feed, if_neg below, mk.injEq, and_true]
    omega
  · simp only [if_neg feed, mk.injEq, true_and]
    split <;> omega

/-- What a text reaches is moved with its origin.  Lines are shifted by the same number, and columns
only on the first line of the text. -/
theorem moved_behind (origin other : Location) (text : List Char) :
    (origin.behind text).moved origin other = other.behind text := by
  have along (text : List Char) : ∀ {here : Location}, NotBefore origin here →
      (here.behind text).moved origin other = (here.moved origin other).behind text := by
    induction text with
    | nil =>
      intro here after
      rfl
    | cons c rest ih =>
      intro here after
      rw [behind_cons, behind_cons, ih (after.next c), moved_next after]
  rw [along text (.refl origin), moved_self]

/-- The text that begins at `origin` reaches a place: it is the origin advanced over what stands in
front of the place. -/
def Reaches (origin : Location) (text : String) (here : Location) : Prop :=
  ∃ front, front <+: text.toList ∧ here = origin.behind front

end Location

/-- A fault whose location is moved.  Its cause stays, and a fault without a place stays as it is.
-/
def Fault.moved (origin other : Location) (fault : Fault) : Fault :=
  { fault with location := fault.location.map (·.moved origin other) }

/-- What an attribute says, with the places of its examples moved.  Nothing else in it has a place.
-/
def Details.moved (origin other : Location) (details : Details) : Details :=
  { details with
    sampleAt := details.sampleAt.map (·.moved origin other)
    examplesAt := details.examplesAt.map (·.moved origin other) }

/-- What an attribute with a status says, with the places of its examples moved. -/
def StatusDetails.moved (origin other : Location) (value : StatusDetails) : StatusDetails :=
  { value with details := value.details.moved origin other }

/-- Whether faults of a family are diagnostics of the attribute language.  The others are those of
the surroundings: files, settings, and numbers that are out of range. -/
def FaultKind.isDiagnostic : FaultKind → Bool
  | grammar | conflict | resolution | shape => true
  | _ => false

/-- A reader whose outcome is moved by its origin.  Both what it reads and the fault that it ends
with are moved, and it fails at one origin exactly if it does at the other. -/
structure MovesWithOrigin {α : Type} (move : Location → Location → α → α)
    (read : Location → String → Except Fault α) : Prop where
  /-- Two runs differ in locations alone, and these are moved from the one origin to the other. -/
  moved : ∀ origin other text,
    read other text = (move origin other <$> read origin text).mapError (Fault.moved origin other)
  /-- A diagnostic stands at a place in the text. -/
  located : ∀ origin text fault, read origin text = .error fault →
    fault.kind.isDiagnostic = true →
      ∃ here, fault.location = some here ∧ origin.Reaches text here

/-! ### Two runs on one text

From the relation between places to equations: what is related is moved, for faults and for the
places that attributes remember. -/

/-- Two places that one text reaches from two origins. -/
def SamePlace (text : String) (origin other here there : Location) : Prop :=
  ∃ front, front <+: text.toList ∧ here = origin.behind front ∧ there = other.behind front

section SamePlace

variable {text : String} {origin other here there : Location}

private theorem alongside_samePlace (text : String) (origin other : Location) :
    Alongside (SamePlace text origin other) origin other text.toList :=
  fun front begins => ⟨front, begins, rfl, rfl⟩

/-- Places that correspond are moved from one origin to the other. -/
theorem SamePlace.moved (same : SamePlace text origin other here there) :
    there = here.moved origin other := by
  obtain ⟨front, -, rfl, rfl⟩ := same
  rw [Location.moved_behind]

/-- Places that are remembered, if there are any. -/
theorem SamePlace.moved_of_rel {kept kept' : Option Location}
    (same : Option.Rel (SamePlace text origin other) kept kept') :
    kept' = kept.map (·.moved origin other) := by
  cases same with
  | none => rfl
  | some place => rw [place.moved, Option.map_some]

end SamePlace

namespace Fault.Related

variable {text : String} {origin other : Location} {fault fault' : Fault}

/-- A number out of range is no diagnostic. -/
theorem not_isDiagnostic_of_isRange {cause : Cause} (range : cause.isRange = true) :
    cause.kind.isDiagnostic = false := by
  cases cause <;> first | rfl | cases range

/-- The relation determines the second fault: a place of a text, read from another origin, is its
place moved. -/
theorem moved (same : fault.Related (SamePlace text origin other) fault') :
    fault' = fault.moved origin other := by
  cases same with
  | found place _ => rw [place.moved]; rfl
  | nowhere _ => rfl

/-- A diagnostic of reading a text stands in the text. -/
theorem located (same : fault.Related (SamePlace text origin other) fault')
    (diagnostic : fault.kind.isDiagnostic = true) :
    ∃ here, fault.location = some here ∧ origin.Reaches text here := by
  cases same with
  | @found here _ _ place _ =>
    obtain ⟨front, begins, reached, -⟩ := place
    exact ⟨here, rfl, front, begins, reached⟩
  | nowhere range =>
    have never := (not_isDiagnostic_of_isRange range).symm.trans diagnostic
    cases never

end Fault.Related

/-- Attributes that are related are those of one text, moved.  Only the places of examples can
differ, as nothing else in details has a place. -/
theorem Details.Related.moved {text : String} {origin other : Location} {details details' : Details}
    (same : details.Related (SamePlace text origin other) details') :
    details' = details.moved origin other := by
  obtain ⟨contentTypes, headers, description, sample, examples, sampleAt, examplesAt⟩ := same
  rw [Details.moved, ← SamePlace.moved_of_rel sampleAt, ← SamePlace.moved_of_rel examplesAt,
    contentTypes, headers, description, sample, examples]

/-- With a status they are moved in the same way.  Nothing about the status has a place. -/
theorem StatusDetails.Related.moved {text : String} {origin other : Location}
    {value value' : StatusDetails} (same : value.Related (SamePlace text origin other) value') :
    value' = value.moved origin other := by
  rw [StatusDetails.moved, ← same.details.moved, same.status]

/-! ### Readers

Two of the readers keep places in their values, the other four do not.  For these the values of both
runs are equal. -/

namespace MovesWithOrigin

variable {α : Type} {parser : Parser α}

/-- A reader whose values are moved as the places in the text are.  So a reader only has to be
looked at for what it does with places. -/
theorem runOn {V : (Location → Location → Prop) → α → α → Prop}
    {move : Location → Location → α → α} (respects : ∀ R, parser.Respects R (V R) parser)
    (moves : ∀ {text origin other value value'}, V (SamePlace text origin other) value value' →
      value' = move origin other value) : MovesWithOrigin move parser.runOn where
  moved origin other text := by
    have runs : Alike (SamePlace text origin other) (V (SamePlace text origin other))
        (parser.runOn origin text) (parser.runOn other text) :=
      Alike.runOn (respects _) (alongside_samePlace text origin other)
    generalize parser.runOn origin text = first at runs
    generalize parser.runOn other text = second at runs
    cases runs with
    | ok values => rw [moves values]; rfl
    | error faults => rw [faults.moved]; rfl
  located origin text fault failed diagnostic := by
    have runs : Alike (SamePlace text origin origin) (V (SamePlace text origin origin))
        (parser.runOn origin text) (parser.runOn origin text) :=
      Alike.runOn (respects _) (alongside_samePlace text origin origin)
    obtain ⟨fault', -, faults⟩ := Alike.eq_error (failed ▸ runs)
    exact faults.located diagnostic

/-- A reader whose values remember no places. -/
theorem uniform (same : ∀ R, Parser.Uniform R parser) :
    MovesWithOrigin (fun _ _ => id) parser.runOn :=
  runOn (V := fun _ => Eq) same fun equal => equal.symm

/-- A reader of a whole text whose values remember no places. -/
theorem uniformAll (same : ∀ R, Parser.Uniform R parser) :
    MovesWithOrigin (fun _ _ => id) parser.runOnAll :=
  uniform fun R => (same R).bindEq fun _ =>
    Parser.Respects.expectEnd.bindEq fun _ => Parser.Respects.pure rfl

end MovesWithOrigin

/-- **Origins only move locations.**  For each reader of the attribute language two runs on one text
end alike, but for locations: the places that an attribute remembers and the places of faults move
with the origin, by its lines, and by its columns on the first line of the text.  And every
diagnostic has a place, which the text reaches from its origin. -/
theorem origins_move_locations :
    MovesWithOrigin (fun _ _ => id) readResponseTuple ∧
      MovesWithOrigin (fun _ _ => id) readResponses ∧
      MovesWithOrigin (fun origin other details => details.moved origin other) readDetails ∧
      MovesWithOrigin (fun origin other value => value.moved origin other) readStatusDetails ∧
      MovesWithOrigin (fun _ _ => id) readTypeRef ∧
      MovesWithOrigin (fun _ _ => id) resolveStatus :=
  ⟨.uniformAll fun _ => Parser.Respects.responseTuple,
    .uniform fun _ => Parser.Respects.responseEntries,
    .runOn (fun _ => Parser.Respects.details) fun same => same.moved,
    .runOn (fun _ => Parser.Respects.statusDetails) fun same => same.moved,
    .uniformAll fun _ => Parser.Respects.typeRef,
    .uniformAll fun _ => Parser.Respects.status⟩

end OpenResponse
