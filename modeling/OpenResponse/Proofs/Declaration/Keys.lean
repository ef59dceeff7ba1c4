import OpenResponse.Proofs.Declaration.Merging

/-!
# The keys of attributes

What attributes say together has no places but those of the examples.  The attributes themselves are
lists of keys, each of which is written somewhere; so here all keys of a list of attributes are put
one behind the other, and an example is found where its key stands last among them.

The example that counts is that of the last attribute with one, and within the attribute that of the
last key; both steps pick what comes last, so together they pick the last of all.

Merging is described elsewhere: every part of what attributes say is what the last of them gives.
Reading an attribute is described by its keys: every part of what it says is what the last of its
keys sets.  The two descriptions have the same form, and put one into the other they say that a part
is what the last key of all sets.

## Main definitions

* `Attribute.Sets`, `AttributesSet` — the keys of one attribute and of a list of them
* `lastPlace` — the place where a key stands last

## Main statements

* `Readable.exists_sets` — attributes that can be read are lists of keys
* `placedSample?_merged`, `placedExamples?_merged` — examples are those of the last key

## Hypotheses

The part that is followed is any of which both descriptions hold, with `pick` for what a key sets.
It is used for the two parts that are placed, an example and named examples; the place goes with the
value, so that the value and its place come from the same key.

The attributes have to be readable, as the keys of one that is not are not known.
-/

namespace OpenResponse

open OpenResponse.Parser

/-- The keys of an attribute, with their places and what they set. -/
def Attribute.Sets (attr : Attribute) (placed : List (Location × ValueSetting)) : Prop :=
  ∃ tokens, scan attr.location attr.arguments.toList = .ok tokens ∧
    KeyList (keyForm detailTable) tokens placed

/-- The keys of the response attributes of a list, in their order. -/
def AttributesSet (attributes : List Attribute) (placed : List (Location × ValueSetting)) : Prop :=
  ∃ lists, List.Forall₂ Attribute.Sets (attributes.filter (·.name == "response")) lists ∧
    lists.flatten = placed

/-- The place where a key stands last.  It is the place that a fault about the key names. -/
def lastPlace (placed : List (Location × ValueSetting)) (key : String) : Option Location :=
  ((placed.filter (·.2.key == key)).map (·.1)).getLast?

/-- Attributes that can be read are lists of keys.  Merging them is then the same as setting the
keys one after the other, in one attribute or in many. -/
theorem Readable.exists_sets {attributes : List Attribute}
    (readable : Readable readDetails attributes) : ∃ placed, AttributesSet attributes placed := by
  obtain ⟨values, readAs⟩ := readable.exists_readAs
  suffices lists : ∃ lists, List.Forall₂ Attribute.Sets
      (attributes.filter (·.name == "response")) lists by
    obtain ⟨lists, each⟩ := lists
    exact ⟨_, lists, each, rfl⟩
  rw [ReadAs] at readAs
  generalize attributes.filter (·.name == "response") = responses at readAs
  induction readAs with
  | nil => exact ⟨[], .nil⟩
  | cons read _ ih =>
    obtain ⟨lists, others⟩ := ih
    obtain ⟨tokens, scanned, placed, list, -⟩ := readDetails_eq_ok.mp read
    exact ⟨placed :: lists, .cons ⟨tokens, scanned, list⟩ others⟩

/-- Every key of an attribute sets something. -/
theorem exists_onDetails {key : String} {tokens : List Token} {setting : ValueSetting}
    (written : keyForm detailTable key tokens setting) (here : Location) (state : Details) :
    ∃ later, setting.onDetails here state = some later := by
  obtain ⟨form, found, isSetting⟩ := written
  have line := mem_of_lookup found
  simp only [detailTable, List.mem_cons, List.not_mem_nil, or_false, Prod.mk.injEq] at line
  rcases line with ⟨-, rfl⟩ | ⟨-, rfl⟩ | ⟨-, rfl⟩ | ⟨-, rfl⟩ | ⟨-, rfl⟩ <;>
  · obtain ⟨value, -, rfl⟩ := Form.map_iff.mp isSetting
    exact ⟨_, rfl⟩

/-- The keys of an attribute are all applied. -/
theorem exists_applyAll {tokens : List Token} {placed : List (Location × ValueSetting)}
    (list : KeyList (keyForm detailTable) tokens placed) (state : Details) :
    ∃ later, applyAll ValueSetting.onDetails placed state = some later := by
  induction list generalizing state with
  | nil => exact ⟨state, rfl⟩
  | @last key _ _ _ written =>
    obtain ⟨later, first⟩ := exists_onDetails written key.location state
    exact ⟨later, Option.bind_eq_some_iff.mpr ⟨later, first, rfl⟩⟩
  | @cons key _ _ _ _ _ _ written _ _ ih =>
    obtain ⟨middle, first⟩ := exists_onDetails written key.location state
    obtain ⟨later, others⟩ := ih middle
    exact ⟨later, Option.bind_eq_some_iff.mpr ⟨middle, first, others⟩⟩

/-- What an attribute is read as is what its keys set, one after the other. -/
theorem Attribute.Sets.applied {attr : Attribute} {placed : List (Location × ValueSetting)}
    {value : Details} (sets : attr.Sets placed)
    (read : readDetails attr.location attr.arguments = .ok value) :
    applyAll ValueSetting.onDetails placed .empty = some value := by
  obtain ⟨tokens, scanned, list⟩ := sets
  obtain ⟨later, applied⟩ := exists_applyAll list .empty
  cases read.symm.trans (readDetails_eq_ok.mpr ⟨tokens, scanned, placed, list, applied⟩)
  exact applied

/-! ### The last key

What is picked last from a list of lists is what is picked last from all of them together.  Lists
without anything to pick do not count. -/

section Last

variable {γ : Type} {part : Details → Option γ} {pick : Location × ValueSetting → Option γ}

/-- A part that a setting either leaves alone or replaces is what is picked from the settings last.
-/
theorem part_applyAll
    (set : ∀ here setting (state later : Details), setting.onDetails here state = some later →
      part later = (pick (here, setting)).or (part state))
    {placed : List (Location × ValueSetting)} {state later : Details}
    (applied : applyAll ValueSetting.onDetails placed state = some later) :
    part later = (placed.filterMap pick).getLast?.or (part state) := by
  induction placed generalizing state with
  | nil =>
    cases applied
    rfl
  | cons entry placed ih =>
    obtain ⟨here, setting⟩ := entry
    obtain ⟨middle, first, others⟩ := Option.bind_eq_some_iff.mp applied
    rw [ih others, set here setting state middle first, List.filterMap_cons]
    cases pick (here, setting) with
    | none => rfl
    | some picked =>
      dsimp only
      rw [List.getLast?_cons, ← Option.or_some, Option.or_assoc, Option.some_or]

/-- What is picked last from lists is what is picked last from all that they hold. -/
theorem getLast?_filterMap_flatten {α : Type} (pick : α → Option γ) (lists : List (List α)) :
    (lists.filterMap fun list => (list.filterMap pick).getLast?).getLast? =
      (lists.flatten.filterMap pick).getLast? := by
  induction lists using List.reverseRecOn with
  | nil => rfl
  | append_singleton lists list ih =>
    rw [List.filterMap_append, List.flatten_append, List.filterMap_append, List.getLast?_append,
      List.getLast?_append, ih, List.flatten_singleton, List.filterMap_cons]
    cases (list.filterMap pick).getLast? <;> rfl

/-- A part that the last attribute gives and the last key sets is given by the last key of all. -/
theorem part_merged
    (step : ∀ earlier later, part (earlier.merge later) = (part later).or (part earlier))
    (set : ∀ here setting (state later : Details), setting.onDetails here state = some later →
      part later = (pick (here, setting)).or (part state))
    (absent : part .empty = none) {attributes : List Attribute} {said : Option Details}
    {placed : List (Location × ValueSetting)} (merged : mergedDetails attributes = .ok said)
    (sets : AttributesSet attributes placed) :
    part (said.getD .empty) = (placed.filterMap pick).getLast? := by
  obtain ⟨lists, each, rfl⟩ := sets
  rw [mergedDetails, foldAttributes_eq, map_eq_ok] at merged
  obtain ⟨values, read, rfl⟩ := merged
  rw [mapM_eq_ok] at read
  -- attribute by attribute, what is given is what the last key sets
  have lasts : values.filterMap part =
      lists.filterMap fun list => (list.filterMap pick).getLast? := by
    generalize attributes.filter (·.name == "response") = responses at each read
    induction each generalizing values with
    | nil =>
      cases read
      rfl
    | cons first _ ih =>
      obtain ⟨value, others, isValue, othersRead, rfl⟩ := List.forall₂_cons_left_iff.mp read
      have given := part_applyAll set (first.applied isValue)
      rw [absent, Option.or_none] at given
      rw [List.filterMap_cons, List.filterMap_cons, given, ih others othersRead]
  rw [← getLast?_filterMap_flatten, ← lasts]
  cases values with
  | nil => exact absent
  | cons first rest => exact getLast?_mergeAll part step first rest

end Last

/-! ### The places of examples

A key that sets an example has one name, so the place of what was picked last is the place where
that name stands last. -/

section Places

variable {attributes : List Attribute} {said : Option Details}
  {placed : List (Location × ValueSetting)}

/-- The example that a key sets, with the place of the key. -/
def pickSample : Location × ValueSetting → Option (Document × Option Location)
  | (here, .sample value) => some (value, some here)
  | _ => none

/-- The named examples that a key sets, with the place of the key. -/
def pickExamples : Location × ValueSetting → Option (List Example × Option Location)
  | (here, .examples entries) => some (entries, some here)
  | _ => none

/-- The example is that of the last key for one.  With it comes its place, which is the one that a
fault of a whole enum names. -/
theorem placedSample?_merged (merged : mergedDetails attributes = .ok said)
    (sets : AttributesSet attributes placed) :
    (said.getD .empty).placedSample? = (placed.filterMap pickSample).getLast? := by
  refine part_merged Details.placedSample?_merge ?_ rfl merged sets
  rintro here (_ | _ | _ | _ | _ | _ | _) state later ⟨⟩ <;> rfl

/-- The named examples are those of the last key for some. -/
theorem placedExamples?_merged (merged : mergedDetails attributes = .ok said)
    (sets : AttributesSet attributes placed) :
    (said.getD .empty).placedExamples? = (placed.filterMap pickExamples).getLast? := by
  refine part_merged Details.placedExamples?_merge ?_ rfl merged sets
  rintro here (_ | _ | _ | _ | _ | _ | _) state later ⟨⟩ <;> rfl

/-- What is picked last from the keys with a name, together with their places, is placed where that
name stands last. -/
theorem lastPlace_of_getLast? {γ : Type} {key : String}
    {pick : Location × ValueSetting → Option (γ × Option Location)}
    (picks : ∀ entry, (pick entry).map Prod.snd =
      if entry.2.key == key then some (some entry.1) else none)
    {value : γ} {place : Option Location}
    (last : (placed.filterMap pick).getLast? = some (value, place)) :
    ∃ here, lastPlace placed key = some here ∧ place = some here := by
  have places : (placed.filterMap pick).map Prod.snd =
      ((placed.filter (·.2.key == key)).map (·.1)).map some := by
    clear last
    induction placed with
    | nil => rfl
    | cons entry rest ih =>
      have first := picks entry
      by_cases named : (entry.2.key == key) = true
      · rw [if_pos named, Option.map_eq_some_iff] at first
        obtain ⟨picked, isPicked, isPlace⟩ := first
        rw [List.filterMap_cons_some isPicked, List.filter_cons, if_pos named, List.map_cons,
          List.map_cons, List.map_cons, ih, isPlace]
      · rw [if_neg named, Option.map_eq_none_iff] at first
        rw [List.filterMap_cons_none first, List.filter_cons, if_neg named, ih]
  have lasts := congrArg List.getLast? places
  rw [List.getLast?_map, List.getLast?_map, last, Option.map_some] at lasts
  obtain ⟨here, isLast, same⟩ := Option.map_eq_some_iff.mp lasts.symm
  exact ⟨here, isLast, same.symm⟩

/-- The place that is remembered for the example is that of the last key for one. -/
theorem sampleAt_merged (merged : mergedDetails attributes = .ok said)
    (sets : AttributesSet attributes placed) {value : Document}
    (given : (said.getD .empty).sample = some value) :
    ∃ here, lastPlace placed "example" = some here ∧
      (said.getD .empty).sampleAt = some here := by
  have last := placedSample?_merged merged sets
  rw [Details.placedSample?, given, Option.map_some] at last
  refine lastPlace_of_getLast? ?_ last.symm
  rintro ⟨here, _ | _ | _ | _ | _ | _ | _⟩ <;> rfl

/-- The same holds for named examples. -/
theorem examplesAt_merged (merged : mergedDetails attributes = .ok said)
    (sets : AttributesSet attributes placed) {entries : List Example}
    (given : (said.getD .empty).examples = some entries) :
    ∃ here, lastPlace placed "examples" = some here ∧
      (said.getD .empty).examplesAt = some here := by
  have last := placedExamples?_merged merged sets
  rw [Details.placedExamples?, given, Option.map_some] at last
  refine lastPlace_of_getLast? ?_ last.symm
  rintro ⟨here, _ | _ | _ | _ | _ | _ | _⟩ <;> rfl

end Places

end OpenResponse
