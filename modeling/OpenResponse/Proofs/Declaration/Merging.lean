import OpenResponse.Declaration.Response
import OpenResponse.Proofs.Outcome
import OpenResponse.Proofs.Response.Entries

/-!
# Merging attributes

A declaration or a variant may have any number of response attributes, which are merged from left to
right.  Here merging is described without an order of steps: how a list of attributes is cut into
pieces does not matter, attributes of another name do not matter at all, and every part of what the
attributes say together is what the last of them says that gives it.

The parts are given in three different ways.  Content types and examples are given if they are
written at all, headers and the description only if they are not empty, and examples come with the
place that they are written at.  So each part is described as something that an attribute may give;
merging picks what the later attribute gives, or else what the earlier one does, and that law, which
is the same for all parts, is the only thing that is used of it.

Since content types and examples are given by being written, an empty list of them takes the place
of what was there before.

## Main definitions

* `Details.headers?`, `Details.description?`, `Details.placedSample?`, `Details.placedExamples?` —
  parts that an attribute may give
* `AttributeSort` — attributes with and without a status
* `mergeAll` — values merged from left to right
* `Readable`, `ReadAs` — attributes that can be read
* `Details.LastSaid`, `StatusDetails.LastSaid` — what attributes say together
* `MergingLaws` — the laws of merging attributes of one sort
* `Details.SparedBy` — what a later attribute leaves of an earlier one

## Main statements

* `Details.merge_assoc`, `StatusDetails.merge_assoc` — merging is associative
* `foldAttributes_append` — attributes may be merged piece by piece
* `merging_laws` — **merging attributes is a monoid action**
* `merging_spares` — **what attributes leave of those before them**

## Hypotheses

Nothing is asked of attributes but whether they can be read.  `Readable` asks it of the response
attributes of a list, and `ReadAs` names the values; attributes of another name are not read at all.

The laws are stated for both sorts of attributes as one structure, with the sort as a parameter.  A
sort is a type of values with a reader and a way to merge, and what an attribute says apart from the
status is a function of its value that merging commutes with.
-/

namespace OpenResponse

/-! ### Parts

Two of the parts are given by not being empty.  As values that may be missing, all five parts have
the same law. -/

namespace Details

/-- The headers, if there are any.  An empty list is what is there before anything is said, and
merging cannot tell the two apart. -/
def headers? (details : Details) : Option (List Header) :=
  if details.headers.isEmpty then none else some details.headers

/-- The description, if it is not empty.  An empty one is not given, as merging has it. -/
def description? (details : Details) : Option String :=
  if details.description.isEmpty then none else some details.description

/-- The example, with the place of its key.  The two go together when a later attribute overrides
them. -/
def placedSample? (details : Details) : Option (Document × Option Location) :=
  details.sample.map fun value => (value, details.sampleAt)

/-- The named examples, with the place of their key.  They are overridden as a whole, never entry by
entry. -/
def placedExamples? (details : Details) : Option (List Example × Option Location) :=
  details.examples.map fun entries => (entries, details.examplesAt)

section Parts

variable (earlier later : Details)

/-- Content types are those of the later attribute, if it gives any. -/
@[simp]
theorem contentTypes_merge :
    (earlier.merge later).contentTypes = later.contentTypes.or earlier.contentTypes := rfl

/-- So are headers, if they are not empty. -/
@[simp]
theorem headers?_merge :
    (earlier.merge later).headers? = later.headers?.or earlier.headers? := by
  unfold headers? merge
  cases later.headers with
  | nil => rfl
  | cons header rest => rfl

/-- So is the description, if it is not empty. -/
@[simp]
theorem description?_merge :
    (earlier.merge later).description? = later.description?.or earlier.description? := by
  unfold description? merge
  by_cases empty : later.description.isEmpty = true
  · simp only [if_pos empty, Option.none_or]
  · simp only [if_neg empty, Option.some_or]

/-- So is the example, together with its place. -/
@[simp]
theorem placedSample?_merge :
    (earlier.merge later).placedSample? = later.placedSample?.or earlier.placedSample? := by
  unfold placedSample? merge
  cases later.sample <;> rfl

/-- So are named examples, together with their place. -/
@[simp]
theorem placedExamples?_merge :
    (earlier.merge later).placedExamples? = later.placedExamples?.or earlier.placedExamples? := by
  unfold placedExamples? merge
  cases later.examples <;> rfl

end Parts

/-- Headers are what is given of them, or none. -/
theorem headers_eq (details : Details) : details.headers = details.headers?.getD [] := by
  unfold headers?
  cases details.headers <;> rfl

/-- A description is what is given of it, or empty. -/
theorem description_eq (details : Details) :
    details.description = details.description?.getD "" := by
  unfold description?
  split
  next empty => exact String.isEmpty_iff.mp empty
  next => rfl

attribute [ext] Details

/-- Merging is associative. -/
theorem merge_assoc (first second third : Details) :
    (first.merge second).merge third = first.merge (second.merge third) := by
  ext1
  · simp only [contentTypes_merge, Option.or_assoc]
  · simp only [headers_eq, headers?_merge, Option.or_assoc]
  · simp only [description_eq, description?_merge, Option.or_assoc]
  · simp only [merge, Option.or_assoc]
  · simp only [merge, Option.or_assoc]
  · by_cases given : third.sample.isSome = true <;> simp [merge, given]
  · by_cases given : third.examples.isSome = true <;> simp [merge, given]

end Details

theorem StatusDetails.merge_assoc (first second third : StatusDetails) :
    (first.merge second).merge third = first.merge (second.merge third) := by
  rw [merge, merge, merge, merge, Details.merge_assoc]

/-! ### Sorts of attributes

Both sorts are merged alike but for the status, of which the later one counts. -/

/-- The sorts of response attributes: those of a declaration or variant that is one response, and
those that also give the status. -/
inductive AttributeSort
  | plain
  | withStatus
deriving DecidableEq, Repr

namespace AttributeSort

/-- What an attribute is read as. -/
def Value : AttributeSort → Type
  | plain => Details
  | withStatus => StatusDetails

/-- How an attribute is read. -/
def read : (sort : AttributeSort) → Location → String → Except Fault sort.Value
  | plain => readDetails
  | withStatus => readStatusDetails

/-- A later attribute over an earlier one. -/
def merge : (sort : AttributeSort) → sort.Value → sort.Value → sort.Value
  | plain => Details.merge
  | withStatus => StatusDetails.merge

/-- What an attribute says apart from the status. -/
def details : (sort : AttributeSort) → sort.Value → Details
  | plain => id
  | withStatus => StatusDetails.details

theorem merge_assoc (sort : AttributeSort) (first second third : sort.Value) :
    sort.merge (sort.merge first second) third = sort.merge first (sort.merge second third) := by
  cases sort with
  | plain => exact Details.merge_assoc first second third
  | withStatus => exact StatusDetails.merge_assoc first second third

private theorem details_merge (sort : AttributeSort) (earlier later : sort.Value) :
    sort.details (sort.merge earlier later) =
      (sort.details earlier).merge (sort.details later) := by
  cases sort <;> rfl

/-- Apart from the status attributes of both sorts are merged alike. -/
theorem details_foldl (sort : AttributeSort) (earlier : sort.Value) (values : List sort.Value) :
    sort.details (values.foldl sort.merge earlier) =
      (values.map sort.details).foldl Details.merge (sort.details earlier) := by
  rw [List.foldl_map]
  exact (List.foldl_hom sort.details fun first second =>
    (sort.details_merge first second).symm).symm

end AttributeSort

/-! ### Lists of attributes

A list of attributes is read from the left and merged as it is read.  Reading all of them first and
merging then gives the same, also if some cannot be read. -/

section Lists

variable {α : Type} {read : Location → String → Except Fault α} {merge : α → α → α}

/-- Values merged from left to right, if there are any.  Without attributes there is none, which is
another case than attributes that say nothing. -/
def mergeAll (merge : α → α → α) : List α → Option α
  | [] => none
  | first :: rest => some (rest.foldl merge first)

/-- The response attributes of a list can be read.  Others are not looked at.  It is the exact
condition for merging not to fail. -/
def Readable (read : Location → String → Except Fault α) (attributes : List Attribute) : Prop :=
  ∀ attr ∈ attributes, attr.name = "response" →
    ∃ value, read attr.location attr.arguments = .ok value

/-- The response attributes of a list are read as values, in their order. -/
def ReadAs (read : Location → String → Except Fault α) (attributes : List Attribute)
    (values : List α) : Prop :=
  List.Forall₂ (fun attr value => read attr.location attr.arguments = .ok value)
    (attributes.filter (·.name == "response")) values

/-- Attributes that can be read are read as some values. -/
theorem Readable.exists_readAs {attributes : List Attribute} (readable : Readable read attributes) :
    ∃ values, ReadAs read attributes values := by
  simp only [ReadAs, ← mapM_eq_ok]
  refine exists_mapM_eq_ok.mpr fun attr listed => ?_
  obtain ⟨inList, named⟩ := List.mem_filter.mp listed
  exact readable attr inList (beq_iff_eq.mp named)

/-- Attributes are read one by one, and what is read is merged. -/
theorem foldAttributes_eq (attributes : List Attribute) :
    foldAttributes read merge attributes =
      mergeAll merge <$> (attributes.filter (·.name == "response")).mapM fun attr =>
        read attr.location attr.arguments := by
  rw [foldAttributes]
  cases (attributes.filter (·.name == "response")).mapM fun attr =>
      read attr.location attr.arguments with
  | error fault => rfl
  | ok values => cases values <;> rfl

/-- What attributes say together is what they say one by one, merged. -/
theorem ReadAs.merged_eq {attributes : List Attribute} {values : List α}
    (readAs : ReadAs read attributes values) :
    foldAttributes read merge attributes = .ok (mergeAll merge values) := by
  rw [foldAttributes_eq, mapM_eq_ok.mpr readAs]
  rfl

/-- Attributes of another name do not matter. -/
theorem foldAttributes_congr {attributes others : List Attribute}
    (same : attributes.filter (·.name == "response") = others.filter (·.name == "response")) :
    foldAttributes read merge attributes = foldAttributes read merge others := by
  rw [foldAttributes, foldAttributes, same]

/-- Values are merged with an earlier one together or one by one. -/
theorem merge_mergeAll (assoc : ∀ first second third,
      merge (merge first second) third = merge first (merge second third))
    (earlier : α) (values : List α) :
    Option.merge merge (some earlier) (mergeAll merge values) =
      some (values.foldl merge earlier) := by
  have associative : Std.Associative merge := ⟨assoc⟩
  cases values with
  | nil => rfl
  | cons first rest => exact congrArg some List.foldl_assoc.symm

/-- Values may be merged piece by piece. -/
theorem mergeAll_append (assoc : ∀ first second third,
      merge (merge first second) third = merge first (merge second third)) (front back : List α) :
    mergeAll merge (front ++ back) =
      Option.merge merge (mergeAll merge front) (mergeAll merge back) := by
  cases front with
  | nil => cases back <;> rfl
  | cons first front =>
    rw [List.cons_append, mergeAll, mergeAll, merge_mergeAll assoc, List.foldl_append]

/-- Attributes may be merged piece by piece; the first piece that cannot be read fails.
Associativity is all that is asked of merging, so this serves for both sorts of attributes. -/
theorem foldAttributes_append (assoc : ∀ first second third,
      merge (merge first second) third = merge first (merge second third))
    (front back : List Attribute) :
    foldAttributes read merge (front ++ back) = (do
      let said ← foldAttributes read merge front
      let more ← foldAttributes read merge back
      return Option.merge merge said more) := by
  simp only [foldAttributes_eq, List.filter_append, List.mapM_append]
  cases (front.filter (·.name == "response")).mapM fun attr =>
      read attr.location attr.arguments with
  | error fault => rfl
  | ok said =>
    cases (back.filter (·.name == "response")).mapM fun attr =>
        read attr.location attr.arguments with
    | error fault => rfl
    | ok more => exact congrArg Except.ok (mergeAll_append assoc said more)

/-- What the last of some values says that says anything, where merging picks what the later value
says. -/
theorem getLast?_mergeAll {γ : Type} (part : α → Option γ)
    (step : ∀ earlier later, part (merge earlier later) = (part later).or (part earlier))
    (first : α) (rest : List α) :
    part (rest.foldl merge first) = ((first :: rest).filterMap part).getLast? := by
  rw [getLast?_foldl part step, List.filterMap_cons]
  cases part first with
  | none => exact Option.or_none
  | some given => rw [List.getLast?_cons, ← Option.or_some]

/-- The laws of merging attributes that are read as values of one sort, where `Said` tells what
values say together. -/
structure MergingLaws (read : Location → String → Except Fault α) (merge : α → α → α)
    (Said : List α → α → Prop) : Prop where
  /-- Merging is associative. -/
  assoc : ∀ first second third,
    merge (merge first second) third = merge first (merge second third)
  /-- Lists of attributes that can be read say together what they say one by one, merged; a list
  without response attributes says nothing and changes nothing. -/
  append : ∀ front back, Readable read front → Readable read back →
    ∃ said more, foldAttributes read merge front = .ok said ∧
      foldAttributes read merge back = .ok more ∧
      foldAttributes read merge (front ++ back) = .ok (Option.merge merge said more)
  /-- Only response attributes say anything. -/
  none_iff : ∀ attributes, foldAttributes read merge attributes = .ok none ↔
    ∀ attr ∈ attributes, attr.name ≠ "response"
  /-- Attributes of another name may be written or left out anywhere. -/
  others : ∀ front between back, (∀ attr ∈ between, attr.name ≠ "response") →
    foldAttributes read merge (front ++ between ++ back) = foldAttributes read merge (front ++ back)
  /-- What attributes say together is told by what they say one by one. -/
  said : ∀ attributes values, ReadAs read attributes values → values ≠ [] →
    ∃ merged, foldAttributes read merge attributes = .ok (some merged) ∧ Said values merged
  /-- The first response attribute that cannot be read is the fault of all. -/
  failed : ∀ front attr back fault, Readable read front → attr.name = "response" →
    read attr.location attr.arguments = .error fault →
    foldAttributes read merge (front ++ attr :: back) = .error fault

/-- The laws of merging follow from associativity and from what merged values say. -/
theorem MergingLaws.of_assoc {Said : List α → α → Prop}
    (assoc : ∀ first second third,
      merge (merge first second) third = merge first (merge second third))
    (said : ∀ first rest, Said (first :: rest) (rest.foldl merge first)) :
    MergingLaws read merge Said where
  assoc := assoc
  append := by
    intro front back frontReadable backReadable
    obtain ⟨values, frontRead⟩ := frontReadable.exists_readAs
    obtain ⟨more, backRead⟩ := backReadable.exists_readAs
    refine ⟨_, _, frontRead.merged_eq, backRead.merged_eq, ?_⟩
    rw [foldAttributes_append assoc, frontRead.merged_eq, backRead.merged_eq]
    rfl
  none_iff := by
    intro attributes
    rw [foldAttributes_eq, map_eq_ok]
    simp only [mapM_eq_ok]
    constructor
    · rintro ⟨values, readAs, nothing⟩ attr listed named
      cases values with
      | cons first rest => cases nothing
      | nil =>
        -- nothing was read, so that no attribute can have been kept
        have empty := List.forall₂_nil_right_iff.mp readAs
        have kept : attr ∈ attributes.filter (·.name == "response") :=
          List.mem_filter.mpr ⟨listed, beq_iff_eq.mpr named⟩
        rw [empty] at kept
        cases kept
    · intro others
      refine ⟨[], ?_, rfl⟩
      rw [List.filter_eq_nil_iff.mpr fun attr listed => by simpa using others attr listed]
      exact .nil
  others := by
    intro front between back others
    have nothing : between.filter (·.name == "response") = [] :=
      List.filter_eq_nil_iff.mpr fun attr listed => by simpa using others attr listed
    refine foldAttributes_congr ?_
    rw [List.filter_append, List.filter_append, nothing, List.append_nil, List.filter_append]
  said := by
    intro attributes values readAs some
    cases values with
    | nil => exact absurd rfl some
    | cons first rest => exact ⟨_, readAs.merged_eq, said first rest⟩
  failed := by
    intro front attr back fault frontReadable named fails
    obtain ⟨values, frontRead⟩ := frontReadable.exists_readAs
    -- what is read in front does not count: the fold behind it fails at its first attribute
    rw [foldAttributes_append assoc, frontRead.merged_eq]
    have kept : (attr :: back).filter (·.name == "response") =
        attr :: back.filter (·.name == "response") :=
      List.filter_cons_of_pos (beq_iff_eq.mpr named)
    rw [foldAttributes_eq (attr :: back), kept, List.mapM_cons, fails]
    rfl

end Lists

/-! ### What attributes say together

The last value that gives a part is found without merging. -/

/-- What attributes say together: of every part, what the last of them says that gives it. -/
structure Details.LastSaid (values : List Details) (merged : Details) : Prop where
  contentTypes : merged.contentTypes = (values.filterMap Details.contentTypes).getLast?
  headers : merged.headers? = (values.filterMap Details.headers?).getLast?
  description : merged.description? = (values.filterMap Details.description?).getLast?
  sample : merged.placedSample? = (values.filterMap Details.placedSample?).getLast?
  examples : merged.placedExamples? = (values.filterMap Details.placedExamples?).getLast?

/-- What attributes say together that also give the status: the status is that of the last one. -/
structure StatusDetails.LastSaid (values : List StatusDetails) (merged : StatusDetails) : Prop where
  status : some merged.status = (values.map StatusDetails.status).getLast?
  details : Details.LastSaid (values.map StatusDetails.details) merged.details

private theorem Details.lastSaid_foldl (first : Details) (rest : List Details) :
    Details.LastSaid (first :: rest) (rest.foldl Details.merge first) where
  contentTypes := getLast?_mergeAll _ contentTypes_merge first rest
  headers := getLast?_mergeAll _ headers?_merge first rest
  description := getLast?_mergeAll _ description?_merge first rest
  sample := getLast?_mergeAll _ placedSample?_merge first rest
  examples := getLast?_mergeAll _ placedExamples?_merge first rest

private theorem StatusDetails.lastSaid_foldl (first : StatusDetails) (rest : List StatusDetails) :
    StatusDetails.LastSaid (first :: rest) (rest.foldl StatusDetails.merge first) where
  status := by
    have later (first second : StatusDetails) :
        some (first.merge second).status = (some second.status).or (some first.status) := rfl
    rw [← List.filterMap_eq_map]
    exact getLast?_mergeAll (some ∘ status) later first rest
  details := by
    have alike : (rest.foldl StatusDetails.merge first).details =
        (rest.map StatusDetails.details).foldl Details.merge first.details :=
      AttributeSort.details_foldl .withStatus first rest
    rw [alike]
    exact Details.lastSaid_foldl first.details _

/-- What attributes of a sort say together.  Each field has the last value that is said for it. -/
def AttributeSort.LastSaid : (sort : AttributeSort) → List sort.Value → sort.Value → Prop
  | plain => Details.LastSaid
  | withStatus => StatusDetails.LastSaid

/-- **Merging attributes is a monoid action.**  For both sorts of attributes merging is associative,
and what a list of attributes says is what the lists say that it is put together from, merged.
Attributes of another name do not matter.  Every part of what attributes say together is what the
last of them says that gives it, and the status is that of the last one; if some cannot be read, the
first of them is the fault. -/
theorem merging_laws (sort : AttributeSort) :
    MergingLaws sort.read sort.merge sort.LastSaid := by
  refine .of_assoc sort.merge_assoc fun first rest => ?_
  cases sort with
  | plain => exact Details.lastSaid_foldl first rest
  | withStatus => exact StatusDetails.lastSaid_foldl first rest

/-! ### What later attributes leave

Content types and named examples are the two parts that can be given and be empty. -/

section Leaves

variable {α γ : Type} {merge : α → α → α}

/-- A part that no later value gives is left as it was. -/
theorem part_foldl_of_none {part : α → Option γ}
    (step : ∀ earlier later, part (merge earlier later) = (part later).or (part earlier))
    {values : List α} (nothing : ∀ later ∈ values, part later = none) (earlier : α) :
    part (values.foldl merge earlier) = part earlier := by
  rw [getLast?_foldl part step, List.filterMap_eq_nil_iff.mpr nothing]
  rfl

/-- A list that later values leave out or empty is left as it was only if all of them leave it out,
or if it was empty already. -/
theorem part_foldl_of_empty {part : α → Option (List γ)}
    (step : ∀ earlier later, part (merge earlier later) = (part later).or (part earlier))
    {values : List α} (empty : ∀ later ∈ values, (part later).getD [] = []) (earlier : α) :
    part (values.foldl merge earlier) = part earlier ↔
      (∀ later ∈ values, part later = none) ∨ part earlier = some [] := by
  by_cases nothing : ∀ later ∈ values, part later = none
  · exact ⟨fun _ => .inl nothing, fun _ => part_foldl_of_none step nothing earlier⟩
  · have emptied : (values.filterMap part).getLast? = some [] := by
      have given : values.filterMap part ≠ [] := mt List.filterMap_eq_nil_iff.mp nothing
      rw [List.getLast?_eq_some_getLast given]
      obtain ⟨later, listed, gives⟩ := List.mem_filterMap.mp (List.getLast_mem given)
      rw [← empty later listed, gives, Option.getD_some]
    rw [getLast?_foldl part step, emptied, Option.some_or]
    constructor
    · intro same
      exact .inr same.symm
    · rintro (all | same)
      · exact absurd all nothing
      · exact same.symm

end Leaves

/-- What attributes leave of what was said before them.  An empty description and an empty list of
headers leave the earlier ones; but an empty list of content types or of named examples takes the
place of the earlier one, so that attributes that give no more than that leave it only if they do
not write it at all, or if it was empty already. -/
structure Details.SparedBy (values : List Details) (earlier merged : Details) : Prop where
  headers : (∀ later ∈ values, later.headers = []) → merged.headers = earlier.headers
  description : (∀ later ∈ values, later.description = "") →
    merged.description = earlier.description
  sample : (∀ later ∈ values, later.sample = none) →
    merged.sample = earlier.sample ∧ merged.placedSample? = earlier.placedSample?
  contentTypes : (∀ later ∈ values, later.contentTypes.getD [] = []) →
    (merged.contentTypes = earlier.contentTypes ↔
      (∀ later ∈ values, later.contentTypes = none) ∨ earlier.contentTypes = some [])
  examples : (∀ later ∈ values, later.examples.getD [] = []) →
    (merged.examples = earlier.examples ↔
      (∀ later ∈ values, later.examples = none) ∨ earlier.examples = some [])

private theorem Details.sparedBy_foldl (values : List Details) (earlier : Details) :
    Details.SparedBy values earlier (values.foldl Details.merge earlier) where
  headers := by
    intro empty
    rw [headers_eq, headers_eq earlier, part_foldl_of_none headers?_merge fun later listed => ?_]
    rw [headers?, empty later listed]
    rfl
  description := by
    intro empty
    rw [description_eq, description_eq earlier,
      part_foldl_of_none description?_merge fun later listed => ?_]
    rw [description?, empty later listed]
    rfl
  sample := by
    intro nothing
    have absent : ∀ later ∈ values, later.placedSample? = none := fun later listed => by
      rw [placedSample?, nothing later listed]
      rfl
    exact ⟨part_foldl_of_none (fun _ _ => rfl) nothing earlier,
      part_foldl_of_none placedSample?_merge absent earlier⟩
  contentTypes := fun empty => part_foldl_of_empty contentTypes_merge empty earlier
  examples := fun empty => part_foldl_of_empty (fun _ _ => rfl) empty earlier

/-- Attributes leave of what was said before them what `Details.SparedBy` tells, be they merged as
values or read from a list. -/
structure MergingSpares (sort : AttributeSort) (earlier : sort.Value) (values : List sort.Value) :
    Prop where
  /-- What values leave that are merged one after the other. -/
  folded : Details.SparedBy (values.map sort.details) (sort.details earlier)
    (sort.details (values.foldl sort.merge earlier))
  /-- What attributes leave that are read as the values. -/
  attributes : ∀ (front back : List Attribute),
    foldAttributes sort.read sort.merge front = .ok (some earlier) → ReadAs sort.read back values →
    ∃ merged, foldAttributes sort.read sort.merge (front ++ back) = .ok (some merged) ∧
      Details.SparedBy (values.map sort.details) (sort.details earlier) (sort.details merged)

/-- **What attributes leave of those before them**, for both sorts of attributes: everything that
they do not give, where an empty list of content types or of named examples is given. -/
theorem merging_spares (sort : AttributeSort) (earlier : sort.Value) (values : List sort.Value) :
    MergingSpares sort earlier values := by
  have spared : Details.SparedBy (values.map sort.details) (sort.details earlier)
      (sort.details (values.foldl sort.merge earlier)) := by
    rw [sort.details_foldl]
    exact Details.sparedBy_foldl _ _
  refine ⟨spared, fun front back frontRead backRead => ?_⟩
  refine ⟨values.foldl sort.merge earlier, ?_, spared⟩
  rw [foldAttributes_append sort.merge_assoc, frontRead, backRead.merged_eq]
  exact congrArg Except.ok (merge_mergeAll sort.merge_assoc earlier values)

/-- An attribute with an empty list of content types takes away those that an earlier one gave. -/
theorem mergedDetails_emptyContentTypes :
    ¬ ∀ (front : List Attribute) (attr : Attribute) (earlier later merged : Details),
      mergedDetails front = .ok (some earlier) →
      readDetails attr.location attr.arguments = .ok later →
      mergedDetails (front ++ [attr]) = .ok (some merged) →
      later.contentTypes.getD [] = [] → merged.contentTypes = earlier.contentTypes := by
  intro keeps
  let given : Attribute := ⟨"response", "content_type = \"text/csv\"", none, .start⟩
  let emptied : Attribute := ⟨"response", "content_type = []", none, .start⟩
  have before : Option.map Details.contentTypes <$> mergedDetails [given] =
      .ok (some (some ["text/csv"])) := by decide +kernel
  have written : Details.contentTypes <$> readDetails emptied.location emptied.arguments =
      .ok (some []) := by decide +kernel
  have after : Option.map Details.contentTypes <$> mergedDetails [given, emptied] =
      .ok (some (some [])) := by decide +kernel
  obtain ⟨said, isSaid, saidTypes⟩ := map_eq_ok.mp before
  obtain ⟨earlier, rfl, earlierTypes⟩ := Option.map_eq_some_iff.mp saidTypes
  obtain ⟨later, isLater, laterTypes⟩ := map_eq_ok.mp written
  obtain ⟨together, isTogether, togetherTypes⟩ := map_eq_ok.mp after
  obtain ⟨merged, rfl, mergedTypes⟩ := Option.map_eq_some_iff.mp togetherTypes
  have kept := keeps [given] emptied earlier later merged isSaid isLater isTogether
    (by rw [laterTypes, Option.getD_some])
  cases mergedTypes.symm.trans (kept.trans earlierTypes)

end OpenResponse
