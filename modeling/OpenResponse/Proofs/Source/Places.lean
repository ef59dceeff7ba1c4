import Mathlib.Data.List.Sort
import OpenResponse.Proofs.Source.Attachment

/-!
# Places of declarations

The declarations of a source stand among its siblings, or in modules among them, to any depth.  A
place is where one of them is written.  Its position gives the number of siblings before it in its
module, after the numbers of siblings before the modules around it, so that positions are ordered
as the source is.

What is attached to a declaration is what the siblings directly before it say, as far back as the
run of attributes and comments goes.

## Main definitions

* `DeclaredAt` — a declaration is written at a place
* `Place.declaration` — the declaration at a place, with what is attached to it
* `attributesAmong` — the attributes that are looked at

## Main statements

* `mem_placesFrom`, `pairwise_placesFrom` — the places of a source, and their order
* `collect_declares` — extraction gives the declarations at all places, in their order, exactly if
  every attribute is readable

## Design notes

Extraction is a recursion over siblings, the items that they are and what is in modules, so there
are three functions and each law is three statements proved together.  They are stated for any
siblings before, since what is attached to a declaration depends on them.  A module starts with
nothing before it and says nothing about what comes behind it; that is the only point where the
recursion forgets.

That each declaration is given once is part of the order: positions in a strictly ordered list do
not repeat, and a strictly ordered list is known from its members.  So the result can be stated with
the relation `DeclaredAt`, which has no recursion of its own.
-/

namespace OpenResponse

namespace Source

/-! ### Items

What is said directly before something is the run of attributes and comments that ends there.  The
places are listed by a recursion of the shape of extraction, and are those of the relation. -/

/-- What the attributes and comments directly before something say. -/
def directlyBefore (before : List (Sibling Item)) : Pending :=
  .of (before.rtakeWhile Sibling.isDetail)

section Steps

variable {before : List (Sibling Item)}

private theorem directlyBefore_attr {source : SourceAttribute} {attr : Attribute}
    (read : source.attribute = .ok attr) :
    directlyBefore (before ++ [.attr source]) = (directlyBefore before).addAttribute attr := by
  rw [directlyBefore, List.rtakeWhile_concat_pos _ _ _ rfl, Pending.of_concat_attr read,
    directlyBefore]

private theorem directlyBefore_comment (piece : Piece) :
    directlyBefore (before ++ [.comment piece]) = (directlyBefore before).addComment piece := by
  rw [directlyBefore, List.rtakeWhile_concat_pos _ _ _ rfl, Pending.of_concat_comment,
    directlyBefore]

/-- Anything else takes away what is said before it. -/
theorem directlyBefore_of_not_isDetail {sibling : Sibling Item} (other : sibling.isDetail = false) :
    directlyBefore (before ++ [sibling]) = .empty := by
  rw [directlyBefore, List.rtakeWhile_concat_neg _ _ _ (by simp [other])]
  rfl

end Steps

/-- A place where something is declared. -/
structure Place where
  /-- The numbers of siblings before the modules around it and before itself. -/
  position : List Nat
  /-- The siblings before it in its module. -/
  before : List (Sibling Item)
  /-- The declaration as it is written. -/
  source : SourceDeclaration

namespace Place

/-- A place in a module that has a number of siblings before it. -/
def within (outer : Nat) (place : Place) : Place :=
  { place with position := outer :: place.position }

/-- The declaration at a place, with what is said directly before it. -/
def declaration (place : Place) : Declaration :=
  place.source.attached (directlyBefore place.before)

end Place

/-- A declaration is written at a place: among siblings, or in a module among them. -/
inductive DeclaredAt : List (Sibling Item) → Place → Prop
  | here (before : List (Sibling Item)) (source : SourceDeclaration)
      (after : List (Sibling Item)) :
    DeclaredAt (before ++ .entry (.declaration source) :: after) ⟨[before.length], before, source⟩
  | inside (before : List (Sibling Item)) {inner : List (Sibling Item)}
      (after : List (Sibling Item)) {place : Place} (declared : DeclaredAt inner place) :
    DeclaredAt (before ++ .entry (.module inner) :: after) (place.within before.length)

mutual

/-- The attributes among siblings and in them that are looked at. -/
def attributesAmong : List (Sibling Item) → List SourceAttribute
  | [] => []
  | sibling :: rest => attributesOf sibling ++ attributesAmong rest

/-- The attribute that a sibling is, or those in the item that it is. -/
def attributesOf : Sibling Item → List SourceAttribute
  | .attr source => [source]
  | .entry item => attributesIn item
  | .comment _ | .other => []

/-- The attributes in an item. -/
def attributesIn : Item → List SourceAttribute
  | .declaration source => source.body.attributes
  | .module inner => attributesAmong inner

end

mutual

/-- The places among siblings, when some are before them. -/
def placesFrom (before : List (Sibling Item)) : List (Sibling Item) → List Place
  | [] => []
  | sibling :: rest => placesOf before sibling ++ placesFrom (before ++ [sibling]) rest

/-- The places in a sibling. -/
def placesOf (before : List (Sibling Item)) : Sibling Item → List Place
  | .entry item => placesIn before item
  | .attr _ | .comment _ | .other => []

/-- The places in an item. -/
def placesIn (before : List (Sibling Item)) : Item → List Place
  | .declaration source => [⟨[before.length], before, source⟩]
  | .module inner => (placesFrom [] inner).map (Place.within before.length)

end

private theorem placesFrom_append (before first rest : List (Sibling Item)) :
    placesFrom before (first ++ rest) =
      placesFrom before first ++ placesFrom (before ++ first) rest := by
  induction first generalizing before with
  | nil => rw [List.nil_append, List.append_nil, placesFrom, List.nil_append]
  | cons sibling first ih =>
    rw [List.cons_append, placesFrom, placesFrom, ih, List.append_assoc, List.append_assoc,
      List.singleton_append]

mutual

/-- The places that are listed are places among all siblings, those before them included. -/
theorem declaredAt_of_mem_placesFrom (before : List (Sibling Item)) :
    ∀ (siblings : List (Sibling Item)), ∀ place ∈ placesFrom before siblings,
      DeclaredAt (before ++ siblings) place
  | [], place, listed => by cases listed
  | sibling :: rest, place, listed => by
    rw [placesFrom, List.mem_append] at listed
    rcases listed with first | later
    · exact declaredAt_of_mem_placesOf before rest sibling place first
    · have declared := declaredAt_of_mem_placesFrom (before ++ [sibling]) rest place later
      rwa [List.append_assoc, List.singleton_append] at declared

/-- So are the places in a sibling, with more siblings behind it. -/
theorem declaredAt_of_mem_placesOf (before after : List (Sibling Item)) :
    ∀ (sibling : Sibling Item), ∀ place ∈ placesOf before sibling,
      DeclaredAt (before ++ sibling :: after) place
  | .entry item, place, listed => declaredAt_of_mem_placesIn before after item place listed
  | .attr _, place, listed | .comment _, place, listed | .other, place, listed => by cases listed

/-- And the places in an item. -/
theorem declaredAt_of_mem_placesIn (before after : List (Sibling Item)) :
    ∀ (item : Item), ∀ place ∈ placesIn before item,
      DeclaredAt (before ++ .entry item :: after) place
  | .declaration source, place, listed => by
    rw [placesIn, List.mem_singleton] at listed
    rw [listed]
    exact .here before source after
  | .module inner, place, listed => by
    rw [placesIn, List.mem_map] at listed
    obtain ⟨inside, listed, rfl⟩ := listed
    exact .inside before after (declaredAt_of_mem_placesFrom [] inner inside listed)

end

/-- The listed places are those where something is declared.  The walk finds all of them and nothing
else, which settles the set; the order is settled by `pairwise_placesFrom`. -/
theorem mem_placesFrom {siblings : List (Sibling Item)} {place : Place} :
    place ∈ placesFrom [] siblings ↔ DeclaredAt siblings place := by
  constructor
  · exact declaredAt_of_mem_placesFrom [] siblings place
  · intro declared
    induction declared with
    | here before source after =>
      rw [placesFrom_append, placesFrom, placesOf, placesIn]
      exact List.mem_append_right _ (List.mem_append_left _ List.mem_cons_self)
    | inside before after declared ih =>
      rw [placesFrom_append, placesFrom, placesOf, placesIn]
      exact List.mem_append_right _ (List.mem_append_left _ (List.mem_map_of_mem ih))

/-! ### The order of places

A position begins with the number of siblings before the outermost module, so positions are compared
from the outside in. -/

private theorem position_of_mem_placesOf {before : List (Sibling Item)} {sibling : Sibling Item}
    {place : Place} (listed : place ∈ placesOf before sibling) :
    ∃ inner, place.position = before.length :: inner := by
  rcases sibling with _ | _ | (source | inner) | _
  · cases listed
  · cases listed
  · rw [placesOf, placesIn, List.mem_singleton] at listed
    exact ⟨[], by rw [listed]⟩
  · rw [placesOf, placesIn, List.mem_map] at listed
    obtain ⟨inside, -, rfl⟩ := listed
    exact ⟨inside.position, rfl⟩
  · cases listed

private theorem position_of_mem_placesFrom {before siblings : List (Sibling Item)} {place : Place}
    (listed : place ∈ placesFrom before siblings) :
    ∃ first inner, place.position = first :: inner ∧ before.length ≤ first := by
  induction siblings generalizing before with
  | nil => cases listed
  | cons sibling rest ih =>
    rw [placesFrom, List.mem_append] at listed
    rcases listed with first | later
    · obtain ⟨inner, position⟩ := position_of_mem_placesOf first
      exact ⟨_, inner, position, le_rfl⟩
    · obtain ⟨first, inner, position, behind⟩ := ih later
      rw [List.length_append] at behind
      exact ⟨first, inner, position, (Nat.le_add_right _ _).trans behind⟩

/-- One place is written before another. -/
def Place.Precedes (first second : Place) : Prop := first.position < second.position

mutual

/-- The places are listed in the order of the text, and so none of them is listed twice. -/
theorem pairwise_placesFrom (before : List (Sibling Item)) :
    ∀ siblings : List (Sibling Item), (placesFrom before siblings).Pairwise Place.Precedes
  | [] => List.Pairwise.nil
  | sibling :: rest => by
    rw [placesFrom, List.pairwise_append]
    refine ⟨pairwise_placesOf before sibling, pairwise_placesFrom _ rest, ?_⟩
    intro first listed second later
    obtain ⟨inner, position⟩ := position_of_mem_placesOf listed
    obtain ⟨next, other, behind, order⟩ := position_of_mem_placesFrom later
    rw [List.length_append, List.length_singleton] at order
    rw [Place.Precedes, position, behind, List.cons_lt_cons_iff]
    exact .inl order

theorem pairwise_placesOf (before : List (Sibling Item)) :
    ∀ sibling : Sibling Item, (placesOf before sibling).Pairwise Place.Precedes
  | .entry item => pairwise_placesIn before item
  | .attr _ | .comment _ | .other => List.Pairwise.nil

theorem pairwise_placesIn (before : List (Sibling Item)) :
    ∀ item : Item, (placesIn before item).Pairwise Place.Precedes
  | .declaration source => List.pairwise_singleton _ _
  | .module inner => by
    rw [placesIn, List.pairwise_map]
    refine (pairwise_placesFrom [] inner).imp fun order => ?_
    rw [Place.Precedes, Place.within, Place.within, List.cons_lt_cons_iff]
    exact .inr ⟨rfl, order⟩

end

/-- Places in order are known from which places they are.  The order is strict, so no place is there
twice. -/
theorem places_unique {first second : List Place} (inOrder : first.Pairwise Place.Precedes)
    (alsoInOrder : second.Pairwise Place.Precedes)
    (same : ∀ place, place ∈ first ↔ place ∈ second) : first = second := by
  have : Std.Irrefl Place.Precedes := ⟨fun place => List.lt_irrefl place.position⟩
  have : Std.Antisymm Place.Precedes :=
    ⟨fun _ _ order reverse => absurd reverse (List.lt_asymm order)⟩
  exact inOrder.eq_of_mem_iff alsoInOrder same

/-! ### Extraction

Extraction succeeds exactly if the attributes that it looks at are readable, and then gives the
declarations at the places as they are listed. -/

-- The three statements follow the recursion of `collect`.  What waits is always what is said
-- directly before, so that a module starts with nothing and leaves nothing behind.
mutual

theorem collect_eq_ok (before : List (Sibling Item)) :
    ∀ (siblings : List (Sibling Item)) (declarations : List Declaration),
      collect (directlyBefore before) siblings = .ok declarations ↔
        (∀ attr ∈ attributesAmong siblings, attr.IsReadable) ∧
          declarations = (placesFrom before siblings).map Place.declaration
  | [], declarations => by
    simp [collect, attributesAmong, placesFrom, eq_comm]
  | sibling :: rest, declarations => by
    rw [collect, outcome_bind_eq_ok, attributesAmong, List.forall_mem_append, placesFrom,
      List.map_append]
    constructor
    · rintro ⟨⟨first, pending⟩, done, next⟩
      obtain ⟨readable, rfl, rfl⟩ := (collectSibling_eq_ok before sibling _ _).mp done
      obtain ⟨more, others, same⟩ := outcome_bind_eq_ok.mp next
      obtain ⟨also, rfl⟩ := (collect_eq_ok (before ++ [sibling]) rest more).mp others
      cases same
      exact ⟨⟨readable, also⟩, rfl⟩
    · rintro ⟨⟨readable, also⟩, rfl⟩
      refine ⟨_, (collectSibling_eq_ok before sibling _ _).mpr ⟨readable, rfl, rfl⟩, ?_⟩
      exact outcome_bind_eq_ok.mpr
        ⟨_, (collect_eq_ok (before ++ [sibling]) rest _).mpr ⟨also, rfl⟩, rfl⟩

theorem collectSibling_eq_ok (before : List (Sibling Item)) :
    ∀ (sibling : Sibling Item) (declarations : List Declaration) (pending : Pending),
      collectSibling (directlyBefore before) sibling = .ok (declarations, pending) ↔
        (∀ attr ∈ attributesOf sibling, attr.IsReadable) ∧
          declarations = (placesOf before sibling).map Place.declaration ∧
            pending = directlyBefore (before ++ [sibling])
  | .attr source, declarations, pending => by
    rw [collectSibling, outcome_bind_eq_ok, attributesOf, List.forall_mem_singleton,
      SourceAttribute.isReadable_iff]
    constructor
    · rintro ⟨attr, read, same⟩
      cases same
      exact ⟨⟨attr, read⟩, rfl, (directlyBefore_attr read).symm⟩
    · rintro ⟨⟨attr, read⟩, rfl, rfl⟩
      refine ⟨attr, read, ?_⟩
      rw [directlyBefore_attr read]
      rfl
  | .comment piece, declarations, pending => by
    rw [collectSibling, directlyBefore_comment]
    simp [attributesOf, placesOf, eq_comm]
  | .other, declarations, pending => by
    rw [collectSibling, directlyBefore_of_not_isDetail rfl]
    simp [attributesOf, placesOf, eq_comm]
  | .entry item, declarations, pending => by
    rw [collectSibling, outcome_bind_eq_ok, directlyBefore_of_not_isDetail rfl]
    constructor
    · rintro ⟨_, done, same⟩
      cases same
      obtain ⟨readable, rfl⟩ := (collectItem_eq_ok before item _).mp done
      exact ⟨readable, rfl, rfl⟩
    · rintro ⟨readable, rfl, rfl⟩
      exact ⟨_, (collectItem_eq_ok before item _).mpr ⟨readable, rfl⟩, rfl⟩

theorem collectItem_eq_ok (before : List (Sibling Item)) :
    ∀ (item : Item) (declarations : List Declaration),
      collectItem (directlyBefore before) item = .ok declarations ↔
        (∀ attr ∈ attributesIn item, attr.IsReadable) ∧
          declarations = (placesIn before item).map Place.declaration
  | .declaration source, declarations => by
    rw [collectItem, outcome_bind_eq_ok]
    constructor
    · rintro ⟨declaration, done, same⟩
      obtain ⟨readable, rfl⟩ := SourceDeclaration.declaration_eq_ok.mp done
      cases same
      exact ⟨readable, rfl⟩
    · rintro ⟨readable, rfl⟩
      exact ⟨_, SourceDeclaration.declaration_eq_ok.mpr ⟨readable, rfl⟩, rfl⟩
  | .module inner, declarations => by
    have started : directlyBefore [] = .empty := rfl
    rw [collectItem, ← started, collect_eq_ok [] inner, placesIn, List.map_map]
    rfl

end

/-- **Details are attached to what they stand before.**  Whatever the siblings of a source are,
extraction succeeds exactly if every attribute that it looks at is readable.  It then gives the
declarations at all places among them and in their modules, once each and in the order in which they
are written.  A declaration has the attributes and documentation of the run of attributes and
comments directly before it among its siblings; a variant or a field has those since the previous
one of its list.

That attributes must be readable is a fault: the value of an attribute may be any expression, and
one that is no string is not looked at any further, but a value with a character literal in it, for
example, cannot be cut into tokens and makes the extraction fail. -/
theorem collect_declares (siblings : List (Sibling Item)) (declarations : List Declaration) :
    collect .empty siblings = .ok declarations ↔
      (∀ attr ∈ attributesAmong siblings, attr.IsReadable) ∧
        ∃ places : List Place, places.Pairwise Place.Precedes ∧
          (∀ place, place ∈ places ↔ DeclaredAt siblings place) ∧
          declarations = places.map Place.declaration := by
  have started : directlyBefore [] = .empty := rfl
  rw [← started, collect_eq_ok]
  refine and_congr_right fun _ => ⟨?_, ?_⟩
  · rintro rfl
    exact ⟨_, pairwise_placesFrom [] siblings, fun _ => mem_placesFrom, rfl⟩
  · rintro ⟨places, inOrder, all, rfl⟩
    rw [places_unique inOrder (pairwise_placesFrom [] siblings)
      fun place => (all place).trans mem_placesFrom.symm]

/-- A struct behind an attribute whose value is a character is not extracted. -/
theorem extractDeclarations_character :
    let source := "#[mark = 'a']\nstruct S;\n"
    (∃ place, DeclaredAt (items source) place ∧ place.source.name = "S") ∧
      (extractDeclarations source).isOk = false := by
  have one : (placesFrom [] (items "#[mark = 'a']\nstruct S;\n")).map (·.source.name) = ["S"] := by
    decide +kernel
  obtain ⟨place, listed, name⟩ := List.mem_map.mp (one ▸ List.mem_singleton_self "S")
  exact ⟨⟨place, mem_placesFrom.mp listed, name⟩, by decide +kernel⟩

end Source

end OpenResponse
