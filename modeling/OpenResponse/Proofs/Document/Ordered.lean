import Mathlib.Data.List.Induction
import Mathlib.Data.List.Nodup
import Mathlib.Data.List.Perm.Subperm
import Mathlib.Tactic.Conv
import OpenResponse.Document

/-!
# Repeated names

Members that are assigned one after the other may name the same member several times.  This module
says what is left of them without speaking of assignments: every name once, at the place where it
was first written, with the value that it was last given.

Updating members by others is described in the same way: which names there are, in which order, and
which value each of them has.

The proofs are inductions from the end of a list.  Assigning a pair behind all others either
replaces a value or adds the pair at the end, and on the side of the description the pair is the
last one with its name, which makes both steps the same.  Members with different names are
determined by the list of their names and by what is found under each name, so equality is proved by
comparing these two.

## Main definitions

* `lastOfEach` — the last ones of a list with their keys
* `Ordered.latest` — the members of a list of pairs, read off the whole list at once
* `Ordered.Merged` — members that are updated by others, read off both

## Main statements

* `Ordered.ofList_eq_latest` — assigning one after the other leaves exactly these
* `Ordered.mem_ofList` — what is left of pairs are the last ones with their names
* `Ordered.update_ofList` — updating by pairs is updating by what is left of them
* `Ordered.merged_update` — updating leaves exactly the names and the values that are described

## Hypotheses

Names have to be different wherever members are looked up and compared as lists.  Assigned members
always have different names, so the condition is met by everything that comes out of `ofList` and
`assign`; a list of pairs as it is written may have names twice, and for it nothing is asked.
-/

namespace OpenResponse

/-- The members of a list that are the last ones with their keys.  Their order is that of their own
places, not that of the first ones with their keys. -/
def lastOfEach {α β : Type} [DecidableEq β] (key : α → β) : List α → List α
  | [] => []
  | first :: rest =>
    if key first ∈ rest.map key then lastOfEach key rest else first :: lastOfEach key rest

private theorem lastOfEach_append_singleton
    {α β : Type} [DecidableEq β] (key : α → β) (items : List α)
    (item : α) : lastOfEach key (items ++ [item]) =
      (lastOfEach key items).filter (key · ≠ key item) ++ [item] := by
  induction items with
  | nil => rfl
  | cons first rest ih =>
    have repeated : key first ∈ (rest ++ [item]).map key ↔
        key first ∈ rest.map key ∨ key first = key item := by simp
    rw [List.cons_append, lastOfEach, lastOfEach, ih]
    by_cases inRest : key first ∈ rest.map key
    · rw [if_pos (repeated.mpr (.inl inRest)), if_pos inRest]
    · rw [if_neg inRest]
      by_cases same : key first = key item
      · rw [if_pos (repeated.mpr (.inr same)), List.filter_cons_of_neg (by simpa using same)]
      · rw [if_neg (mt repeated.mp (not_or.mpr ⟨inRest, same⟩)),
          List.filter_cons_of_pos (by simpa using same), List.cons_append]

namespace Ordered

variable {α : Type}

/-- The value that a name is last given in a list of pairs. -/
def lastValue? (pairs : List (String × α)) (name : String) : Option α := get? pairs.reverse name

/-- Every name of a list of pairs at its first place, with its last value. -/
def latest (pairs : List (String × α)) : Ordered α :=
  (pairs.map (·.1)).eraseDups.filterMap fun name =>
    (lastValue? pairs name).map fun value => (name, value)

/-- The last pair is assigned last. -/
theorem ofList_append_singleton (pairs : List (String × α)) (pair : String × α) :
    ofList (pairs ++ [pair]) = assign (ofList pairs) pair.1 pair.2 := by
  rw [ofList, update_append]
  rfl

/-- Assigned members have different names. -/
theorem nodup_keys_ofList (pairs : List (String × α)) : ((ofList pairs).map (·.1)).Nodup := by
  induction pairs using List.reverseRecOn with
  | nil => exact List.nodup_nil
  | append_singleton pairs pair ih =>
    rw [ofList_append_singleton, keys_assign]
    by_cases known : pair.1 ∈ (ofList pairs).map (·.1)
    · rwa [if_pos known]
    · rw [if_neg known]
      exact ih.append (List.nodup_singleton _) (by simpa using known)

/-- The names of assigned members stand in the order of their first assignments. -/
theorem keys_ofList (pairs : List (String × α)) :
    (ofList pairs).map (·.1) = (pairs.map (·.1)).eraseDups := by
  induction pairs using List.reverseRecOn with
  | nil => rfl
  | append_singleton pairs pair ih =>
    rw [ofList_append_singleton, keys_assign, ih, List.map_append, List.eraseDups_append]
    by_cases known : pair.1 ∈ pairs.map (·.1)
    · rw [if_pos (by simpa using known)]
      simp [List.removeAll, known]
    · rw [if_neg (by simpa using known)]
      simp [List.removeAll, known, List.eraseDups_cons]

/-- A name that is assigned several times has the value of its last assignment. -/
theorem get?_ofList (pairs : List (String × α)) (name : String) :
    get? (ofList pairs) name = lastValue? pairs name := by
  induction pairs using List.reverseRecOn with
  | nil => rfl
  | append_singleton pairs pair ih =>
    rw [ofList_append_singleton, get?_assign, ih, lastValue?, lastValue?, List.reverse_append]
    by_cases same : pair.1 = name
    · simp [get?, same]
    · simp [get?, same, Ne.symm same]

/-- Members with different names are determined by their names and the values of these. -/
theorem eq_filterMap_get? (members : Ordered α) (distinct : (members.map (·.1)).Nodup) :
    members = (members.map (·.1)).filterMap fun name =>
      (get? members name).map fun value => (name, value) := by
  induction members with
  | nil => rfl
  | cons pair rest ih =>
    obtain ⟨name, value⟩ := pair
    rw [List.map_cons, List.nodup_cons] at distinct
    -- looking up a later name passes over the first pair
    have passed : ∀ other ∈ rest.map (·.1),
        get? ((name, value) :: rest) other = get? rest other := by
      intro other member
      have different : name ≠ other := fun same => distinct.1 (same ▸ member)
      simp [get?, different]
    rw [List.map_cons, List.filterMap_cons_some (b := (name, value)) (by simp [get?])]
    congr 1
    conv_lhs => rw [ih distinct.2]
    exact (List.filterMap_congr fun other member => by rw [passed other member]).symm

/-- Assigning one after the other leaves every name at its first place with its last value.  Two
lists of assignments with different names are the same if they have the same names in the same order
and the same values. -/
theorem ofList_eq_latest (pairs : List (String × α)) : ofList pairs = latest pairs := by
  rw [eq_filterMap_get? (ofList pairs) (nodup_keys_ofList pairs), keys_ofList, latest]
  simp only [get?_ofList]

/-- Assigning to an absent name adds it at the end. -/
theorem assign_of_not_mem {members : Ordered α} {name : String}
    (absent : name ∉ members.map (·.1)) (value : α) :
    assign members name value = members ++ [(name, value)] := by
  induction members with
  | nil => rfl
  | cons pair rest ih =>
    obtain ⟨other, old⟩ := pair
    rw [List.map_cons, List.mem_cons, not_or] at absent
    rw [assign, if_neg (Ne.symm absent.1), ih absent.2, List.cons_append]

/-- Members after an assignment to one of different names. -/
theorem mem_assign {members : Ordered α} (distinct : (members.map (·.1)).Nodup) (name : String)
    (value : α) (pair : String × α) :
    pair ∈ assign members name value ↔ pair = (name, value) ∨ pair ∈ members ∧ pair.1 ≠ name := by
  induction members with
  | nil => simp
  | cons first rest ih =>
    obtain ⟨other, old⟩ := first
    rw [List.map_cons, List.nodup_cons] at distinct
    rw [assign]
    by_cases here : other = name
    · subst here
      -- no later member has the name
      have apart : ∀ member ∈ rest, member.1 ≠ other := fun member listed same =>
        distinct.1 (List.mem_map.mpr ⟨member, listed, same⟩)
      rw [if_pos rfl, List.mem_cons, List.mem_cons]
      constructor
      · rintro (rfl | listed)
        · exact .inl rfl
        · exact .inr ⟨.inr listed, apart pair listed⟩
      · rintro (rfl | ⟨rfl | listed, differ⟩)
        · exact .inl rfl
        · exact absurd rfl differ
        · exact .inr listed
    · rw [if_neg here, List.mem_cons, List.mem_cons, ih distinct.2]
      constructor
      · rintro (rfl | rfl | ⟨listed, differ⟩)
        · exact .inr ⟨.inl rfl, here⟩
        · exact .inl rfl
        · exact .inr ⟨.inr listed, differ⟩
      · rintro (rfl | ⟨rfl | listed, differ⟩)
        · exact .inr (.inl rfl)
        · exact .inl rfl
        · exact .inr (.inr ⟨listed, differ⟩)

/-- Of pairs that are assigned one after the other the last ones with their names are left. -/
theorem mem_ofList {pairs : List (String × α)} {pair : String × α} :
    pair ∈ ofList pairs ↔ pair ∈ lastOfEach Prod.fst pairs := by
  induction pairs using List.reverseRecOn with
  | nil => rfl
  | append_singleton pairs last ih =>
    rw [ofList_append_singleton, mem_assign (nodup_keys_ofList pairs), ih,
      lastOfEach_append_singleton, List.mem_append, List.mem_filter, List.mem_singleton,
      decide_eq_true_eq, or_comm]

/-- Different names keep their values in the order in which they are assigned. -/
theorem ofList_of_nodup {pairs : List (String × α)} (distinct : (pairs.map (·.1)).Nodup) :
    ofList pairs = pairs := by
  induction pairs using List.reverseRecOn with
  | nil => rfl
  | append_singleton pairs pair ih =>
    rw [List.map_append, List.nodup_append] at distinct
    have absent : pair.1 ∉ pairs.map (·.1) := fun listed =>
      distinct.2.2 pair.1 listed pair.1 (List.mem_singleton_self _) rfl
    rw [ofList_append_singleton, ih distinct.1, assign_of_not_mem absent]

/-- Assigning to the last of different names leaves the others alone. -/
theorem assign_append_self {members : Ordered α} {name : String}
    (absent : name ∉ members.map (·.1)) (old value : α) :
    assign (members ++ [(name, old)]) name value = members ++ [(name, value)] := by
  induction members with
  | nil => simp [assign]
  | cons pair rest ih =>
    obtain ⟨other, first⟩ := pair
    rw [List.map_cons, List.mem_cons, not_or] at absent
    rw [List.cons_append, assign, if_neg (Ne.symm absent.1), ih absent.2, List.cons_append]

/-- A name behind members that do not have it is found there. -/
theorem get?_append_self {members : Ordered α} {name : String}
    (absent : name ∉ members.map (·.1)) (value : α) :
    get? (members ++ [(name, value)]) name = some value := by
  rw [← assign_of_not_mem absent, get?_assign, if_pos rfl]

/-- A name that no member has is not found. -/
theorem get?_eq_none {members : Ordered α} {name : String}
    (absent : name ∉ members.map (·.1)) : get? members name = none := by
  induction members with
  | nil => rfl
  | cons pair rest ih =>
    obtain ⟨other, old⟩ := pair
    rw [List.map_cons, List.mem_cons, not_or] at absent
    rw [get?, if_neg (Ne.symm absent.1), ih absent.2]

/-- Members are looked up in the first list that has them. -/
theorem get?_append (front back : Ordered α) (name : String) :
    get? (front ++ back) name = (get? front name).or (get? back name) := by
  induction front with
  | nil => rfl
  | cons pair rest ih =>
    rw [List.cons_append, get?, get?, ih]
    split <;> rfl

/-! ### Updating

An assignment to a name that is there can be moved in front of the assignments to other names, as it
does not change the order.  One to a name that is not there cannot. -/

/-- Of two assignments to a name the second one counts. -/
theorem assign_assign_self (members : Ordered α) (name : String) (old value : α) :
    assign (assign members name old) name value = assign members name value := by
  induction members with
  | nil => simp [assign]
  | cons pair rest ih =>
    obtain ⟨other, first⟩ := pair
    by_cases here : other = name
    · simp [assign, here]
    · simp [assign, here, ih]

/-- A name that is there may be assigned before or after another one. -/
theorem assign_assign_comm {members : Ordered α} {name other : String}
    (known : name ∈ members.map (·.1)) (differ : name ≠ other) (value second : α) :
    assign (assign members other second) name value =
      assign (assign members name value) other second := by
  induction members with
  | nil => cases known
  | cons pair rest ih =>
    obtain ⟨first, old⟩ := pair
    by_cases isName : first = name
    · subst isName
      simp [assign, differ]
    · by_cases isOther : first = other
      · subst isOther
        simp [assign, isName]
      · have inRest : name ∈ rest.map (·.1) := by
          rcases List.mem_cons.mp known with same | inRest
          · exact absurd same.symm isName
          · exact inRest
        simp [assign, isName, isOther, ih inRest]

/-- A name that is there keeps its place however late it is assigned. -/
theorem assign_update {members more : Ordered α} {name : String}
    (known : name ∈ members.map (·.1)) (absent : name ∉ more.map (·.1)) (value : α) :
    assign (update members more) name value = update (assign members name value) more := by
  induction more generalizing members with
  | nil => rfl
  | cons pair rest ih =>
    rw [List.map_cons, List.mem_cons, not_or] at absent
    have still : name ∈ (assign members pair.1 pair.2).map (·.1) := by
      rw [keys_assign]
      split
      · exact known
      · exact List.mem_append_left _ known
    rw [update_cons, update_cons, ih still absent.2, assign_assign_comm known absent.1]

/-- Updating by members of which one is assigned last. -/
theorem update_assign (members : Ordered α) {more : Ordered α}
    (distinct : (more.map (·.1)).Nodup) (name : String) (value : α) :
    update members (assign more name value) = assign (update members more) name value := by
  induction more generalizing members with
  | nil => rfl
  | cons pair rest ih =>
    obtain ⟨other, old⟩ := pair
    rw [List.map_cons, List.nodup_cons] at distinct
    by_cases here : other = name
    · subst here
      have known : other ∈ (assign members other old).map (·.1) := by
        rw [keys_assign]
        split
        · assumption
        · exact List.mem_append_right _ (List.mem_singleton_self _)
      rw [assign, if_pos rfl, update_cons, update_cons, assign_update known distinct.1,
        assign_assign_self]
    · rw [assign, if_neg here, update_cons, update_cons, ih _ distinct.2]

/-- Updating by pairs is updating by what assigning them one after the other leaves. -/
theorem update_ofList (members : Ordered α) (pairs : List (String × α)) :
    update members (ofList pairs) = update members pairs := by
  induction pairs using List.reverseRecOn with
  | nil => rfl
  | append_singleton pairs pair ih =>
    rw [ofList_append_singleton, update_assign members (nodup_keys_ofList pairs), ih, update_append]
    rfl

/-- Members that are updated by others: the names of the first keep their places, those that only
the second has follow in their order, and a name that both have takes the value of the second. -/
structure Merged (first second merged : Ordered α) : Prop where
  names : merged.map (·.1) =
    first.map (·.1) ++ (second.map (·.1)).filter (· ∉ first.map (·.1))
  values : ∀ name, get? merged name = (get? second name).or (get? first name)

private theorem keys_update
    (members : Ordered α) {more : Ordered α} (distinct : (more.map (·.1)).Nodup) :
    (update members more).map (·.1) =
      members.map (·.1) ++ (more.map (·.1)).filter (· ∉ members.map (·.1)) := by
  induction more generalizing members with
  | nil => simp
  | cons pair rest ih =>
    rw [List.map_cons, List.nodup_cons] at distinct
    rw [update_cons, ih _ distinct.2, keys_assign, List.map_cons]
    by_cases known : pair.1 ∈ members.map (·.1)
    · rw [if_pos known, List.filter_cons_of_neg (by simpa using known)]
    · rw [if_neg known, List.filter_cons_of_pos (by simpa using known), List.append_assoc,
        List.singleton_append]
      congr 2
      -- no later name is the one that has just been added
      refine List.filter_congr fun name listed => ?_
      have differ : name ≠ pair.1 := fun same => distinct.1 (same ▸ listed)
      simp [differ]

private theorem get?_update
    (members : Ordered α) {more : Ordered α} (distinct : (more.map (·.1)).Nodup)
    (name : String) :
    get? (update members more) name = (get? more name).or (get? members name) := by
  induction more generalizing members with
  | nil => rfl
  | cons pair rest ih =>
    obtain ⟨other, value⟩ := pair
    rw [List.map_cons, List.nodup_cons] at distinct
    rw [update_cons, ih _ distinct.2, get?_assign, get?]
    by_cases here : name = other
    · subst here
      rw [if_pos rfl, if_pos rfl, get?_eq_none distinct.1, Option.none_or, Option.some_or]
    · rw [if_neg here, if_neg (Ne.symm here)]

/-- Updating leaves the names and the values that are described.  The two describe what is left
completely, since members with different names are determined by them. -/
theorem merged_update (members : Ordered α) {more : Ordered α}
    (distinct : (more.map (·.1)).Nodup) : Merged members more (update members more) :=
  ⟨keys_update members distinct, get?_update members distinct⟩

end Ordered

end OpenResponse
