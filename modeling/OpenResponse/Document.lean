import OpenResponse.Number.Binary

/-!
# Documents

Example values, schemas and the compiled response objects are documents: null, truth values,
numbers, texts, arrays, and objects whose members keep the order in which they were first assigned.

Objects are lists of pairs.  Two objects with the same members in another order are different
documents, and an object may repeat a name if it is built by hand; those that are built by assigning
never do.  That is why members are always assigned and not appended.

## Main definitions

* `Document`: the documents.
* `Members`: the members of an object, in order.
* `Members.assign`: give a member a value; a new one goes to the end, an old one keeps its place.
* `Members.update`: assign the members of another object one after the other.

## Design notes

The laws of assigning are stated for values of any type, since the memory of a compilation is such a
list as well.

Numbers are of two kinds that are never equal.  Integers are exact and of any size; a number with a
fraction or an exponent is the nearest one of the double format, kept with its sign, so that a
negative zero is not lost.
-/

namespace OpenResponse

/-- A document.  Integers are of any size; numbers written with a fraction or an exponent are
floating point numbers. -/
inductive Document
  | null
  | bool (value : Bool)
  | integer (value : Int)
  | float (value : Binary)
  | string (value : String)
  | array (items : List Document)
  | object (members : List (String × Document))
deriving Repr, Inhabited

/-- Values under names, in the order in which the names were first assigned. -/
abbrev Ordered (α : Type) := List (String × α)

/-- The members of an object.  Their order is kept, since it is seen in every document that is
shown. -/
abbrev Members := Ordered Document

namespace Ordered

variable {α : Type}

/-- Give a name a value.  A name that has one already keeps its place. -/
def assign : Ordered α → String → α → Ordered α
  | [], name, value => [(name, value)]
  | (other, old) :: rest, name, value =>
    if other = name then (other, value) :: rest
    else (other, old) :: assign rest name value

/-- Assign names and values one after the other.  So the names that are new stand behind the others,
in the order in which they come. -/
def update (members : Ordered α) (more : Ordered α) : Ordered α :=
  more.foldl (fun members (name, value) => assign members name value) members

/-- The values under names that may be repeated: a repeated name keeps its first place and takes its
last value. -/
def ofList (pairs : List (String × α)) : Ordered α := update [] pairs

/-- The value of a name, if it has one. -/
def get? : Ordered α → String → Option α
  | [], _ => none
  | (other, value) :: rest, name => if other = name then some value else get? rest name

/-- Whether a name has a value. -/
def has (members : Ordered α) (name : String) : Bool := (get? members name).isSome

@[simp]
theorem assign_nil (name : String) (value : α) : assign [] name value = [(name, value)] := rfl

@[simp]
theorem update_nil (members : Ordered α) : update members [] = members := rfl

@[simp]
theorem update_cons (members : Ordered α) (pair : String × α) (more : Ordered α) :
    update members (pair :: more) = update (assign members pair.1 pair.2) more := rfl

/-- Updating twice is updating once by both. -/
theorem update_append (members first second : Ordered α) :
    update members (first ++ second) = update (update members first) second :=
  List.foldl_append ..

/-- Assigning adds a name at the end, if it is new, and moves none. -/
theorem keys_assign (members : Ordered α) (name : String) (value : α) :
    (assign members name value).map (·.1) =
      if name ∈ members.map (·.1) then members.map (·.1) else members.map (·.1) ++ [name] := by
  induction members with
  | nil => simp
  | cons pair rest ih =>
    obtain ⟨other, old⟩ := pair
    by_cases h : other = name
    · subst h; simp [assign]
    · simp only [assign, if_neg h, List.map_cons, ih, List.mem_cons, Ne.symm h, false_or]
      split <;> simp_all

/-- A name has the value that it was last given, and other names keep theirs. -/
theorem get?_assign (members : Ordered α) (name other : String) (value : α) :
    get? (assign members name value) other =
      if other = name then some value else get? members other := by
  induction members with
  | nil => simp [get?, assign, eq_comm]
  | cons pair rest ih =>
    obtain ⟨key, old⟩ := pair
    by_cases hk : key = name
    · subst hk
      by_cases h : other = key <;> simp [get?, assign, h, eq_comm]
    · by_cases h : key = other
      · subst h; simp [get?, assign, hk]
      · simp [get?, assign, hk, h, ih]

end Ordered

namespace Document

/-- An object with the given members, the later of two with the same name winning. -/
def ofMembers (members : Members) : Document := .object (Ordered.ofList members)

/-- The members of an object; no other document has any. -/
def members : Document → Members
  | .object members => members
  | _ => []

/-- The document with a member assigned, if it is an object.  Any other document stays as it is. -/
def withMember (document : Document) (name : String) (value : Document) : Document :=
  match document with
  | .object members => .object (Ordered.assign members name value)
  | other => other

/-- An array of strings. -/
def strings (texts : List String) : Document := .array (texts.map .string)

end Document

end OpenResponse
