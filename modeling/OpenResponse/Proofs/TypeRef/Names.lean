import OpenResponse.Proofs.Token.Text
import OpenResponse.Proofs.TypeRef.Form

/-!
# Names of types

The name of a type is the last segment of its path, and a path is put together from names of the
text.  No space continues a name, so there is none in the name of a type, wherever the type is read.

That is a fact about characters, but it can be lost: a name of the text could be joined with another
one by something that holds a space.  So it is followed through all that is made of names.  A name
is a run of characters that continue names, a path joins names with colons, and the last segment of
a path is part of the path.

## Main definitions

* `PlainNames` — tokens whose names hold no space

## Main statements

* `scan_plainNames` — the tokens of a text are such
* `TypeForm.space_not_mem_name`, `inlineTypeForm_space_not_mem_name` — so are the names of types

## Hypotheses

`PlainNames` is asked of the tokens of a text, and `scan_plainNames` provides it.  It has to be
asked because a token by itself may have any value; only those that are scanned have the values of
their texts.  It passes to any of the tokens, so the parts of a type need nothing further.
-/

namespace OpenResponse

/-! ### Names in a text

Only the tokens of names are looked at.  A literal may well hold spaces. -/

/-- Tokens whose names hold no space.  Spaces in the values of other tokens do not matter. -/
def PlainNames (tokens : List Token) : Prop :=
  ∀ token ∈ tokens, token.kind = .identifier → ' ' ∉ token.value.toList

theorem PlainNames.mono {tokens inner : List Token} (plain : PlainNames tokens)
    (inside : inner ⊆ tokens) : PlainNames inner :=
  fun token listed => plain token (inside listed)

/-- The names of a text hold no space.  The characters of names are letters and numerals, and a
space is neither. -/
theorem scan_plainNames {here : Location} {text : List Char} {tokens : List Token}
    (scanned : scan here text = .ok tokens) : PlainNames tokens := by
  have notName : continuesName ' ' = false := by decide
  intro token listed isName space
  rw [(scan_carries scanned token listed).2 isName ' ' space] at notName
  cases notName

/-! ### Names of paths

The statements about joined texts and about last segments hold for any character that is not in the
separator. -/

/-- Texts that are joined hold what they hold themselves, and the separator. -/
theorem not_mem_intercalate {c : Char} {separator : String} (notThere : c ∉ separator.toList)
    {texts : List String} (none : ∀ text ∈ texts, c ∉ text.toList) :
    c ∉ (separator.intercalate texts).toList := by
  induction texts with
  | nil => exact List.not_mem_nil
  | cons first rest ih =>
    obtain ⟨notFirst, notRest⟩ := List.forall_mem_cons.mp none
    cases rest with
    | nil =>
      rw [String.intercalate_singleton]
      exact notFirst
    | cons second rest =>
      rw [String.intercalate_cons_cons, String.toList_append, String.toList_append]
      simp only [List.mem_append, not_or]
      exact ⟨⟨notFirst, notThere⟩, ih notRest⟩

private theorem untilSeparator_subset (text : List Char) : untilSeparator text ⊆ text := by
  fun_induction untilSeparator text with
  | case1 => exact List.Subset.refl _
  | case2 => exact List.nil_subset _
  | case3 c rest _ ih => exact List.cons_subset_cons c ih

/-- The last segment of a path holds nothing but what the path holds. -/
theorem not_mem_lastSegment {c : Char} {path : String} (notThere : c ∉ path.toList) :
    c ∉ (lastSegment path).toList := by
  rw [lastSegment, String.toList_ofList, List.mem_reverse]
  exact fun listed => notThere (List.mem_reverse.mp (untilSeparator_subset _ listed))

private theorem PathTail.space_not_mem {tokens : List Token} {names : List String}
    (tail : PathTail tokens names) (plain : PlainNames tokens) :
    ∀ name ∈ names, ' ' ∉ name.toList := by
  induction tail with
  | nil =>
    intro name listed
    cases listed
  | cons _ isName _ ih =>
    refine List.forall_mem_cons.mpr ⟨?_, ih (plain.mono fun _ listed => ?_)⟩
    · exact plain _ (List.mem_cons_of_mem _ List.mem_cons_self) isName
    · exact List.mem_cons_of_mem _ (List.mem_cons_of_mem _ listed)

/-- There is no space in a path. -/
theorem pathForm_space_not_mem {tokens : List Token} {path : String}
    (written : pathForm tokens path) (plain : PlainNames tokens) : ' ' ∉ path.toList := by
  have joined (root : Bool) {tokens : List Token} (plain : PlainNames tokens)
      (written : (do
        let first ← Form.token .identifier
        let names ← tailForm
        return joinPath root (first :: names) : Form String) tokens path) : ' ' ∉ path.toList := by
    obtain ⟨first, back, rfl, isName, names⟩ := Form.token_bind_iff.mp written
    obtain ⟨front, _, names, rfl, tail, rfl, rfl⟩ := names
    have tailPlain := PathTail.space_not_mem tail
      (plain.mono fun _ listed => List.mem_cons_of_mem _ (List.mem_append_left _ listed))
    have all : ∀ name ∈ first.value :: names, ' ' ∉ name.toList :=
      List.forall_mem_cons.mpr ⟨plain first List.mem_cons_self isName, tailPlain⟩
    refine not_mem_intercalate (by decide) (List.forall_mem_append.mpr ⟨?_, all⟩)
    cases root <;> simp
  rcases Form.optional_bind_iff.mp written with ⟨separator, back, rfl, -, behind⟩ | written
  · exact joined true (plain.mono (List.subset_cons_self _ _)) behind
  · exact joined false plain written

/-! ### Names of types

The name of a slice and that of the unit type are fixed.  The name of a path with arguments is that
of the path without them. -/

/-- There is no space in the name of a type.  The name is the last segment of a path, and the path
is made of names. -/
theorem TypeForm.space_not_mem_name {tokens : List Token} {type : TypeRef}
    (written : TypeForm tokens type) : PlainNames tokens → ' ' ∉ type.name.toList := by
  refine TypeForm.inductOn ?shared ?mutable ?slice ?array ?unit ?named ?generic written
  case shared =>
    intro _ _ _ _ _ _ _ _ ih plain
    refine ih (plain.mono fun token listed => ?_)
    exact List.mem_cons_of_mem _ (List.mem_append_right _ listed)
  case mutable =>
    intro _ _ _ _ _ _ _ _ _ ih plain
    refine ih (plain.mono fun token listed => ?_)
    exact List.mem_cons_of_mem _ (List.mem_append_right _ (List.mem_cons_of_mem _ listed))
  case slice => exact fun _ _ _ _ => List.not_mem_nil
  case array => exact fun _ _ _ _ _ _ => List.not_mem_nil
  case unit => exact fun _ _ _ => List.not_mem_nil
  case named =>
    intro _ _ isPath plain
    exact not_mem_lastSegment (pathForm_space_not_mem isPath plain)
  case generic =>
    intro _ _ _ _ _ _ isPath _ _ _ plain
    exact not_mem_lastSegment
      (pathForm_space_not_mem isPath (plain.mono (List.subset_append_left _ _)))

/-- Nor is there in the name of one that may be marked to be written out. -/
theorem inlineTypeForm_space_not_mem_name {tokens : List Token} {type : InlineType}
    (written : inlineTypeForm tokens type) (plain : PlainNames tokens) :
    ' ' ∉ type.type.name.toList := by
  rcases written with marked | ⟨front, _, type, rfl, isType, rfl, rfl⟩
  · obtain ⟨word, _, rfl, -, opened⟩ := Form.word_bind_iff.mp marked
    obtain ⟨opening, _, rfl, -, front, back, type, rfl, isType, closed⟩ :=
      Form.token_bind_iff.mp opened
    obtain ⟨closing, _, rfl, -, rfl, rfl⟩ := Form.token_bind_iff.mp closed
    refine TypeForm.space_not_mem_name isType (plain.mono fun token listed => ?_)
    exact List.mem_cons_of_mem _ (List.mem_cons_of_mem _ (List.mem_append_left _ listed))
  · exact TypeForm.space_not_mem_name isType (plain.mono (List.subset_append_left _ _))

end OpenResponse
