import Mathlib.Data.List.Infix
import OpenResponse.Text.Separated

/-!
# Occurrences of texts in texts

Where nothing that is to be replaced begins, a text is kept.  A text that does not hold a separator
occurs among separated parts only within one of them, so that parts can be looked at one by one.

What removing a text takes can be counted: a character that is not in it is kept wherever it is, and
one that is in it becomes rarer as soon as there is an occurrence.

The scan that replaces occurrences goes from the left and passes over an occurrence as a whole, so
occurrences inside of others are not seen and replaced text is not scanned again.  Induction on the
text alone does not match that.  `occurrence_induction` does: its cases are the empty text, a
character at which nothing begins, and an occurrence in front of a text.

## Main statements

* `occursIn_iff` — what occurs in a text
* `replaceAll_append_of_not_begins` — what stands in front of all occurrences is kept
* `replaceAll_of_not_infix` — a text without occurrences is kept
* `count_removeAll_of_not_mem`, `count_removeAll_lt` — what removing a text leaves of a character
* `not_infix_append_cons`, `not_infix_joinWith` — occurrences among separated parts
* `joinWith_inj` — separated texts are equal part by part

## Hypotheses

The text that is looked for must not be empty where the scan has to get on.  An empty one occurs
everywhere, and passing over it would pass over nothing.

Separators are single characters.  A text without the separator cannot reach from one part into the
next, since it would have to hold the separator between them.
-/

namespace OpenResponse

/-- A text occurs in another if it is found at some place in it.  By induction on the text: it is
found here, or in what is left. -/
theorem occursIn_iff {wanted text : List Char} :
    occursIn wanted text = true ↔ wanted <:+: text := by
  induction text with
  | nil => rw [occursIn, List.isEmpty_iff, List.infix_nil]
  | cons c rest ih =>
    rw [occursIn, Bool.or_eq_true, List.isPrefixOf_iff_prefix, ih, List.infix_cons_iff]

/-! ### Replacing

What is kept is stated in front of any text behind it, so that texts can be put together. -/

section Replacing

variable {old new text back : List Char}

/-- What stands in front of all occurrences is kept.  Nothing that is wanted begins there, so the
scan passes it by. -/
theorem replaceAll_append_of_not_begins
    (absent : ∀ rest, rest <:+ text → rest ≠ [] → ¬ old <+: rest ++ back) :
    replaceAll old new (text ++ back) = text ++ replaceAll old new back := by
  induction text with
  | nil => rfl
  | cons c text ih =>
    have here : old.isPrefixOf (c :: (text ++ back)) = false := by
      rw [Bool.eq_false_iff, Ne, List.isPrefixOf_iff_prefix]
      exact absent (c :: text) (List.suffix_refl _) (List.cons_ne_nil c text)
    rw [List.cons_append, replaceAll_cons_of_not here,
      ih fun rest isSuffix => absent rest (isSuffix.trans (List.suffix_cons c text))]
    rfl

/-- A text without occurrences is kept.  It is the case in which nothing is behind what is kept. -/
theorem replaceAll_of_not_infix (absent : ¬ old <:+: text) : replaceAll old new text = text := by
  have kept : replaceAll old new (text ++ []) = text ++ replaceAll old new [] := by
    refine replaceAll_append_of_not_begins fun rest isSuffix _ begins => ?_
    rw [List.append_nil] at begins
    exact absent (List.infix_iff_prefix_suffix.mpr ⟨rest, begins, isSuffix⟩)
  rwa [List.append_nil, replaceAll_nil, List.append_nil] at kept

/-- A text is read from the left: where an occurrence begins it is passed over as a whole, and
elsewhere one character is. -/
theorem occurrence_induction {motive : List Char → Prop} (nonempty : old ≠ []) (nil : motive [])
    (kept : ∀ c rest, ¬ old <+: c :: rest → motive rest → motive (c :: rest))
    (occurrence : ∀ rest, motive rest → motive (old ++ rest)) (text : List Char) :
    motive text := by
  generalize size : text.length = n
  induction n using Nat.strongRecOn generalizing text with
  | _ n ih =>
    subst size
    by_cases begins : old <+: text
    · obtain ⟨rest, rfl⟩ := begins
      have shorter : rest.length < (old ++ rest).length := by
        have := List.length_pos_iff.mpr nonempty
        rw [List.length_append]
        omega
      exact occurrence rest (ih _ shorter rest rfl)
    · cases text with
      | nil => exact nil
      | cons c rest => exact kept c rest begins (ih _ (Nat.lt_succ_self _) rest rfl)

/-- A character at which no occurrence begins is kept. -/
theorem replaceAll_cons_of_not_prefix {c : Char} (notHere : ¬ old <+: c :: text) :
    replaceAll old new (c :: text) = c :: replaceAll old new text :=
  replaceAll_cons_of_not (Bool.eq_false_iff.mpr fun begins =>
    notHere (List.isPrefixOf_iff_prefix.mp begins))

end Replacing

/-! ### Removing

Counting characters shows what is lost without saying where it was. -/

section Removing

variable {unwanted text : List Char} {c : Char}

/-- A character that is not in an unwanted text is kept wherever it is. -/
theorem count_removeAll_of_not_mem (notThere : c ∉ unwanted) (text : List Char) :
    (removeAll unwanted text).count c = text.count c := by
  by_cases empty : unwanted = []
  · rw [empty, removeAll, replaceAll_empty]
  induction text using occurrence_induction empty with
  | nil => rw [removeAll, replaceAll_nil]
  | kept d rest notHere ih =>
    rw [removeAll, replaceAll_cons_of_not_prefix notHere, List.count_cons, List.count_cons]
    exact congrArg (· + _) ih
  | occurrence rest ih =>
    rw [removeAll, replaceAll_append [] rest empty, List.nil_append, List.count_append,
      List.count_eq_zero_of_not_mem notThere, Nat.zero_add]
    exact ih

/-- No character becomes more frequent. -/
theorem count_removeAll_le (nonempty : unwanted ≠ []) (text : List Char) :
    (removeAll unwanted text).count c ≤ text.count c := by
  induction text using occurrence_induction nonempty with
  | nil => rw [removeAll, replaceAll_nil]
  | kept d rest notHere ih =>
    rw [removeAll, replaceAll_cons_of_not_prefix notHere, List.count_cons, List.count_cons]
    exact Nat.add_le_add_right ih _
  | occurrence rest ih =>
    rw [removeAll, replaceAll_append [] rest nonempty, List.nil_append, List.count_append]
    exact ih.trans (Nat.le_add_left _ _)

/-- A character of a text that occurs becomes rarer.  The occurrence that is there is taken away,
and nothing is put in its place. -/
theorem count_removeAll_lt (inUnwanted : c ∈ unwanted) (occurs : unwanted <:+: text) :
    (removeAll unwanted text).count c < text.count c := by
  have nonempty : unwanted ≠ [] := List.ne_nil_of_mem inUnwanted
  induction text using occurrence_induction nonempty with
  | nil => exact absurd (List.infix_nil.mp occurs) nonempty
  | kept d rest notHere ih =>
    have later := ih ((List.infix_cons_iff.mp occurs).resolve_left notHere)
    rw [removeAll, replaceAll_cons_of_not_prefix notHere, List.count_cons, List.count_cons]
    exact Nat.add_lt_add_right later _
  | occurrence rest _ =>
    have taken : 0 < unwanted.count c := List.count_pos_iff.mpr inUnwanted
    have kept : (removeAll unwanted rest).count c ≤ rest.count c :=
      count_removeAll_le nonempty rest
    rw [removeAll, replaceAll_append [] rest nonempty, List.nil_append, List.count_append]
    exact kept.trans_lt (Nat.lt_add_of_pos_left taken)

end Removing

/-! ### Separated parts

Parts that are joined can be found again if none of them holds the separator. -/

section Parts

variable {separator : Char} {wanted first rest : List Char}

/-- A text that does not hold a separator does not occur across it.  An occurrence lies on one side
of the separator or on the other. -/
theorem not_infix_append_cons (free : separator ∉ wanted) (inFirst : ¬ wanted <:+: first)
    (inRest : ¬ wanted <:+: rest) : ¬ wanted <:+: first ++ separator :: rest := by
  intro occurs
  rcases List.infix_append_iff.mp occurs with before | behind | ⟨left, right, rfl, ends, begins⟩
  · exact inFirst before
  · rcases List.infix_cons_iff.mp behind with atSeparator | behind
    · -- a text that begins at the separator holds it, unless it is empty
      cases wanted with
      | nil => exact inFirst (List.nil_infix (l := first))
      | cons c wanted =>
        obtain ⟨back, same⟩ := atSeparator
        cases same
        exact free List.mem_cons_self
    · exact inRest behind
  · cases right with
    | nil =>
      rw [List.append_nil] at inFirst
      exact inFirst ends.isInfix
    | cons c right =>
      obtain ⟨back, same⟩ := begins
      cases same
      exact free (List.mem_append_right left List.mem_cons_self)

/-- A text that does not hold the separator and occurs in no part does not occur among the parts. -/
theorem not_infix_joinWith (free : separator ∉ wanted) (nonempty : wanted ≠ [])
    {parts : List (List Char)} (absent : ∀ part ∈ parts, ¬ wanted <:+: part) :
    ¬ wanted <:+: joinWith separator parts := by
  induction parts with
  | nil => exact fun occurs => nonempty (List.infix_nil.mp occurs)
  | cons part parts ih =>
    obtain ⟨inPart, inParts⟩ := List.forall_mem_cons.mp absent
    cases parts with
    | nil => exact inPart
    | cons next parts => exact not_infix_append_cons free inPart (ih inParts)

/-- A part in front of others. -/
theorem joinWith_cons (part : List Char) {parts : List (List Char)} (nonempty : parts ≠ []) :
    joinWith separator (part :: parts) = part ++ separator :: joinWith separator parts := by
  obtain ⟨next, more, rfl⟩ := List.exists_cons_of_ne_nil nonempty
  rfl

/-- Parts in front of others. -/
theorem joinWith_append {parts others : List (List Char)} (nonempty : parts ≠ [])
    (alsoNonempty : others ≠ []) :
    joinWith separator (parts ++ others) =
      joinWith separator parts ++ separator :: joinWith separator others := by
  induction parts with
  | nil => exact absurd rfl nonempty
  | cons part parts ih =>
    cases parts with
    | nil => exact joinWith_cons part alsoNonempty
    | cons next parts =>
      have more : next :: parts ≠ [] := List.cons_ne_nil next parts
      rw [List.cons_append, joinWith_cons part (List.append_ne_nil_of_left_ne_nil more others),
        ih more, joinWith_cons part more, List.append_assoc, List.cons_append]

/-- What stands behind parts belongs to the last of them. -/
theorem joinWith_concat_append (parts : List (List Char)) (last back : List Char) :
    joinWith separator (parts ++ [last ++ back]) =
      joinWith separator (parts ++ [last]) ++ back := by
  induction parts with
  | nil => rfl
  | cons part parts ih =>
    have nonempty (part : List Char) : parts ++ [part] ≠ [] :=
      List.append_ne_nil_of_right_ne_nil parts (List.cons_ne_nil part [])
    rw [List.cons_append, List.cons_append, joinWith_cons part (nonempty _), ih,
      joinWith_cons part (nonempty _), List.append_assoc, List.cons_append]

/-- Separated texts are equal part by part.  No part may hold the separator, or it would be cut
there as well. -/
theorem joinWith_inj {parts others : List (List Char)} (nonempty : parts ≠ [])
    (alsoNonempty : others ≠ []) (free : ∀ part ∈ parts, separator ∉ part)
    (alsoFree : ∀ part ∈ others, separator ∉ part) :
    joinWith separator parts = joinWith separator others ↔ parts = others := by
  refine ⟨fun same => ?_, fun same => same ▸ rfl⟩
  rw [← cutAt_joinWith nonempty free, same, cutAt_joinWith alsoNonempty alsoFree]

end Parts

end OpenResponse
