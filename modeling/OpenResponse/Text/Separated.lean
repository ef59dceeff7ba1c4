/-!
# Separated texts

A path is a list of names with slashes in between, and a text a list of lines with line feeds in
between.  Cutting a text at a separator and joining the parts with it undo each other, as long as no
part holds the separator.

Separators are single characters here, and a text without any has one part, itself.  So the empty
text has one part, too, which is empty, while joining no parts gives the empty text as well: the two
functions are inverse on lists of parts that are not empty.

## Main definitions

* `cutAt`: the parts of a text between the occurrences of a character.
* `joinWith`: the text that parts and the separators between them make.
* `replaceAll`, `removeAll`: a text with the occurrences of another made a third, or left out.
* `occursIn`: whether a text occurs in another.

## Main statements

* `joinWith_cutAt`, `cutAt_joinWith`: cutting and joining undo each other.

## Design notes

Replacing goes from left to right and does not look at what it has put in.  What has been matched is
passed over by counting, so the function is structurally recursive on the text, and the count is the
only thing to generalise in a proof.
-/

namespace OpenResponse

/-- The parts of a text between the occurrences of a character.  There is always one part more than
there are occurrences. -/
def cutAt (separator : Char) : List Char → List (List Char)
  | [] => [[]]
  | c :: rest =>
    if c = separator then [] :: cutAt separator rest
    else
      match cutAt separator rest with
      | [] => [[c]]
      | part :: parts => (c :: part) :: parts

/-- The text that parts make with the separator between every two of them. -/
def joinWith (separator : Char) : List (List Char) → List Char
  | [] => []
  | [part] => part
  | part :: parts => part ++ separator :: joinWith separator parts

/--
A text with the occurrences of `old` made `new`, read from the left: an occurrence that overlaps an
earlier one stays.  The first `skip` characters belong to an occurrence already.
-/
def replaceFrom (old new : List Char) : Nat → List Char → List Char
  | _, [] => []
  | skip + 1, _ :: rest => replaceFrom old new skip rest
  | 0, c :: rest =>
    if old ≠ [] ∧ old.isPrefixOf (c :: rest) then
      new ++ replaceFrom old new (old.length - 1) rest
    else c :: replaceFrom old new 0 rest

/-- A text with the occurrences of `old` made `new`.  The empty text occurs nowhere. -/
def replaceAll (old new text : List Char) : List Char := replaceFrom old new 0 text

/-- A text without the occurrences of another. -/
def removeAll (unwanted text : List Char) : List Char := replaceAll unwanted [] text

/-- Whether a text occurs in another. -/
def occursIn (wanted : List Char) : List Char → Bool
  | [] => wanted.isEmpty
  | c :: rest => wanted.isPrefixOf (c :: rest) || occursIn wanted rest

/-! ### Laws

The laws for replacing say what happens in front of an occurrence and at one.  They are enough to
follow a text whose occurrences are known. -/

theorem cutAt_ne_nil (separator : Char) (text : List Char) : cutAt separator text ≠ [] := by
  cases text with
  | nil => simp [cutAt]
  | cons c rest =>
    simp only [cutAt]
    split
    · simp
    · split <;> simp

/-- No part holds the separator. -/
theorem not_mem_of_mem_cutAt (separator : Char) (text : List Char) :
    ∀ part ∈ cutAt separator text, separator ∉ part := by
  induction text with
  | nil => simp [cutAt]
  | cons c rest ih =>
    simp only [cutAt]
    by_cases h : c = separator
    · simpa [h] using ih
    · simp only [if_neg h]
      cases hr : cutAt separator rest with
      | nil => simp [Ne.symm h]
      | cons part parts =>
        rw [hr] at ih
        simp only [List.mem_cons, forall_eq_or_imp] at ih ⊢
        exact ⟨by simp [Ne.symm h, ih.1], ih.2⟩

/-- Joining the parts of a text gives the text again. -/
theorem joinWith_cutAt (separator : Char) (text : List Char) :
    joinWith separator (cutAt separator text) = text := by
  induction text with
  | nil => rfl
  | cons c rest ih =>
    simp only [cutAt]
    cases hr : cutAt separator rest with
    | nil => exact absurd hr (cutAt_ne_nil separator rest)
    | cons part parts =>
      rw [hr] at ih
      by_cases h : c = separator
      · simp [h, joinWith, ← ih]
      · cases parts with
        | nil => simp [h, joinWith, ← ih]
        | cons next parts => simp [h, joinWith, ← ih]

theorem cutAt_of_not_mem {separator : Char} {text : List Char} (h : separator ∉ text) :
    cutAt separator text = [text] := by
  induction text with
  | nil => rfl
  | cons c rest ih =>
    simp only [List.mem_cons, not_or] at h
    simp [cutAt, Ne.symm h.1, ih h.2]

private theorem cutAt_append {separator : Char} {part : List Char} (rest : List Char)
    (h : separator ∉ part) :
    cutAt separator (part ++ separator :: rest) = part :: cutAt separator rest := by
  induction part with
  | nil => simp [cutAt]
  | cons c part ih =>
    simp only [List.mem_cons, not_or] at h
    simp [cutAt, Ne.symm h.1, ih h.2]

/-- Parts that do not hold the separator are found again. -/
theorem cutAt_joinWith {separator : Char} {parts : List (List Char)} (nonempty : parts ≠ [])
    (free : ∀ part ∈ parts, separator ∉ part) :
    cutAt separator (joinWith separator parts) = parts := by
  induction parts with
  | nil => exact absurd rfl nonempty
  | cons part parts ih =>
    cases parts with
    | nil => exact cutAt_of_not_mem (free part (by simp))
    | cons next parts =>
      rw [joinWith, cutAt_append _ (free part (by simp)),
        ih (by simp) (fun other h => free other (by simp [h]))]
      simp

/-- A text in which nothing to be replaced begins keeps its first character. -/
theorem replaceAll_cons_of_not {old new : List Char} {c : Char} {rest : List Char}
    (h : old.isPrefixOf (c :: rest) = false) :
    replaceAll old new (c :: rest) = c :: replaceAll old new rest := by
  simp [replaceAll, replaceFrom, h]

@[simp]
theorem replaceAll_nil (old new : List Char) : replaceAll old new [] = [] := by
  simp [replaceAll, replaceFrom]

/-- Nothing is replaced where the empty text is. -/
@[simp]
theorem replaceAll_empty (new text : List Char) : replaceAll [] new text = text := by
  induction text with
  | nil => rfl
  | cons c rest ih => simpa [replaceAll, replaceFrom] using ih

private theorem replaceFrom_length_append (old new taken rest : List Char) :
    replaceFrom old new taken.length (taken ++ rest) = replaceFrom old new 0 rest := by
  induction taken with
  | nil => rfl
  | cons c taken ih => simpa [replaceFrom] using ih

/-- An occurrence at the beginning is replaced as a whole. -/
theorem replaceAll_append {old : List Char} (new rest : List Char) (h : old ≠ []) :
    replaceAll old new (old ++ rest) = new ++ replaceAll old new rest := by
  cases old with
  | nil => exact absurd rfl h
  | cons c old =>
    have begins : (c :: old).isPrefixOf (c :: (old ++ rest)) = true := by
      rw [List.isPrefixOf_iff_prefix, ← List.cons_append]
      exact List.prefix_append ..
    have here : replaceAll (c :: old) new (c :: old ++ rest) =
        new ++ replaceFrom (c :: old) new old.length (old ++ rest) := by
      simp only [replaceAll, List.cons_append, replaceFrom, begins]
      simp
    rw [here, replaceFrom_length_append]
    rfl

end OpenResponse
