import Mathlib.Data.List.DropRight
import OpenResponse.Text.Blank
import OpenResponse.TypeRef

/-!
# Trimmed texts, lines and last segments

Trimming takes blanks away at both ends of a text, and nothing between two characters that are not
blank.  A text is cut into lines from its front.  The last segment of a text is what stands behind
its last separator; so it goes on to the end of the text from any place behind which there is no
separator.

In all three cases the text is given in pieces and the laws say how the function goes through the
pieces.  Trimming at the left stops inside the first piece or goes on to the second, depending on
whether there is a character in the way; trimming at the right is the same on the reversed text.

## Main statements

* `trim_append` — what is left of a text that ends in blanks
* `splitLines_append`, `splitLines_of_unbroken` — lines
* `lastSegment_append`, `lastSegment_separator` — last segments
* `unseparated_append` — texts without separators

## Hypotheses

Where a piece is asked to be without separators, a separator of two colons could still arise where
two pieces meet.  That is why the last or the first character of a piece is asked about too.
-/

namespace OpenResponse

/-! ### Trimming

A character that is not blank fixes where trimming stops, from either side. -/

variable {front body trail : List Char}

/-- Trimming at the left stops at a character that is not blank. -/
theorem trimLeft_append (front : List Char) {c : Char} (solid : isBlank c = false)
    (rest : List Char) : trimLeft (front ++ c :: rest) = trimLeft front ++ c :: rest := by
  induction front with
  | nil => simp [trimLeft, solid]
  | cons d front ih =>
    by_cases blank : isBlank d = true
    · rw [List.cons_append, trimLeft_of_isBlank _ blank, ih, trimLeft_of_isBlank _ blank]
    · simp [trimLeft, blank]

/-- What is left of blanks. -/
theorem trimLeft_eq_nil (blank : ∀ c ∈ front, isBlank c = true) : trimLeft front = [] :=
  List.dropWhile_eq_nil_iff.mpr blank

/-- What is left of a text that ends in blanks.  The blanks at the end are taken away, and those in
front as before. -/
theorem trim_append (front : List Char) (nonempty : body ≠ [])
    (first : isBlank (body.head nonempty) = false) (last : isBlank (body.getLast nonempty) = false)
    (blank : ∀ c ∈ trail, isBlank c = true) :
    trim (front ++ (body ++ trail)) = trimLeft front ++ body := by
  obtain ⟨c, middle, isCons⟩ := List.exists_cons_of_ne_nil nonempty
  have left : trimLeft (front ++ (body ++ trail)) = trimLeft front ++ (body ++ trail) := by
    simp only [isCons, List.head_cons] at first
    rw [isCons, List.cons_append, trimLeft_append _ first]
  have reversed : (trimLeft front ++ (body ++ trail)).reverse =
      trail.reverse ++ body.getLast nonempty :: (trimLeft front ++ body.dropLast).reverse := by
    have turned : body.reverse = body.getLast nonempty :: body.dropLast.reverse := by
      rw [← List.reverse_concat, List.dropLast_append_getLast nonempty]
    rw [List.reverse_append, List.reverse_append, turned, List.reverse_append]
    simp
  rw [trim, left, reversed, trimLeft_append _ last,
    trimLeft_eq_nil fun c listed => blank c (List.mem_reverse.mp listed), List.nil_append,
    List.reverse_cons, List.reverse_reverse, List.append_assoc,
    List.dropLast_append_getLast nonempty]

/-- Blanks in front of a text do not change what is left of it. -/
theorem trim_cons_of_isBlank {c : Char} (blank : isBlank c = true) (text : List Char) :
    trim (c :: text) = trim text := by
  rw [trim, trimLeft_of_isBlank text blank, trim]

/-- So do several blanks. -/
theorem trim_append_of_blank (blank : ∀ c ∈ front, isBlank c = true) (text : List Char) :
    trim (front ++ text) = trim text := by
  induction front with
  | nil => rfl
  | cons c front ih =>
    obtain ⟨first, others⟩ := List.forall_mem_cons.mp blank
    rw [List.cons_append, trim_cons_of_isBlank first, ih others]

/-- Trimming leaves no blank at the end. -/
theorem isBlank_getLast_of_trim_eq (trimmed : trim body = body) (nonempty : body ≠ []) :
    isBlank (body.getLast nonempty) = false := by
  have turned : trimLeft (trimLeft body).reverse = body.reverse :=
    List.reverse_eq_iff.mp trimmed
  have remains : trimLeft (trimLeft body).reverse ≠ [] := by
    rw [turned]
    exact List.reverse_ne_nil_iff.mpr nonempty
  have solid : isBlank ((trimLeft (trimLeft body).reverse).head remains) = false :=
    List.head_dropWhile_not isBlank remains
  simpa only [turned, List.head_reverse] using solid

/-! ### Lines

Lines are collected in an accumulator, so the law is proved for any accumulator first. -/

private theorem splitLinesFrom_append {line : List Char} (unbroken : ∀ c ∈ line, endsLine c = false)
    (current rest : List Char) :
    splitLinesFrom current (line ++ rest) = splitLinesFrom (line.reverse ++ current) rest := by
  induction line generalizing current with
  | nil => rfl
  | cons c line ih =>
    obtain ⟨first, others⟩ := List.forall_mem_cons.mp unbroken
    have notReturn : ∀ more, c = '\r' → line ++ rest = '\n' :: more → False := by
      rintro more rfl
      cases first
    rw [List.cons_append, splitLinesFrom.eq_3 current c _ notReturn, if_neg (by simp [first]),
      ih others, List.reverse_cons, List.append_assoc, List.singleton_append]

/-- A line break cuts a line off.  The line in front of it is the first one, and the lines behind it
are those of what is there. -/
theorem splitLines_append {line : List Char} (unbroken : ∀ c ∈ line, endsLine c = false)
    (rest : List Char) : splitLines (line ++ '\n' :: rest) = line :: splitLines rest := by
  have notReturn : ∀ more, '\n' = '\r' → rest = '\n' :: more → False := by
    intro more same
    exact absurd same (by decide)
  rw [splitLines, splitLinesFrom_append unbroken, splitLinesFrom.eq_3 _ _ _ notReturn,
    if_pos (by decide), List.append_nil, List.reverse_reverse, splitLines]

/-- A text without line breaks is one line.  An empty text has no line at all. -/
theorem splitLines_of_unbroken {line : List Char} (unbroken : ∀ c ∈ line, endsLine c = false)
    (nonempty : line ≠ []) : splitLines line = [line] := by
  have whole := splitLinesFrom_append unbroken [] []
  rw [List.append_nil, List.append_nil] at whole
  rw [splitLines, whole, splitLinesFrom, if_neg (by simpa using nonempty), List.reverse_reverse]

/-! ### Separators

A path is a text with names between separators.  Its last segment is found from the end. -/

/-- A text up to its first separator stays as it is in front of others. -/
theorem untilSeparator_append (unseparated : ¬ [':', ':'] <:+: body)
    (last : body.getLast? ≠ some ':') (back : List Char) :
    untilSeparator (body ++ back) = body ++ untilSeparator back := by
  induction body with
  | nil => rfl
  | cons c body ih =>
    have inner : ¬ [':', ':'] <:+: body :=
      fun inside => unseparated (inside.trans (List.suffix_cons c body).isInfix)
    have step : untilSeparator (c :: (body ++ back)) = c :: untilSeparator (body ++ back) := by
      refine untilSeparator.eq_3 c _ fun rest isColon same => ?_
      cases body with
      | nil => exact last (by rw [isColon]; rfl)
      | cons d body =>
        cases same
        exact unseparated ⟨[], body, by rw [isColon]; rfl⟩
    rw [List.cons_append, step]
    cases body with
    | nil => rfl
    | cons d body =>
      rw [ih inner (by rwa [List.getLast?_cons_cons] at last)]
      rfl

/-- The last segment of a text goes on to its end from any place behind which there is no
separator. -/
theorem lastSegment_append (front : List Char) (unseparated : ¬ [':', ':'] <:+: body)
    (first : body.head? ≠ some ':') :
    lastSegment (String.ofList (front ++ body)) =
      String.ofList ((lastSegment (String.ofList front)).toList ++ body) := by
  have turned : ¬ [':', ':'] <:+: body.reverse :=
    fun inside => unseparated (List.reverse_infix.mp inside)
  rw [lastSegment, lastSegment, String.toList_ofList, String.toList_ofList, String.toList_ofList,
    List.reverse_append, untilSeparator_append turned (by rwa [List.getLast?_reverse]),
    List.reverse_append, List.reverse_reverse]

/-- Nothing stands behind a separator at the end.  What is read of such a path is the empty name. -/
theorem lastSegment_separator (front : List Char) :
    lastSegment (String.ofList (front ++ [':', ':'])) = "" := by
  rw [lastSegment, String.toList_ofList, List.reverse_append]
  rfl

/-- There is no separator in a text without colons. -/
theorem unseparated_of_not_mem (noColon : ':' ∉ body) : ¬ [':', ':'] <:+: body :=
  fun inside => noColon (inside.subset List.mem_cons_self)

/-- A text without colons behind another brings no separator with it.  For a separator is two
colons, and both would have to be in the first text. -/
theorem unseparated_append (unseparated : ¬ [':', ':'] <:+: front) (noColon : ':' ∉ body) :
    ¬ [':', ':'] <:+: front ++ body := by
  intro inside
  rcases List.infix_append_iff.mp inside with inFront | inBody | across
  · exact unseparated inFront
  · exact noColon (inBody.subset List.mem_cons_self)
  · obtain ⟨first, second, whole, isSuffix, isPrefix⟩ := across
    cases second with
    | nil =>
      rw [List.append_nil] at whole
      exact unseparated (whole ▸ isSuffix.isInfix)
    | cons c second =>
      have isColon : c ∈ [':', ':'] := whole ▸ List.mem_append_right _ List.mem_cons_self
      have inBody : c ∈ body := isPrefix.subset List.mem_cons_self
      have same : c = ':' := by simpa using isColon
      exact noColon (same ▸ inBody)

end OpenResponse
