/-!
# Tables of character properties

A property of characters that a standard fixes by listing code points is kept as a table of
inclusive ranges in increasing order.  Membership stops at the first range that begins after the
code point asked for, so the common characters, which come first, are decided at once.

Membership is decided by going through a list.  For a closed table and a closed character that is a
computation, and `decide` evaluates it; for a variable character the laws only use the bounds of the
ranges.

## Main definitions

* `CodeRanges`: a table of inclusive ranges of code points.
* `CodeRanges.contains`: whether a code point lies in one of the ranges.

## Design notes

That a table is in order is not part of its type.  Where a law needs it, it is checked for the table
by evaluation.  The tables are long, but almost every character that is asked about is in ASCII,
where the first ranges decide.
-/

namespace OpenResponse

/-- Inclusive ranges of code points, disjoint and in increasing order. -/
abbrev CodeRanges := List (Nat × Nat)

namespace CodeRanges

/-- Whether a code point lies in one of the ranges of the table. -/
def contains : CodeRanges → Nat → Bool
  | [], _ => false
  | (first, last) :: rest, n =>
    if n < first then false
    else if n ≤ last then true
    else contains rest n

@[simp]
theorem contains_nil (n : Nat) : contains [] n = false := rfl

/-- A member of the table lies between the ends of one of its ranges. -/
theorem exists_of_contains {table : CodeRanges} {n : Nat} (h : contains table n = true) :
    ∃ range ∈ table, range.1 ≤ n ∧ n ≤ range.2 := by
  induction table with
  | nil => simp at h
  | cons range rest ih =>
    obtain ⟨first, last⟩ := range
    unfold contains at h
    split at h
    · contradiction
    · split at h
      · exact ⟨(first, last), by simp, by simp; omega⟩
      · obtain ⟨r, hr, hb⟩ := ih h
        exact ⟨r, by simp [hr], hb⟩

end CodeRanges

end OpenResponse
