import Mathlib.Data.List.Chain
import OpenResponse.Text.CodeRange

/-!
# Comparing tables of code points

A code point is looked up in a table by a walk that ends at the first range behind it.  So the walk
finds all code points of the ranges if each of these ends before the next one begins.

Some tables have hundreds of ranges, so that not each range of one can be compared with each of
another.  Two tables are told apart by walking both at once.

In an increasing table every range that lies in front of a code point is passed over, and the first
that does not is the only one that can hold it.  So nothing is missed by stopping there.  When two
tables are walked together, the ranges of the second that end in front of a range of the first are
dropped for good: the ranges of the first that come later lie further behind.

## Main definitions

* `CodeRanges.Increasing` — tables in which every code point is found
* `CodeRanges.within`, `CodeRanges.separate` — how two tables lie to one another

## Main statements

* `CodeRanges.contains_of_within` — what is in a table is in every table that it lies within
* `CodeRanges.not_contains_of_separate` — what is in one of two separate tables is not in the other

## Hypotheses

`Increasing` is needed only where membership is concluded from a range, in `contains_of_within`.
That two tables are separate is concluded from membership in both, and there the walks are followed
as they are, increasing or not.
-/

namespace OpenResponse

namespace CodeRanges

variable {table other : CodeRanges} {n : Nat}

/-! ### Tables within tables

Each range is asked for one that holds it.  The walk that finds a code point may find it in another
range, which makes no difference. -/

/-- A range of code points ends before another one begins. -/
def Before (range second : Nat × Nat) : Prop := range.1 ≤ range.2 ∧ range.2 < second.1

instance (range second : Nat × Nat) : Decidable (Before range second) :=
  inferInstanceAs (Decidable (_ ∧ _))

instance : Trans Before Before Before where
  trans first second :=
    ⟨first.1, Nat.lt_trans first.2 (Nat.lt_of_le_of_lt second.1 second.2)⟩

/-- Every range of a table ends before the next one begins.  It is a Boolean, so that it can be
evaluated for a table. -/
def Increasing (table : CodeRanges) : Prop := List.IsChain Before table

instance (table : CodeRanges) : Decidable table.Increasing :=
  inferInstanceAs (Decidable (List.IsChain _ table))

/-- Every range of one table lies in a range of another.  Ranges of the second table may be longer,
and need not be used. -/
def within (table other : CodeRanges) : Bool :=
  table.all fun range => other.any fun second => second.1 ≤ range.1 && range.2 ≤ second.2

/-- The walk through an increasing table finds the code points of all its ranges. -/
theorem contains_of_mem (increasing : table.Increasing) {range : Nat × Nat}
    (listed : range ∈ table) (first : range.1 ≤ n) (last : n ≤ range.2) :
    table.contains n = true := by
  have ordered : List.Pairwise Before table := List.isChain_iff_pairwise.mp increasing
  clear increasing
  induction ordered with
  | nil => cases listed
  | @cons head rest before _ ih =>
    obtain ⟨headFirst, headLast⟩ := head
    rw [CodeRanges.contains]
    rcases List.mem_cons.mp listed with rfl | later
    · rw [if_neg (by dsimp only at first; omega), if_pos last]
    · obtain ⟨filled, passed⟩ := before range later
      dsimp only at filled passed
      rw [if_neg (by omega), if_neg (by omega)]
      exact ih later

/-- What is in a table is in every table that the first lies within. -/
theorem contains_of_within (increasing : other.Increasing) (within : table.within other = true)
    (listed : table.contains n = true) : other.contains n = true := by
  obtain ⟨range, inTable, first, last⟩ := exists_of_contains listed
  obtain ⟨second, inOther, covers⟩ :=
    List.any_eq_true.mp (List.all_eq_true.mp within range inTable)
  rw [Bool.and_eq_true, decide_eq_true_eq, decide_eq_true_eq] at covers
  exact contains_of_mem increasing inOther (by omega) (by omega)

/-! ### Separate tables

By induction on the first table, with what is left of the second. -/

/-- Whether no code point lies in both of two tables, which may be large.  A range of the first is
compared only with the first range of the second that does not end before it. -/
def separate : CodeRanges → CodeRanges → Bool
  | [], _ => true
  | range :: rest, other =>
    let later := other.dropWhile fun second => second.2 < range.1
    (later.head?.all fun second => range.2 < second.1) && separate rest later

/-- What is in a table is in what is left of it behind ranges that end before. -/
theorem contains_dropWhile {start : Nat} (behind : start ≤ n) (listed : table.contains n = true) :
    CodeRanges.contains (table.dropWhile fun second => second.2 < start) n = true := by
  induction table with
  | nil => exact listed
  | cons head rest ih =>
    obtain ⟨first, last⟩ := head
    rw [List.dropWhile_cons]
    split
    next passed =>
      rw [decide_eq_true_eq] at passed
      rw [contains] at listed
      split at listed
      next => cases listed
      next =>
        rw [if_neg (by dsimp only at passed; omega)] at listed
        exact ih listed
    next => exact listed

/-- A code point of one of two tables that are separate is not in the other. -/
theorem not_contains_of_separate (separate : table.separate other = true)
    (listed : table.contains n = true) : other.contains n = false := by
  refine Bool.eq_false_iff.mpr fun also => ?_
  induction table generalizing other with
  | nil => cases listed
  | cons range rest ih =>
    obtain ⟨first, last⟩ := range
    rw [CodeRanges.separate, Bool.and_eq_true] at separate
    obtain ⟨atHead, others⟩ := separate
    rw [contains] at listed
    split at listed
    next => cases listed
    next behind =>
      -- ranges that end in front of this one cannot hold the code point either
      have later := contains_dropWhile (Nat.le_of_not_lt behind) also
      split at listed
      next inside =>
        cases isLater : other.dropWhile fun second => decide (second.2 < first) with
        | nil =>
          rw [isLater] at later
          cases later
        | cons second more =>
          rw [isLater] at later atHead
          have before : last < second.1 := of_decide_eq_true atHead
          rw [contains, if_pos (by omega)] at later
          cases later
      next => exact ih others listed later

end CodeRanges

end OpenResponse
