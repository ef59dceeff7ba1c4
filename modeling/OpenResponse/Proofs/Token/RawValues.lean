import OpenResponse.Token.Literal

/-!
# Values of raw literals

A raw literal ends at the first quote that its hash marks follow.  Its value is therefore any text
in which no quote is followed by them, and only such a text.

The end is never found too early, with its quote still in the value and its hash marks reaching into
those of the true end.  They would have to pass the closing quote, which is not a hash mark.

So a closing mark that begins within the value ends within it, which is `rawClosing_prefix_append`.
With it both directions follow by induction along the text: at each character either the mark stands
here and the value is empty, or it does not and the value goes on.

## Main definitions

* `rawClosing` — the end of a raw literal

## Main statements

* `rawValue?_eq_some_iff` — **the value is what stands in front of the first closing mark**
* `rawValue?_append` — the value does not depend on what follows the literal

## Design notes

That the mark does not occur in the value is said with `List.IsInfix`, for any place in it.  Without
hash marks the mark is a quote alone, and the statement says that the value holds no quote; no case
is made of it.
-/

namespace OpenResponse

/-- The end of a raw literal: a quote with hash marks behind it.  The content of a raw literal goes
on to the first occurrence of it. -/
def rawClosing (hashes : Nat) : List Char := '"' :: List.replicate hashes '#'

section Closing

variable {hashes : Nat} {c : Char} {text rest value back : List Char}

private theorem not_rawClosing_infix_nil (hashes : Nat) : ¬ rawClosing hashes <:+: [] :=
  fun occurs => List.cons_ne_nil _ _ (List.infix_nil.mp occurs)

/-- Hash marks that begin in front of another character end in front of it. -/
theorem replicate_prefix_append_cons {b : Char} (notHash : b ≠ '#') :
    List.replicate hashes '#' <+: text ++ b :: back ↔ List.replicate hashes '#' <+: text := by
  induction hashes generalizing text with
  | zero => exact iff_of_true List.nil_prefix List.nil_prefix
  | succ hashes ih =>
    rw [List.replicate_succ]
    cases text with
    | nil =>
      rw [List.nil_append, List.cons_prefix_cons, List.prefix_nil]
      exact iff_of_false (fun both => notHash both.1.symm) (List.cons_ne_nil _ _)
    | cons c rest => rw [List.cons_append, List.cons_prefix_cons, List.cons_prefix_cons, ih]

/-- A closing mark that begins in front of another one ends in front of it. -/
theorem rawClosing_prefix_append (nonempty : text ≠ []) :
    rawClosing hashes <+: text ++ (rawClosing hashes ++ back) ↔ rawClosing hashes <+: text := by
  obtain ⟨c, rest, rfl⟩ := List.exists_cons_of_ne_nil nonempty
  rw [rawClosing, List.cons_append, List.cons_append, List.cons_prefix_cons, List.cons_prefix_cons,
    replicate_prefix_append_cons (by decide)]

/-- Where a closing mark stands, the value ends. -/
theorem rawValue?_of_begins (begins : rawClosing hashes <+: text) :
    rawValue? hashes text = some [] := by
  obtain ⟨back, rfl⟩ := begins
  exact if_pos ⟨rfl, List.isPrefixOf_iff_prefix.mpr (List.prefix_append _ back)⟩

/-- Where none stands, the value goes on. -/
theorem rawValue?_cons_of_not (notHere : ¬ rawClosing hashes <+: c :: rest) :
    rawValue? hashes (c :: rest) = (rawValue? hashes rest).map (c :: ·) := by
  refine if_neg fun ends => notHere ?_
  exact List.cons_prefix_cons.mpr ⟨ends.1.symm, List.isPrefixOf_iff_prefix.mp ends.2⟩

/-- **The value of a raw literal** is what stands in front of the first closing mark: the mark
follows it and does not occur in it. -/
theorem rawValue?_eq_some_iff :
    rawValue? hashes text = some value ↔
      ¬ rawClosing hashes <:+: value ∧ ∃ back, text = value ++ (rawClosing hashes ++ back) := by
  induction text generalizing value with
  | nil => simp [rawValue?, rawClosing]
  | cons c rest ih =>
    by_cases here : rawClosing hashes <+: c :: rest
    · rw [rawValue?_of_begins here]
      constructor
      · rintro ⟨⟩
        obtain ⟨back, same⟩ := here
        exact ⟨not_rawClosing_infix_nil hashes, back, same.symm⟩
      · rintro ⟨absent, back, same⟩
        cases value with
        | nil => rfl
        | cons d value =>
          -- the mark that stands here would be a part of the value
          rw [same, rawClosing_prefix_append (List.cons_ne_nil d value)] at here
          exact absurd here.isInfix absent
    · rw [rawValue?_cons_of_not here, Option.map_eq_some_iff]
      constructor
      · rintro ⟨others, found, rfl⟩
        obtain ⟨absent, back, rfl⟩ := ih.mp found
        refine ⟨fun occurs => ?_, back, rfl⟩
        rcases List.infix_cons_iff.mp occurs with first | later
        · exact here (first.trans (List.prefix_append (c :: others) _))
        · exact absent later
      · rintro ⟨absent, back, same⟩
        cases value with
        | nil => exact absurd ⟨back, same.symm⟩ here
        | cons d value =>
          cases same
          have stillAbsent : ¬ rawClosing hashes <:+: value :=
            fun occurs => absent (occurs.trans (List.suffix_cons c value).isInfix)
          exact ⟨value, ih.mpr ⟨stillAbsent, back, rfl⟩, rfl⟩

/-- A raw literal ends inside its text, and its value is the same whatever follows.  Both follow
from the closing mark being the first one, which more text behind it cannot change. -/
theorem rawValue?_append (found : rawValue? hashes text = some value) (more : List Char) :
    value.length + 1 + hashes ≤ text.length ∧ rawValue? hashes (text ++ more) = some value := by
  obtain ⟨absent, back, rfl⟩ := rawValue?_eq_some_iff.mp found
  constructor
  · simp only [rawClosing, List.length_append, List.length_cons, List.length_replicate]
    omega
  · exact rawValue?_eq_some_iff.mpr ⟨absent, back ++ more, by simp⟩

end Closing

end OpenResponse
