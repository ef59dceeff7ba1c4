import OpenResponse.Proofs.Text.Segments
import OpenResponse.Source.Extraction
import OpenResponse.Text.Separated

/-!
# Lists of paths to derive

The argument of a `derive` attribute is a list of paths with commas between them, and blanks and
comments may stand between any two of its tokens.  It is read as a text: the text is cut at its
commas, and what stands behind the last separator of a part is a name.

Where that gives the last segments of the paths is a matter of layout.  A comma in a comment cuts,
too, and whatever stands between the last segment of a path and the separator before it, or between
the segment and the comma behind it, is taken for a part of the name, unless it is a blank at the
end.  Anywhere else blanks and comments do no harm.  Lists without such harm are called tidy here,
and it is shown that they are the ones that are read as they should be.

## Main definitions

* `IsTrivia`, `Trivia` — blanks and comments
* `DerivePath`, `DeriveList` — paths and lists of them, as they are written
* `DerivePath.Tidy`, `DeriveList.Tidy` — those whose blanks and comments do no harm
* `DeriveList.names` — the last segments of the paths of a list
* `namesIn` — the names that a text is read as

## Main statements

* `derivedNames_eq` — the traits that attributes derive are the names in their arguments
* `DeriveList.Tidy.namesIn_text` — a tidy list is read as the last segments of its paths
* `DeriveList.tidy_of_reads` — and of no other list only segments are read

## Design notes

The direction from tidy to right is a calculation: a tidy list has commas only between its paths, so
it is cut there, and trimming leaves the last segment behind the last separator.

The other direction has to show that every harm is seen.  It works with a mark that cannot come from
a segment.  A slash behind the last separator of a text ends up in a name, and a name with a slash
is no segment; so if only segments are read, no comment stands behind a last separator.  A comma in
a comment would put the first half of that comment at the end of a part, with its slash behind the
last separator of the part.  So there are no such commas either, and then the parts are the paths,
and their layout can be read off one by one.

`EndsInComment` and `CommasInComments` are the two notions of that argument, closed under putting
texts one behind the other, so that the induction over paths and qualifiers is short.

## Hypotheses

The converse asks that comments have no separators in them, since such a comment may end in a name
of its own.
-/

namespace OpenResponse

namespace Source

/-! ### Blanks and comments

The forms are those of sources: comments to the end of a line and comments between marks, which may
be nested.  What stands between two tokens is given with a proof that it is of such a form, so that
only lists that are read as lists of paths can be written down. -/

/-- The rest of a block comment, behind its opening mark.  Comments may be nested. -/
inductive CommentRest : List Char → Prop
  | close : CommentRest ['*', '/']
  | nested {inner rest : List Char} (isInner : CommentRest inner) (isRest : CommentRest rest) :
      CommentRest ('/' :: '*' :: (inner ++ rest))
  | plain {c : Char} {rest : List Char} (notOpening : ¬ ['/', '*'] <+: c :: rest)
      (notClosing : ¬ ['*', '/'] <+: c :: rest) (isRest : CommentRest rest) :
      CommentRest (c :: rest)

/-- Blanks and comments.  They may alternate, and what the rest of a block comment can be is said by
`CommentRest`. -/
inductive IsTrivia : List Char → Prop
  | nil : IsTrivia []
  | blank {c : Char} {rest : List Char} (isBlank : isBlank c = true) (more : IsTrivia rest) :
      IsTrivia (c :: rest)
  /-- A comment up to the end of its line. -/
  | line {comment rest : List Char} (inLine : '\n' ∉ comment) (more : IsTrivia rest) :
      IsTrivia ('/' :: '/' :: (comment ++ '\n' :: rest))
  /-- A comment up to its closing mark. -/
  | block {comment rest : List Char} (isComment : CommentRest comment) (more : IsTrivia rest) :
      IsTrivia ('/' :: '*' :: (comment ++ rest))

/-- Blanks without comments. -/
theorem IsTrivia.of_blank {text : List Char} (blank : ∀ c ∈ text, isBlank c = true) :
    IsTrivia text := by
  induction text with
  | nil => exact .nil
  | cons c text ih =>
    obtain ⟨first, others⟩ := List.forall_mem_cons.mp blank
    exact .blank first (ih others)

/-- A comment without marks inside. -/
theorem CommentRest.of_plain {text : List Char} (plain : ∀ c ∈ text, c ≠ '*' ∧ c ≠ '/') :
    CommentRest (text ++ ['*', '/']) := by
  induction text with
  | nil => exact .close
  | cons c text ih =>
    obtain ⟨⟨notStar, notSlash⟩, others⟩ := List.forall_mem_cons.mp plain
    refine .plain (fun opening => ?_) (fun closing => ?_) (ih others)
    · exact notSlash (List.cons_prefix_cons.mp opening).1.symm
    · exact notStar (List.cons_prefix_cons.mp closing).1.symm

/-- What stands between two tokens.  It may be empty, which is the usual case. -/
structure Trivia where
  /-- The text. -/
  text : List Char
  isTrivia : IsTrivia text

namespace Trivia

/-- Blanks between two tokens. -/
def blanks (text : String) (blank : text.toList.all isBlank = true) : Trivia :=
  ⟨text.toList, .of_blank (List.all_eq_true.mp blank)⟩

/-- A comment between two tokens. -/
def comment (text : String) (plain : text.toList.all (fun c => c != '*' && c != '/') = true) :
    Trivia :=
  ⟨'/' :: '*' :: (text.toList ++ ['*', '/'] ++ []),
    .block (.of_plain fun c listed => by simpa using List.all_eq_true.mp plain c listed) .nil⟩

/-- There are no comments, only blanks. -/
def IsBlank (trivia : Trivia) : Prop := ∀ c ∈ trivia.text, isBlank c = true

instance (trivia : Trivia) : Decidable trivia.IsBlank :=
  decidable_of_iff (trivia.text.all OpenResponse.isBlank = true) List.all_eq_true

/-- No comment has a separator of paths in it. -/
def Unseparated (trivia : Trivia) : Prop := ¬ [':', ':'] <:+: trivia.text

end Trivia

/-- A name that a path has between its separators: a word, perhaps marked as a raw one. -/
inductive IsSegment : List Char → Prop
  | word {text : List Char} (nonempty : text ≠ []) (letters : ∀ c ∈ text, inWord c = true) :
      IsSegment text
  | raw {text : List Char} (nonempty : text ≠ []) (letters : ∀ c ∈ text, inWord c = true) :
      IsSegment ('r' :: '#' :: text)

/-- A segment of a path. -/
structure Segment where
  /-- The text. -/
  text : List Char
  isSegment : IsSegment text

/-- A word as a segment. -/
def Segment.ofWord (text : String) (nonempty : text.toList ≠ [])
    (letters : text.toList.all inWord = true) : Segment :=
  ⟨text.toList, .word nonempty (List.all_eq_true.mp letters)⟩

/-! ### Paths and lists

A path is taken apart as it is written, with everything between its tokens.  The last segment stands
apart from the others, because it is the name. -/

/-- What stands before the last segment of a path, with its separators. -/
inductive Qualifier
  /-- Nothing. -/
  | bare
  /-- The separator of a path that begins at the root. -/
  | root (behind : Trivia)
  /-- A segment and a separator. -/
  | step (outer : Qualifier) (segment : Segment) (before behind : Trivia)

namespace Qualifier

/-- The text of a qualifier. -/
def text : Qualifier → List Char
  | bare => []
  | root behind => ':' :: ':' :: behind.text
  | step outer segment before behind =>
    outer.text ++ (segment.text ++ (before.text ++ ':' :: ':' :: behind.text))

/-- The blanks and comments of a qualifier. -/
def trivia : Qualifier → List Trivia
  | bare => []
  | root behind => [behind]
  | step outer _ before behind => outer.trivia ++ [before, behind]

end Qualifier

/-- A path as it is written, from the comma before it to the one behind it. -/
structure DerivePath where
  /-- What stands before the path. -/
  lead : Trivia
  /-- What stands before the last segment. -/
  qualifier : Qualifier
  /-- The last segment. -/
  last : Segment
  /-- What stands behind the path. -/
  trail : Trivia

namespace DerivePath

/-- The text of a path. -/
def text (path : DerivePath) : List Char :=
  path.lead.text ++ (path.qualifier.text ++ (path.last.text ++ path.trail.text))

/-- The blanks and comments of a path. -/
def trivia (path : DerivePath) : List Trivia :=
  path.lead :: (path.qualifier.trivia ++ [path.trail])

/-- The last segment of a path, as a name. -/
def name (path : DerivePath) : String := String.ofList path.last.text

end DerivePath

/-- A list of paths as it is written.  Whether a comma follows the last path is told by `ending`, so
that a list has one text only. -/
structure DeriveList where
  /-- The paths. -/
  paths : List DerivePath
  /-- What stands behind the last comma, if the list ends in one, or in a list without paths. -/
  ending : Option Trivia

namespace DeriveList

/-- The text of a list. -/
def text (list : DeriveList) : List Char :=
  joinWith ',' (list.paths.map DerivePath.text ++ (list.ending.map Trivia.text).toList)

/-- The last segments of the paths of a list.  This is what a list is meant to derive, whether it is
tidy or not. -/
def names (list : DeriveList) : List String := list.paths.map DerivePath.name

/-- The blanks and comments of a list. -/
def trivia (list : DeriveList) : List Trivia :=
  list.paths.flatMap DerivePath.trivia ++ list.ending.toList

end DeriveList

/-! ### Layouts

Being tidy is decidable, for a path and for a list. -/

/-- There is nothing between the last segment of a path and the separator before it; and if there
is no separator, there are only blanks before the segment. -/
def Qualifier.Adjoins (lead : Trivia) : Qualifier → Prop
  | bare => lead.IsBlank
  | root behind => behind.text = []
  | step _ _ _ behind => behind.text = []

instance (lead : Trivia) : (qualifier : Qualifier) → Decidable (qualifier.Adjoins lead)
  | .bare => inferInstanceAs (Decidable lead.IsBlank)
  | .root behind | .step _ _ _ behind => inferInstanceAs (Decidable (behind.text = []))

/-- A path whose blanks and comments do no harm.  A comma in a comment would cut the path in two,
whatever stands behind the last separator would be part of the segment, and so would a comment
behind the path. -/
structure DerivePath.Tidy (path : DerivePath) : Prop where
  noComma : ∀ trivia ∈ path.trivia, ',' ∉ trivia.text
  adjoins : path.qualifier.Adjoins path.lead
  trail : path.trail.IsBlank

instance (path : DerivePath) : Decidable path.Tidy :=
  decidable_of_iff ((∀ trivia ∈ path.trivia, ',' ∉ trivia.text) ∧
      path.qualifier.Adjoins path.lead ∧ path.trail.IsBlank)
    ⟨fun ⟨noComma, adjoins, trail⟩ => ⟨noComma, adjoins, trail⟩,
      fun tidy => ⟨tidy.noComma, tidy.adjoins, tidy.trail⟩⟩

/-- A list whose blanks and comments do no harm.  Behind the last comma even a comment does harm, as
it is read for a name. -/
structure DeriveList.Tidy (list : DeriveList) : Prop where
  paths : ∀ path ∈ list.paths, path.Tidy
  ending : ∀ trivia ∈ list.ending, trivia.IsBlank

instance (list : DeriveList) : Decidable list.Tidy :=
  decidable_of_iff ((∀ path ∈ list.paths, path.Tidy) ∧ ∀ trivia ∈ list.ending, trivia.IsBlank)
    ⟨fun ⟨paths, ending⟩ => ⟨paths, ending⟩, fun tidy => ⟨tidy.paths, tidy.ending⟩⟩

/-! ### Characters

Segments are made of solid characters, and none of the marks at which a text is taken apart is one.
-/

section Characters

variable {c : Char} {text : List Char}

/-- Blanks are beyond ASCII, or before its printed characters. -/
theorem toNat_of_isBlank (blank : isBlank c = true) : c.toNat ≤ 0x20 ∨ 0x80 ≤ c.toNat := by
  obtain ⟨range, listed, first, last⟩ := CodeRanges.exists_of_contains blank
  simp only [blankRanges, List.mem_cons, List.not_mem_nil, or_false] at listed
  rcases listed with rfl | rfl | rfl | rfl | rfl | rfl | rfl | rfl | rfl | rfl <;>
    simp only at first last <;> omega

/-- Capital letters, small letters and digits stand in three runs of ASCII. -/
private theorem toNat_of_isAlphanum (alphanum : c.isAlphanum = true) :
    65 ≤ c.toNat ∧ c.toNat ≤ 90 ∨ 97 ≤ c.toNat ∧ c.toNat ≤ 122 ∨
      48 ≤ c.toNat ∧ c.toNat ≤ 57 := by
  rcases (Bool.or_eq_true c.isAlpha c.isDigit).mp alphanum with letter | digit
  · rcases (Bool.or_eq_true c.isUpper c.isLower).mp letter with upper | lower
    · exact .inl (of_decide_eq_true upper)
    · have bounds := (Bool.and_eq_true _ _).mp lower
      exact .inr (.inl (bounds.imp of_decide_eq_true of_decide_eq_true))
  · have bounds := (Bool.and_eq_true _ _).mp digit
    exact .inr (.inr (bounds.imp of_decide_eq_true of_decide_eq_true))

/-- No blank stands in a word. -/
theorem not_isBlank_of_inWord (letter : inWord c = true) : isBlank c = false := by
  refine Bool.eq_false_iff.mpr fun blank => ?_
  have places := toNat_of_isBlank blank
  rw [inWord, Bool.or_eq_true, Bool.or_eq_true, Bool.and_eq_true, isGap, blank] at letter
  rcases letter with (alphanum | underscore) | ⟨-, noGap⟩
  · have run := toNat_of_isAlphanum alphanum
    omega
  · rw [eq_of_beq underscore] at places
    revert places
    decide
  · cases noGap

/-- A character that is no blank and none of the marks that paths are taken apart at. -/
structure IsSolid (c : Char) : Prop where
  notBlank : isBlank c = false
  notColon : c ≠ ':'
  notComma : c ≠ ','
  notSlash : c ≠ '/'

/-- The characters of words are solid. -/
theorem IsSolid.of_inWord (letter : inWord c = true) : IsSolid c where
  notBlank := not_isBlank_of_inWord letter
  notColon := by
    rintro rfl
    revert letter
    decide
  notComma := by
    rintro rfl
    revert letter
    decide
  notSlash := by
    rintro rfl
    revert letter
    decide

namespace IsSegment

private theorem ne_nil (isSegment : IsSegment text) : text ≠ [] := by
  cases isSegment with
  | word nonempty => exact nonempty
  | raw => exact List.cons_ne_nil _ _

private theorem isSolid (isSegment : IsSegment text) : ∀ c ∈ text, IsSolid c := by
  cases isSegment with
  | word _ letters => exact fun c listed => .of_inWord (letters c listed)
  | raw _ letters =>
    refine List.forall_mem_cons.mpr ⟨.of_inWord (by decide), List.forall_mem_cons.mpr ⟨?_, ?_⟩⟩
    · exact ⟨by decide, by decide, by decide, by decide⟩
    · exact fun c listed => .of_inWord (letters c listed)

end IsSegment

end Characters

/-! ### What is read of a text

Reading a text is cutting it at its commas and reading each part, so reading distributes over texts
with a comma in between. -/

/-- The name that a part of a text is read as, unless it is blank. -/
def nameIn? (part : List Char) : Option String :=
  if trim part = [] then none else some (lastSegment (String.ofList (trim part)))

/-- The names that a text is read as.  The text is cut at every comma, wherever it stands, and what
is empty after trimming is no name. -/
def namesIn (text : List Char) : List String := (cutAt ',' text).filterMap nameIn?

/-- Cutting goes on behind a part that is not at its end yet. -/
theorem splitTextFrom_eq (current text : List Char) :
    splitTextFrom current text =
      (cutAt ',' text).modifyHead (current.reverse ++ ·) := by
  fun_induction splitTextFrom current text with
  | case1 current => simp [cutAt]
  | case2 current rest ih =>
    rw [ih, cutAt, if_pos rfl]
    cases cutAt ',' rest <;> simp
  | case3 current c rest notComma ih =>
    rw [ih, cutAt, if_neg fun same => notComma same]
    cases cut : cutAt ',' rest with
    | nil => exact absurd cut (cutAt_ne_nil ',' rest)
    | cons part parts => simp

/-- The traits that attributes derive are the names that their arguments are read as. -/
theorem derivedNames_eq (attributes : List Attribute) :
    derivedNames attributes = (attributes.filter (·.name == "derive")).flatMap fun attr =>
      namesIn attr.arguments.toList := by
  refine List.flatMap_congr fun attr _ => ?_
  have whole : splitTextFrom [] attr.arguments.toList = cutAt ',' attr.arguments.toList := by
    rw [splitTextFrom_eq]
    cases cutAt ',' attr.arguments.toList <;> rfl
  rw [whole, namesIn]
  induction cutAt ',' attr.arguments.toList with
  | nil => rfl
  | cons part parts ih =>
    rw [List.map_cons, List.filterMap_cons, nameIn?]
    by_cases blank : trim part = []
    · rw [if_pos blank, List.filter_cons_of_neg (by simp [blank]), ih]
    · rw [if_neg blank, List.filter_cons_of_pos (by simp [blank]), List.map_cons, ih]

/-- A text without commas is read as one name, or as none. -/
theorem namesIn_of_not_mem {text : List Char} (noComma : ',' ∉ text) :
    namesIn text = (nameIn? text).toList := by
  rw [namesIn, cutAt_of_not_mem noComma, List.filterMap_cons]
  cases nameIn? text <;> rfl

/-- What stands before a comma is read by itself. -/
theorem namesIn_append (front back : List Char) :
    namesIn (front ++ ',' :: back) = namesIn front ++ namesIn back := by
  have cut : cutAt ',' (front ++ ',' :: back) = cutAt ',' front ++ cutAt ',' back := by
    induction front with
    | nil => simp [cutAt]
    | cons c front ih =>
      rw [List.cons_append, cutAt, cutAt, ih]
      split
      · rfl
      · cases cut : cutAt ',' front with
        | nil => exact absurd cut (cutAt_ne_nil ',' front)
        | cons part parts => rfl
  rw [namesIn, cut, List.filterMap_append, namesIn, namesIn]

/-- A joined text is read as what its parts are read as. -/
theorem namesIn_joinWith (parts : List (List Char)) :
    namesIn (joinWith ',' parts) = parts.flatMap namesIn := by
  induction parts with
  | nil => rfl
  | cons part parts ih =>
    cases parts with
    | nil => rw [joinWith, List.flatMap_cons, List.flatMap_nil, List.append_nil]
    | cons second parts =>
      rw [joinWith.eq_3 _ _ _ (List.cons_ne_nil _ _), namesIn_append, ih]
      rfl

/-! ### Tidy paths

What stands in front of the last segment is blank or ends in a separator, so nothing of it comes
into the name. -/

/-- A name that is read is a segment. -/
def ReadsSegments (text : List Char) : Prop :=
  ∀ name ∈ namesIn text, IsSegment name.toList

/-- Blanks are read as nothing.  So a list without paths derives nothing, and neither does what
stands behind a last comma. -/
theorem Trivia.IsBlank.namesIn_text {trivia : Trivia} (blank : trivia.IsBlank) :
    namesIn trivia.text = [] := by
  have noComma : ',' ∉ trivia.text := fun listed => absurd (blank ',' listed) (by decide)
  have nothing : trim trivia.text = [] := by rw [trim, trimLeft_eq_nil blank]; rfl
  rw [namesIn_of_not_mem noComma, nameIn?, if_pos nothing]
  rfl

private theorem Qualifier.comma_not_mem (qualifier : Qualifier)
    (noComma : ∀ trivia ∈ qualifier.trivia, ',' ∉ trivia.text) : ',' ∉ qualifier.text := by
  induction qualifier with
  | bare => exact List.not_mem_nil
  | root behind =>
    have inBehind := noComma behind (List.mem_singleton_self behind)
    simpa [Qualifier.text] using inBehind
  | step outer segment before behind ih =>
    obtain ⟨inOuter, others⟩ := List.forall_mem_append.mp noComma
    have inBefore := others before List.mem_cons_self
    have inBehind := others behind (List.mem_cons_of_mem _ List.mem_cons_self)
    have inSegment : ',' ∉ segment.text :=
      fun listed => (segment.isSegment.isSolid ',' listed).notComma rfl
    simpa [Qualifier.text] using ⟨ih inOuter, inSegment, inBefore, inBehind⟩

/-- What stands before a segment that adjoins it is blank or ends in a separator. -/
theorem Qualifier.Adjoins.lead_append {lead : Trivia} {qualifier : Qualifier}
    (adjoins : qualifier.Adjoins lead) :
    (∀ c ∈ lead.text ++ qualifier.text, isBlank c = true) ∨
      ∃ front, lead.text ++ qualifier.text = front ++ [':', ':'] := by
  cases qualifier with
  | bare =>
    refine .inl ?_
    rw [Qualifier.text, List.append_nil]
    exact adjoins
  | root behind =>
    have nothing : behind.text = [] := adjoins
    exact .inr ⟨lead.text, by rw [Qualifier.text, nothing]⟩
  | step outer segment before behind =>
    have nothing : behind.text = [] := adjoins
    exact .inr ⟨lead.text ++ (outer.text ++ (segment.text ++ before.text)), by
      rw [Qualifier.text, nothing]
      simp only [List.append_assoc]⟩

namespace DerivePath

variable {path : DerivePath}

private theorem comma_not_mem (noComma : ∀ trivia ∈ path.trivia, ',' ∉ trivia.text) :
    ',' ∉ path.text := by
  obtain ⟨inLead, others⟩ := List.forall_mem_cons.mp noComma
  obtain ⟨inQualifier, inTrail⟩ := List.forall_mem_append.mp others
  have notLast : ',' ∉ path.last.text :=
    fun listed => (path.last.isSegment.isSolid ',' listed).notComma rfl
  have notQualifier := path.qualifier.comma_not_mem inQualifier
  have notTrail := inTrail path.trail (List.mem_singleton_self _)
  simpa [DerivePath.text] using ⟨inLead, notQualifier, notLast, notTrail⟩

/-- A tidy path is read as its last segment. -/
theorem Tidy.namesIn_text (tidy : path.Tidy) : namesIn path.text = [path.name] := by
  have nonempty := path.last.isSegment.ne_nil
  have solid := path.last.isSegment.isSolid
  have first := (solid _ (List.head_mem nonempty)).notBlank
  have last := (solid _ (List.getLast_mem nonempty)).notBlank
  have noColon : ':' ∉ path.last.text := fun listed => (solid ':' listed).notColon rfl
  have trimmed : trim path.text =
      trimLeft (path.lead.text ++ path.qualifier.text) ++ path.last.text := by
    rw [DerivePath.text, ← List.append_assoc, trim_append _ nonempty first last tidy.trail]
  have nothing :
      lastSegment (String.ofList (trimLeft (path.lead.text ++ path.qualifier.text))) = "" := by
    rcases tidy.adjoins.lead_append with blank | ⟨front, separated⟩
    · rw [trimLeft_eq_nil blank]
      rfl
    · rw [separated, trimLeft_append _ (by decide)]
      exact lastSegment_separator _
  have read : nameIn? path.text = some path.name := by
    rw [nameIn?, trimmed, if_neg (by simp [nonempty]),
      lastSegment_append _ (unseparated_of_not_mem noColon)
        (fun isFirst => noColon (List.mem_of_head? isFirst)), nothing]
    rfl
  rw [namesIn_of_not_mem (comma_not_mem tidy.noComma), read]
  rfl

end DerivePath

/-! ### What harm comments do

A text that ends in a comment is read as a name with a slash in it.  Everything else follows from
where such texts begin and end. -/

/-- A comment that is not behind the last separator of a text: from some slash on, the text has no
separator. -/
def EndsInComment (text : List Char) : Prop :=
  ∃ before tail, text = before ++ '/' :: tail ∧ ¬ [':', ':'] <:+: '/' :: tail

/-- A slash behind the last separator of a text stands in the name that the text is read as. -/
theorem EndsInComment.exists_nameIn? {text : List Char} (ends : EndsInComment text) :
    ∃ name, nameIn? text = some name ∧ '/' ∈ name.toList := by
  obtain ⟨before, tail, rfl, unseparated⟩ := ends
  -- a slash is no blank: what is cut off behind the text belongs to the comment
  obtain ⟨left, isPrefix, trimmed⟩ : ∃ left, left <+: tail ∧
      trim (before ++ '/' :: tail) = trimLeft before ++ '/' :: left := by
    refine ⟨(trimLeft tail.reverse).reverse, ?_, ?_⟩
    · exact List.reverse_suffix.mp (by rw [List.reverse_reverse]; exact List.dropWhile_suffix _)
    · have reversed : (trimLeft before ++ '/' :: tail).reverse =
          tail.reverse ++ '/' :: (trimLeft before).reverse := by simp
      rw [trim, trimLeft_append _ (by decide), reversed, trimLeft_append _ (by decide)]
      simp
  have inside : ¬ [':', ':'] <:+: '/' :: left := fun inside =>
    unseparated (inside.trans (List.cons_prefix_cons.mpr ⟨rfl, isPrefix⟩).isInfix)
  refine ⟨_, by rw [nameIn?, trimmed, if_neg (by simp)], ?_⟩
  rw [lastSegment_append _ inside (by simp), String.toList_ofList]
  exact List.mem_append_right _ List.mem_cons_self

/-- No segment is read of a text that ends in a comment. -/
theorem EndsInComment.not_readsSegments {text : List Char} (ends : EndsInComment text)
    (noComma : ',' ∉ text) : ¬ ReadsSegments text := by
  intro reads
  obtain ⟨name, read, slash⟩ := ends.exists_nameIn?
  have isSegment : IsSegment name.toList :=
    reads name (by rw [namesIn_of_not_mem noComma, read]; exact List.mem_singleton_self name)
  exact (isSegment.isSolid '/' slash).notSlash rfl

/-- A text in which commas only stand in comments without separators, so that the text in front of
each of them ends in a comment. -/
def CommasInComments (text : List Char) : Prop :=
  ∀ front back, text = front ++ ',' :: back → EndsInComment front

namespace CommasInComments

private theorem of_not_mem {text : List Char} (noComma : ',' ∉ text) : CommasInComments text :=
  fun front _ whole => absurd (whole ▸ List.mem_append_right front List.mem_cons_self) noComma

theorem append {first second : List Char} (inFirst : CommasInComments first)
    (inSecond : CommasInComments second) : CommasInComments (first ++ second) := by
  intro front _ whole
  rcases List.append_eq_append_iff.mp whole with ⟨middle, rfl, same⟩ | ⟨middle, rfl, same⟩
  · obtain ⟨before, tail, rfl, unseparated⟩ := inSecond middle _ same
    exact ⟨first ++ before, tail, (List.append_assoc _ _ _).symm, unseparated⟩
  · cases middle with
    | nil =>
      obtain ⟨before, tail, same, -⟩ := inSecond [] _ same.symm
      cases before <;> cases same
    | cons c middle =>
      cases same
      exact inFirst front middle rfl

/-- If only segments are read of such a text, it has no commas. -/
theorem comma_not_mem {text : List Char} (commas : CommasInComments text)
    (reads : ReadsSegments text) : ',' ∉ text := by
  intro listed
  -- the first comma ends a part of the list, and a comment ends that part
  obtain ⟨front, back, rfl, noComma⟩ := List.eq_append_cons_of_mem listed
  refine (commas front back rfl).not_readsSegments noComma fun name read => reads name ?_
  rw [namesIn_append]
  exact List.mem_append_left _ read

end CommasInComments

namespace IsTrivia

variable {text : List Char}

/-- Blanks and comments begin with a blank or a slash. -/
theorem head (isTrivia : IsTrivia text) : ∀ c ∈ text.head?, isBlank c = true ∨ c = '/' := by
  cases isTrivia with
  | nil => nofun
  | blank isBlank =>
    rintro _ ⟨⟩
    exact .inl isBlank
  | line | block =>
    rintro _ ⟨⟩
    exact .inr rfl

/-- Before the first comment there are only blanks. -/
theorem blank_or_slash (isTrivia : IsTrivia text) :
    (∀ c ∈ text, isBlank c = true) ∨ ∃ before tail, text = before ++ '/' :: tail := by
  induction isTrivia with
  | nil => exact .inl nofun
  | blank isBlank _ ih =>
    rcases ih with blank | ⟨before, tail, rfl⟩
    · exact .inl (List.forall_mem_cons.mpr ⟨isBlank, blank⟩)
    · exact .inr ⟨_ :: before, tail, rfl⟩
  | line | block => exact .inr ⟨[], _, rfl⟩

/-- A comma stands in a comment. -/
theorem slash_of_comma (isTrivia : IsTrivia text) :
    ∀ front back, text = front ++ ',' :: back → ∃ before tail, front = before ++ '/' :: tail := by
  induction isTrivia with
  | nil =>
    intro front back whole
    cases front <;> cases whole
  | blank isBlank _ ih =>
    intro front back whole
    cases front with
    | nil =>
      cases whole
      exact absurd isBlank (by decide)
    | cons c front =>
      cases whole
      obtain ⟨before, tail, rfl⟩ := ih front back rfl
      exact ⟨_ :: before, tail, rfl⟩
  | line | block =>
    intro front back whole
    cases front with
    | nil => cases whole
    | cons first front =>
      obtain ⟨isSlash, -⟩ := List.cons.inj whole
      exact ⟨[], front, by rw [← isSlash]; rfl⟩

end IsTrivia

namespace Trivia

variable {trivia : Trivia}

private theorem Unseparated.commasInComments (unseparated : trivia.Unseparated) :
    CommasInComments trivia.text := by
  intro front back whole
  obtain ⟨before, tail, rfl⟩ := trivia.isTrivia.slash_of_comma front back whole
  refine ⟨before, tail, rfl, fun inside => unseparated (inside.trans ?_)⟩
  rw [whole, List.append_assoc]
  exact ⟨before, ',' :: back, by simp⟩

/-- Where there are not only blanks there is a comment. -/
theorem Unseparated.endsInComment (unseparated : trivia.Unseparated) (notBlank : ¬ trivia.IsBlank) :
    EndsInComment trivia.text := by
  rcases trivia.isTrivia.blank_or_slash with blank | ⟨before, tail, whole⟩
  · exact absurd blank notBlank
  · exact ⟨before, tail, whole, fun inside =>
      unseparated (inside.trans (whole ▸ (List.suffix_append _ _).isInfix))⟩

/-- Only blanks are read as nothing. -/
theorem isBlank_of_reads (unseparated : trivia.Unseparated) (reads : ReadsSegments trivia.text) :
    trivia.IsBlank := by
  by_contra notBlank
  exact (unseparated.endsInComment notBlank).not_readsSegments
    (unseparated.commasInComments.comma_not_mem reads) reads

end Trivia

/-- A comment is still there behind what comes before it, and before what has no colons. -/
theorem EndsInComment.append {text back : List Char} (ends : EndsInComment text)
    (front : List Char) (noColon : ':' ∉ back) : EndsInComment (front ++ (text ++ back)) := by
  obtain ⟨before, tail, rfl, unseparated⟩ := ends
  exact ⟨front ++ before, tail ++ back, by simp, unseparated_append unseparated noColon⟩

private theorem Qualifier.commasInComments (qualifier : Qualifier)
    (unseparated : ∀ trivia ∈ qualifier.trivia, trivia.Unseparated) :
    CommasInComments qualifier.text := by
  have separator : CommasInComments [':', ':'] := .of_not_mem (by decide)
  induction qualifier with
  | bare => exact .of_not_mem List.not_mem_nil
  | root behind =>
    exact separator.append (unseparated behind (List.mem_singleton_self _)).commasInComments
  | step outer segment before behind ih =>
    obtain ⟨inOuter, others⟩ := List.forall_mem_append.mp unseparated
    have inSegment : CommasInComments segment.text :=
      .of_not_mem fun listed => (segment.isSegment.isSolid ',' listed).notComma rfl
    have inBefore := (others before List.mem_cons_self).commasInComments
    have inBehind := (others behind (List.mem_cons_of_mem _ List.mem_cons_self)).commasInComments
    exact (ih inOuter).append (inSegment.append (inBefore.append (separator.append inBehind)))

private theorem Qualifier.text_subset (qualifier : Qualifier) :
    ∀ trivia ∈ qualifier.trivia, trivia.text ⊆ qualifier.text := by
  induction qualifier with
  | bare => nofun
  | root behind =>
    refine List.forall_mem_singleton.mpr fun c listed => ?_
    exact List.mem_cons_of_mem _ (List.mem_cons_of_mem _ listed)
  | step outer segment before behind ih =>
    intro trivia listed c inTrivia
    simp only [Qualifier.trivia, List.mem_append, List.mem_cons, List.not_mem_nil,
      or_false] at listed
    simp only [Qualifier.text, List.mem_append, List.mem_cons]
    rcases listed with inOuter | rfl | rfl
    · exact .inl (ih trivia inOuter inTrivia)
    · exact .inr (.inr (.inl inTrivia))
    · exact .inr (.inr (.inr (.inr (.inr inTrivia))))

namespace DerivePath

variable {path : DerivePath}

private theorem text_subset : ∀ trivia ∈ path.trivia, trivia.text ⊆ path.text := by
  intro trivia listed c inTrivia
  simp only [DerivePath.trivia, List.mem_cons, List.mem_append, List.not_mem_nil,
    or_false] at listed
  simp only [DerivePath.text, List.mem_append]
  rcases listed with rfl | inQualifier | rfl
  · exact .inl inTrivia
  · exact .inr (.inl (path.qualifier.text_subset trivia inQualifier inTrivia))
  · exact .inr (.inr (.inr inTrivia))

/-- Behind its last separator a path that is read as a segment has nothing but its last segment and
blanks. -/
theorem behind_eq_nil {behind : Trivia} (front : List Char)
    (whole : path.text =
      front ++ (':' :: ':' :: (behind.text ++ path.last.text) ++ path.trail.text))
    (unseparated : behind.Unseparated) (blank : path.trail.IsBlank) (noComma : ',' ∉ path.text)
    (reads : ReadsSegments path.text) : behind.text = [] := by
  have nonempty := path.last.isSegment.ne_nil
  have solid := path.last.isSegment.isSolid
  have noColon : ':' ∉ path.last.text := fun listed => (solid ':' listed).notColon rfl
  have ending : (':' :: ':' :: (behind.text ++ path.last.text)).getLast (List.cons_ne_nil _ _) =
      path.last.text.getLast nonempty := by
    rw [List.getLast_cons (List.cons_ne_nil _ _), List.getLast_cons (by simp [nonempty]),
      List.getLast_append_of_ne_nil _ nonempty]
  have trimmed : trim path.text =
      trimLeft front ++ [':', ':'] ++ (behind.text ++ path.last.text) := by
    rw [whole, trim_append front (List.cons_ne_nil _ _) (by rw [List.head_cons]; decide)
      (ending ▸ (solid _ (List.getLast_mem nonempty)).notBlank) blank]
    simp
  -- otherwise the name begins with what stands there, a blank or a comment, and is no segment
  by_contra something
  obtain ⟨c, rest, isCons⟩ := List.exists_cons_of_ne_nil something
  have notSolid : isBlank c = true ∨ c = '/' :=
    behind.isTrivia.head c (by rw [isCons]; rfl)
  have notFirst : (behind.text ++ path.last.text).head? ≠ some ':' := by
    rw [isCons]
    rintro ⟨⟩
    rcases notSolid with isBlank | isSlash
    · exact absurd isBlank (by decide)
    · exact absurd isSlash (by decide)
  have read : nameIn? path.text = some (String.ofList (behind.text ++ path.last.text)) := by
    rw [nameIn?, trimmed, if_neg (by simp), lastSegment_append _
      (unseparated_append unseparated noColon) notFirst, lastSegment_separator]
    rfl
  have isSegment := reads _ (by
    rw [namesIn_of_not_mem noComma, read]
    exact List.mem_singleton_self _)
  rw [String.toList_ofList, isCons] at isSegment
  have isSolid := isSegment.isSolid c List.mem_cons_self
  rcases notSolid with isBlank | isSlash
  · rw [isSolid.notBlank] at isBlank
    cases isBlank
  · exact isSolid.notSlash isSlash

/-- A path that is read as a segment is tidy. -/
theorem tidy_of_reads (unseparated : ∀ trivia ∈ path.trivia, trivia.Unseparated)
    (reads : ReadsSegments path.text) : path.Tidy := by
  obtain ⟨lead, others⟩ := List.forall_mem_cons.mp unseparated
  obtain ⟨inQualifier, trail⟩ := List.forall_mem_append.mp others
  have trail := trail path.trail (List.mem_singleton_self _)
  have inLast : CommasInComments path.last.text :=
    .of_not_mem fun listed => (path.last.isSegment.isSolid ',' listed).notComma rfl
  have noColon : ':' ∉ path.last.text :=
    fun listed => (path.last.isSegment.isSolid ':' listed).notColon rfl
  have commas : CommasInComments path.text :=
    lead.commasInComments.append ((path.qualifier.commasInComments inQualifier).append
      (inLast.append trail.commasInComments))
  have noComma := commas.comma_not_mem reads
  have blank : path.trail.IsBlank := by
    by_contra notBlank
    refine EndsInComment.not_readsSegments ?_ noComma reads
    have ends := (trail.endsInComment notBlank).append
      (path.lead.text ++ (path.qualifier.text ++ path.last.text)) List.not_mem_nil
    simpa [DerivePath.text] using ends
  have trailNoColon : ':' ∉ path.trail.text := fun listed => absurd (blank ':' listed) (by decide)
  refine ⟨fun trivia listed comma => noComma (text_subset trivia listed comma), ?_, blank⟩
  -- without a separator blanks are allowed before the last segment, because they are cut off
  cases isQualifier : path.qualifier with
  | bare =>
    by_contra notBlank
    refine EndsInComment.not_readsSegments ?_ noComma reads
    have behind : ':' ∉ path.last.text ++ path.trail.text := by simp [noColon, trailNoColon]
    have ends := (lead.endsInComment notBlank).append [] behind
    simpa [DerivePath.text, isQualifier, Qualifier.text] using ends
  | root behind =>
    have listed : behind ∈ path.qualifier.trivia := by
      rw [isQualifier]
      exact List.mem_singleton_self behind
    refine behind_eq_nil path.lead.text ?_ (inQualifier behind listed) blank noComma reads
    simp [DerivePath.text, isQualifier, Qualifier.text]
  | step outer segment before behind =>
    have listed : behind ∈ path.qualifier.trivia := by
      rw [isQualifier]
      exact List.mem_append_right _ (List.mem_cons_of_mem _ (List.mem_singleton_self behind))
    refine behind_eq_nil (path.lead.text ++ (outer.text ++ (segment.text ++ before.text))) ?_
      (inQualifier behind listed) blank noComma reads
    simp [DerivePath.text, isQualifier, Qualifier.text]

end DerivePath

/-! ### Tidy lists

A list is read as what its paths are read as, whatever they look like, and what stands behind the
last comma counts as one more part. -/

namespace DeriveList

variable {list : DeriveList}

/-- The names of a list are those of its paths one after the other, and of what stands behind the
last comma. -/
theorem namesIn_text (list : DeriveList) :
    namesIn list.text = list.paths.flatMap (fun path => namesIn path.text) ++
      list.ending.toList.flatMap fun trivia => namesIn trivia.text := by
  rw [DeriveList.text, namesIn_joinWith, List.flatMap_append, List.flatMap_map]
  cases list.ending <;> rfl

/-- A tidy list is read as the last segments of its paths. -/
theorem Tidy.namesIn_text (tidy : list.Tidy) : namesIn list.text = list.names := by
  have paths : list.paths.flatMap (fun path => namesIn path.text) = list.names := by
    rw [names, List.map_eq_flatMap]
    exact List.flatMap_congr fun path listed => (tidy.paths path listed).namesIn_text
  have ending : (list.ending.toList.flatMap fun trivia => namesIn trivia.text) = [] :=
    List.flatMap_eq_nil_iff.mpr fun trivia listed =>
      (tidy.ending trivia (Option.mem_toList.mp listed)).namesIn_text
  rw [DeriveList.namesIn_text, paths, ending, List.append_nil]

/-- The last segments of paths are segments. -/
theorem isSegment_of_mem_names : ∀ name ∈ list.names, IsSegment name.toList := by
  refine List.forall_mem_map.mpr fun path _ => ?_
  rw [DerivePath.name, String.toList_ofList]
  exact path.last.isSegment

/-- A list of which only segments are read is tidy. -/
theorem tidy_of_reads (unseparated : ∀ trivia ∈ list.trivia, trivia.Unseparated)
    (reads : ReadsSegments list.text) : list.Tidy := by
  obtain ⟨inPaths, inEnding⟩ := List.forall_mem_append.mp unseparated
  have read : ∀ name ∈ namesIn list.text, IsSegment name.toList := reads
  rw [DeriveList.namesIn_text, List.forall_mem_append, List.forall_mem_flatMap,
    List.forall_mem_flatMap] at read
  refine ⟨fun path listed => ?_, fun trivia isEnding => ?_⟩
  · exact DerivePath.tidy_of_reads (List.forall_mem_flatMap.mp inPaths path listed)
      (read.1 path listed)
  · have listed := Option.mem_toList.mpr isEnding
    exact Trivia.isBlank_of_reads (inEnding trivia listed) (read.2 trivia listed)

end DeriveList

end Source

end OpenResponse
