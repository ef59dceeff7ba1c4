import OpenResponse.Proofs.Source.Comments
import OpenResponse.Proofs.Source.Places
import OpenResponse.Proofs.Text.Occurrences
import OpenResponse.Proofs.Text.Segments

/-!
# Styles of documentation

Documentation is written in line comments, one for each of its lines, or in one block comment, in
which a star stands in front of every line.  A line comment holds its line, be it empty or not.  A
block comment holds its lines less the empty ones: that takes the ends of the comment away, which
are on lines of their own, but it takes away what separates paragraphs as well.

How comments are read from a source has been settled for any text of comments.  What is left is what
a comment holds, line by line, and this is a calculation: the marks in front of a line are taken
away, and the line is trimmed, which does nothing to a line that is trimmed already.

## Main definitions

* `Documentation`, `CommentStyle.text` — lines of documentation, and how they are written
* `Place.DocumentedBy` — the comments before a declaration are those of a text

## Main statements

* `blockDoc?_starLines` — what a block comment holds
* `description_documented` — **what a documented declaration is described as**

## Hypotheses

Lines are trimmed and without line breaks, as every line that is read is.  Stars and slashes are
excluded because the two together begin and end block comments.  Documentation begins and ends with
text, so that there is a line to keep and an empty line is always one between others.  What is
found, that only line comments keep the empty lines, is about such lines and does not come from the
exclusions.
-/

namespace OpenResponse

namespace Source

/-! ### Lines of documentation

Each style is a function from lines to a text, with the number of spaces in front as a parameter,
and what it keeps is a function from lines to lines. -/

/-- A line that documentation can have in either style. -/
structure IsDocLine (line : List Char) : Prop where
  trimmed : trim line = line
  unbroken : ∀ c ∈ line, endsLine c = false
  noStar : '*' ∉ line
  noSlash : '/' ∉ line

instance (line : List Char) : Decidable (IsDocLine line) :=
  decidable_of_iff (trim line = line ∧ line.any endsLine = false ∧ '*' ∉ line ∧ '/' ∉ line)
    ⟨fun ⟨trimmed, unbroken, noStar, noSlash⟩ =>
      ⟨trimmed, by simpa using unbroken, noStar, noSlash⟩,
      fun line => ⟨line.trimmed, by simpa using line.unbroken, line.noStar, line.noSlash⟩⟩

/-- Lines of documentation.  There may be empty ones between others.  Empty ones at either end
separate nothing, so they are excluded. -/
structure Documentation where
  /-- The lines. -/
  lines : List String
  isDocLine : ∀ line ∈ lines, IsDocLine line.toList
  nonempty : lines ≠ []
  first : lines.head nonempty ≠ ""
  last : lines.getLast nonempty ≠ ""

/-- How documentation is written. -/
inductive CommentStyle
  /-- A line comment for each line. -/
  | line
  /-- One block comment, in which a star stands in front of each line. -/
  | block
deriving DecidableEq, Repr

/-- A line as a line comment. -/
def slashLine (indent : Nat) (line : String) : List Char :=
  List.replicate indent ' ' ++ '/' :: '/' :: ('/' :: ' ' :: line.toList ++ ['\n'])

/-- A line in a block comment. -/
def starLine (indent : Nat) (line : String) : List Char :=
  List.replicate (indent + 1) ' ' ++ '*' :: ' ' :: line.toList

/-- Lines in a block comment, from its second star to the blanks in front of its last one. -/
def starLines (indent : Nat) (lines : List String) : List Char :=
  '*' :: '\n' :: (lines.flatMap (fun line => starLine indent line ++ ['\n']) ++
    List.replicate (indent + 1) ' ')

namespace CommentStyle

/-- Lines of documentation as they are written, indented by a number of spaces. -/
def text (indent : Nat) (lines : List String) : CommentStyle → List Char
  | .line => lines.flatMap (slashLine indent)
  | .block =>
    List.replicate indent ' ' ++ ('/' :: '*' :: (starLines indent lines ++ ['*', '/']) ++ ['\n'])

/-- The lines that are read. -/
def kept (lines : List String) : CommentStyle → List String
  | .line => lines
  | .block => lines.filter (· ≠ "")

end CommentStyle

private theorem isBlank_of_mem_spaces {n : Nat} : ∀ c ∈ List.replicate n ' ', isBlank c = true := by
  intro c listed
  rw [List.eq_of_mem_replicate listed]
  decide

private theorem endsLine_of_mem_spaces {n : Nat} :
    ∀ c ∈ List.replicate n ' ', endsLine c = false := by
  intro c listed
  rw [List.eq_of_mem_replicate listed]
  decide

private theorem documents_spaces (n : Nat) : Documents (List.replicate n ' ') [] :=
  .blanks fun c listed => by rw [isGap, isBlank_of_mem_spaces c listed, Bool.true_or]

section Lines

variable {line : String} {lines : List String}

private theorem IsDocLine.lineFeed_not_mem (isDocLine : IsDocLine line.toList) :
    '\n' ∉ line.toList :=
  fun listed => absurd (isDocLine.unbroken _ listed) (by decide)

/-- A line comment holds its line. -/
theorem IsDocLine.documents_slashLine (isDocLine : IsDocLine line.toList) (indent : Nat) :
    Documents (slashLine indent line) [line] := by
  have read : lineDoc? ('/' :: '/' :: '/' :: ' ' :: line.toList) = some line := by
    rw [lineDoc?, if_neg (by simp), trim_cons_of_isBlank (by decide), isDocLine.trimmed,
      String.ofList_toList]
  have unbroken : '\n' ∉ '/' :: ' ' :: line.toList := by
    simpa using isDocLine.lineFeed_not_mem
  have comment := Documents.line unbroken
  rw [read] at comment
  exact (documents_spaces indent).append comment

/-- The star in front of a line is no part of it. -/
theorem IsDocLine.blockLine_starLine (isDocLine : IsDocLine line.toList) (indent : Nat) :
    blockLine (starLine indent line) = line.toList := by
  rw [blockLine, starLine, trim_append_of_blank isBlank_of_mem_spaces]
  by_cases empty : line.toList = []
  · rw [empty]
    decide
  · have kept : trim ('*' :: ' ' :: line.toList) = '*' :: ' ' :: line.toList := by
      have first : isBlank '*' = false := by decide
      have last : isBlank (('*' :: ' ' :: line.toList).getLast (by simp)) = false := by
        rw [List.getLast_cons (by simp), List.getLast_cons empty]
        exact isBlank_getLast_of_trim_eq isDocLine.trimmed empty
      simpa [trimLeft] using
        @trim_append ('*' :: ' ' :: line.toList) [] [] (by simp) first last (List.forall_mem_nil _)
    rw [kept]
    exact (trim_cons_of_isBlank (by decide) _).trans isDocLine.trimmed

private theorem IsDocLine.starLine_unbroken (isDocLine : IsDocLine line.toList) (indent : Nat) :
    ∀ c ∈ starLine indent line, endsLine c = false := by
  refine List.forall_mem_append.mpr ⟨endsLine_of_mem_spaces, ?_⟩
  simpa using ⟨by decide, by decide, isDocLine.unbroken⟩

private theorem splitLines_starLines
    (isDocLine : ∀ line ∈ lines, IsDocLine line.toList) (indent : Nat)
    (rest : List Char) :
    splitLines (lines.flatMap (fun line => starLine indent line ++ ['\n']) ++ rest) =
      lines.map (starLine indent) ++ splitLines rest := by
  induction lines with
  | nil => rfl
  | cons line lines ih =>
    obtain ⟨first, others⟩ := List.forall_mem_cons.mp isDocLine
    rw [List.flatMap_cons, List.append_assoc, List.append_assoc, List.singleton_append,
      splitLines_append (first.starLine_unbroken indent), ih others]
    rfl

private theorem splitLines_body (isDocLine : ∀ line ∈ lines, IsDocLine line.toList) (indent : Nat) :
    splitLines ('\n' :: (lines.flatMap (fun line => starLine indent line ++ ['\n']) ++
      List.replicate (indent + 1) ' ')) =
        [] :: (lines.map (starLine indent) ++ [List.replicate (indent + 1) ' ']) := by
  rw [← List.nil_append ('\n' :: _), splitLines_append (List.forall_mem_nil _),
    splitLines_starLines isDocLine, splitLines_of_unbroken endsLine_of_mem_spaces (by simp)]

/-- A block comment holds its lines, less the empty ones.  The ends of the comment are lines of
their own, and they are empty once the stars are taken away. -/
theorem blockDoc?_starLines (isDocLine : ∀ line ∈ lines, IsDocLine line.toList) (indent : Nat) :
    blockDoc? ('/' :: '*' :: (starLines indent lines ++ ['*', '/'])) =
      some (joinLines (lines.filter (· ≠ ""))) := by
  have body := splitLines_body isDocLine indent
  have blank : blockLine (List.replicate (indent + 1) ' ') = [] := by
    have trimmed := trim_append_of_blank (isBlank_of_mem_spaces (n := indent + 1)) []
    rw [List.append_nil] at trimmed
    rw [blockLine, trimmed]
    rfl
  have texts : (lines.map (starLine indent)).map blockLine = lines.map String.toList := by
    rw [List.map_map]
    exact List.map_congr_left fun line listed => (isDocLine line listed).blockLine_starLine indent
  have taken (text : List Char) :
      (text ++ ['*', '/']).take ((text ++ ['*', '/']).length - 2) = text := by
    rw [List.length_append]
    exact List.take_left
  have kept : ((lines.map String.toList).filter (· ≠ [])).map String.ofList =
      lines.filter (· ≠ "") := by
    have same : (fun text : List Char => decide (text ≠ [])) ∘ String.toList =
        fun line => decide (line ≠ "") := by
      funext line
      simp
    rw [List.filter_map, List.map_map, same]
    exact List.map_id'' (fun _ => String.ofList_toList) _
  rw [starLines, List.cons_append, blockDoc?, if_neg (by simp)]
  dsimp only
  rw [taken, body, List.map_cons, List.map_append, texts, List.map_singleton, blank,
    List.filter_cons_of_neg (by decide), List.filter_append, List.filter_cons_of_neg (by decide),
    List.filter_nil, List.append_nil, kept]

end Lines

private theorem toList_joinLines (lines : List String) :
    (joinLines lines).toList = joinWith '\n' (lines.map String.toList) := by
  induction lines with
  | nil => rfl
  | cons line lines ih =>
    cases lines with
    | nil =>
      rw [joinLines, String.intercalate_singleton]
      rfl
    | cons next lines =>
      have step : joinLines (line :: next :: lines) = line ++ "\n" ++ joinLines (next :: lines) :=
        String.intercalate_cons_cons
      have lineFeed : "\n".toList = ['\n'] := by decide
      rw [step, String.toList_append, String.toList_append, lineFeed, ih, List.append_assoc]
      rfl

/-- Leaving out empty lines changes the text that lines make, unless there are none: the text gets
shorter by a line break for each. -/
theorem joinLines_filter_eq {lines : List String}
    (unbroken : ∀ line ∈ lines, '\n' ∉ line.toList) (some : ∃ line ∈ lines, line ≠ "") :
    joinLines (lines.filter (· ≠ "")) = joinLines lines ↔ ∀ line ∈ lines, line ≠ "" := by
  obtain ⟨line, listed, notEmpty⟩ := some
  have remains : line ∈ lines.filter (· ≠ "") :=
    List.mem_filter.mpr ⟨listed, decide_eq_true notEmpty⟩
  have kept : ∀ line ∈ lines.filter (· ≠ ""), '\n' ∉ line.toList :=
    fun line listed => unbroken line (List.mem_filter.mp listed).1
  have injective : Function.Injective String.toList := fun _ _ same => String.toList_inj.mp same
  rw [← String.toList_inj, toList_joinLines, toList_joinLines,
    joinWith_inj (List.map_eq_nil_iff.not.mpr (List.ne_nil_of_mem remains))
      (List.map_eq_nil_iff.not.mpr (List.ne_nil_of_mem listed)) (List.forall_mem_map.mpr kept)
      (List.forall_mem_map.mpr unbroken),
    List.map_inj_right injective, List.filter_eq_self]
  simp only [decide_eq_true_eq]

namespace CommentStyle

/-- The documentation in a text. -/
def docs (lines : List String) : CommentStyle → List String
  | .line => lines
  | .block => [joinLines (lines.filter (· ≠ ""))]

private theorem documents {lines : List String} (isDocLine : ∀ line ∈ lines, IsDocLine line.toList)
    (indent : Nat) (style : CommentStyle) :
    Documents (style.text indent lines) (style.docs lines) := by
  cases style with
  | line =>
    have each := Documents.flatMap fun line listed =>
      (isDocLine line listed).documents_slashLine indent
    rwa [List.flatMap_singleton'] at each
  | block =>
    have noSlash : '/' ∉ starLines indent lines := by
      simpa [starLines, starLine] using fun line listed => (isDocLine line listed).noSlash
    have comment := Documents.block noSlash
    rw [blockDoc?_starLines isDocLine] at comment
    have lineFeed : Documents ['\n'] [] := .blanks (List.forall_mem_singleton.mpr (by decide))
    exact (documents_spaces indent).append (comment.append lineFeed)

private theorem joinLines_docs (lines : List String) (style : CommentStyle) :
    joinLines (style.docs lines) = joinLines (style.kept lines) := by
  cases style with
  | line => rfl
  | block => exact String.intercalate_singleton

end CommentStyle

/-! ### Descriptions

The comments before a declaration may be among attributes.  Only what they hold counts, and that no
attribute there sets the documentation as well. -/

/-- The comment that a sibling is. -/
def Sibling.comment? {α : Type} : Sibling α → Option Piece
  | .comment piece => some piece
  | .attr _ | .entry _ | .other => none

/-- The comments directly before a place are those of a text that begins at some location, and
nothing else there is documentation. -/
structure Place.DocumentedBy (place : Place) (here : Location) (text : List Char) : Prop where
  comments : (place.before.rtakeWhile Sibling.isDetail).filterMap Sibling.comment? =
    (itemsFrom here text).filterMap Sibling.comment?
  alone : ∀ sibling ∈ place.before.rtakeWhile Sibling.isDetail,
    sibling.comment? = none → sibling.docs = []

instance (place : Place) (here : Location) (text : List Char) :
    Decidable (place.DocumentedBy here text) :=
  decidable_of_iff (_ ∧ _) ⟨fun ⟨comments, alone⟩ => ⟨comments, alone⟩,
    fun documented => ⟨documented.comments, documented.alone⟩⟩

/-- If only comments document, the documentation is that of the comments. -/
theorem flatMap_docs_eq {α : Type} {siblings : List (Sibling α)}
    (alone : ∀ sibling ∈ siblings, sibling.comment? = none → sibling.docs = []) :
    siblings.flatMap Sibling.docs = (siblings.filterMap Sibling.comment?).filterMap docLine? := by
  induction siblings with
  | nil => rfl
  | cons sibling siblings ih =>
    obtain ⟨first, others⟩ := List.forall_mem_cons.mp alone
    rw [List.flatMap_cons, ih others]
    cases sibling with
    | comment piece =>
      show (docLine? piece).toList ++ _ = (piece :: _).filterMap docLine?
      rw [List.filterMap_cons]
      cases docLine? piece <;> rfl
    | attr source => rw [first rfl]; rfl
    | entry value => rfl
    | other => rfl

section Places

variable {place : Place} {here : Location} {text : List Char} {docs : List String}

private theorem Place.DocumentedBy.docs_eq (documented : place.DocumentedBy here text)
    (documents : Documents text docs) : place.declaration.docs = docs := by
  obtain ⟨comments, read, whole, -⟩ := documents.exists_comments here
  have found : (itemsFrom here text).filterMap Sibling.comment? = comments := by
    rw [whole, List.filterMap_map]
    exact List.filterMap_some
  have attached : place.declaration.docs =
      (place.before.rtakeWhile Sibling.isDetail).flatMap Sibling.docs := rfl
  rw [attached, flatMap_docs_eq documented.alone, documented.comments, found, read]

end Places

/-- **What a documented declaration is described as.**  Lines of documentation may be written in
either style and before any declaration of a source.  Extraction gives the declaration, described by
the lines of the line comments, or by the lines of the block comment that are not empty.  So it is
described by the lines as they are exactly if they are in line comments or none of them is empty: a
block comment loses what separates its paragraphs. -/
theorem description_documented (documentation : Documentation) {source : String}
    {declarations : List Declaration} (extracted : extractDeclarations source = .ok declarations)
    {place : Place} (declared : DeclaredAt (items source) place) {style : CommentStyle}
    {indent : Nat} {here : Location}
    (documented : place.DocumentedBy here (style.text indent documentation.lines)) :
    place.declaration ∈ declarations ∧
      place.declaration.description = joinLines (style.kept documentation.lines) ∧
      (place.declaration.description = joinLines documentation.lines ↔
        style = .line ∨ ∀ line ∈ documentation.lines, line ≠ "") := by
  have description : place.declaration.description =
      joinLines (style.kept documentation.lines) := by
    rw [Declaration.description,
      documented.docs_eq (style.documents documentation.isDocLine indent), style.joinLines_docs]
  refine ⟨?_, description, ?_⟩
  · have started : directlyBefore [] = .empty := rfl
    obtain ⟨-, rfl⟩ := (collect_eq_ok [] (items source) declarations).mp
      (by rw [started]; exact extracted)
    exact List.mem_map_of_mem (mem_placesFrom.mpr declared)
  · rw [description]
    cases style with
    | line => simp [CommentStyle.kept]
    | block =>
      have unbroken : ∀ line ∈ documentation.lines, '\n' ∉ line.toList :=
        fun line listed => (documentation.isDocLine line listed).lineFeed_not_mem
      have full : ∃ line ∈ documentation.lines, line ≠ "" :=
        ⟨_, List.head_mem documentation.nonempty, documentation.first⟩
      rw [CommentStyle.kept, joinLines_filter_eq unbroken full]
      simp

/-- Two lines with an empty one in between. -/
def paragraphs : Documentation where
  lines := ["First.", "", "Second."]
  isDocLine := by decide +kernel
  nonempty := by decide
  first := by decide
  last := by decide

/-- A struct in a module, documented in some style. -/
def pageSource (style : CommentStyle) : String :=
  "mod pages \x7b\n" ++ String.ofList (style.text 4 paragraphs.lines) ++
    "    #[derive(ToResponse)]\n    struct Page;\n\x7d\n"

private theorem exists_page (style : CommentStyle) :
    (∃ declarations, extractDeclarations (pageSource style) = .ok declarations) ∧
      ∃ place, DeclaredAt (items (pageSource style)) place ∧
        place.DocumentedBy ⟨2, 1⟩ (style.text 4 paragraphs.lines) := by
  have isOk : (extractDeclarations (pageSource style)).isOk = true := by
    cases style <;> decide +kernel
  have listed : ∃ place ∈ placesFrom [] (items (pageSource style)),
      place.DocumentedBy ⟨2, 1⟩ (style.text 4 paragraphs.lines) := by
    cases style <;> decide +kernel
  obtain ⟨place, listed, documented⟩ := listed
  exact ⟨exists_of_isOk isOk, place, mem_placesFrom.mp listed, documented⟩

/-- In line comments the empty line is kept, in a block comment it is not. -/
theorem description_documented_paragraphs :
    (∃ declarations, extractDeclarations (pageSource .line) = .ok declarations ∧
      ∃ declaration ∈ declarations, declaration.description = "First.\n\nSecond.") ∧
    ∃ declarations, extractDeclarations (pageSource .block) = .ok declarations ∧
      ∃ declaration ∈ declarations, declaration.description = "First.\nSecond." := by
  have described (style : CommentStyle) :
      ∃ declarations, extractDeclarations (pageSource style) = .ok declarations ∧
        ∃ declaration ∈ declarations,
          declaration.description = joinLines (style.kept paragraphs.lines) := by
    obtain ⟨⟨declarations, extracted⟩, place, declared, documented⟩ := exists_page style
    obtain ⟨listed, description, -⟩ :=
      description_documented paragraphs extracted declared documented
    exact ⟨declarations, extracted, _, listed, description⟩
  exact ⟨described .line, described .block⟩

/-- A block comment with two paragraphs does not describe a struct by its lines. -/
theorem description_paragraphs :
    ¬ ∀ (documentation : Documentation) (source : String) (declarations : List Declaration)
      (place : Place) (style : CommentStyle) (indent : Nat) (here : Location),
      extractDeclarations source = .ok declarations → DeclaredAt (items source) place →
      place.DocumentedBy here (style.text indent documentation.lines) →
      place.declaration.description = joinLines documentation.lines := by
  intro holds
  obtain ⟨⟨declarations, extracted⟩, place, declared, documented⟩ := exists_page .block
  have description := holds paragraphs _ _ place .block 4 _ extracted declared documented
  rw [Declaration.description,
    documented.docs_eq (CommentStyle.documents paragraphs.isDocLine 4 .block)] at description
  exact absurd description (by decide)

end Source

end OpenResponse
