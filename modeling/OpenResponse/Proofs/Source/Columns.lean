import Mathlib.Data.List.DropRight
import OpenResponse.Proofs.Source.Nesting
import OpenResponse.Proofs.Token.Tiling

/-!
# Columns of the arguments of attributes

A source counts columns in bytes: that is where its pieces are, and where the arguments of an
attribute begin.  The tokens of the arguments go on from there, but count characters.  So a token
is on the line on which it stands, and its column falls short by the bytes that the characters in
front of it, on its own line of the arguments, take beyond one each.

## Main definitions

* `locationIn` — the location of a place in a source
* `currentLine`, `surplus` — the line in which a text ends, and the bytes that are not counted
* `Location.Trails` — a location that falls short of another on its line

## Main statements

* `location_of_pieces` — pieces are located where they stand
* `behind_trails` — what counting characters misses
* `argumentTokens_trail` — **the tokens of arguments fall short of their places**

## Design notes

The two counts are compared on any text, before there is a source.  Both start a new line at the
same characters, so they differ in columns only, and since the last line break each character adds
its bytes to one column and one to the other.  `Location.behind_trails` says this for a text that is
passed from any location; the rest of the module is about where that text is in the source.

The tokens of the arguments tile their text, which gives the text in front of each token.  The
pieces of the source tile the source, which gives the text in front of the arguments.  Neither has
to be read again.

## Hypotheses

The surplus is that of the line of the arguments, not of the source: what stands in front of the
arguments is counted in bytes by both.  That is why the law mentions the line as far back as the
arguments begin.
-/

namespace OpenResponse

/-! ### Two ways to count

A text is passed with a location, once by characters and once by bytes.  Every character has at
least one byte, so a location that counts characters never comes out behind the other one. -/

/-- The last line of a text.  It is what is left behind the last line break, and the whole text if
there is none. -/
def currentLine (text : List Char) : List Char := text.rtakeWhile (· != '\n')

/-- The number of bytes that characters take beyond one each.  On one line, this is what a column
that counts bytes is ahead of one that counts characters. -/
def surplus : List Char → Nat
  | [] => 0
  | c :: rest => c.utf8Size - 1 + surplus rest

private theorem surplus_concat (text : List Char) (c : Char) :
    surplus (text ++ [c]) = surplus text + (c.utf8Size - 1) := by
  induction text with
  | nil => exact Nat.add_comm _ _
  | cons d text ih => rw [List.cons_append, surplus, ih, surplus, Nat.add_assoc]

/-- Only characters beyond ASCII take more than one byte. -/
theorem utf8Size_sub_one_eq_zero {c : Char} : c.utf8Size - 1 = 0 ↔ c.toNat < 128 := by
  have pos := c.utf8Size_pos
  have single : c.utf8Size - 1 = 0 ↔ c.utf8Size = 1 := by omega
  rw [single, Char.utf8Size_eq_one_iff, UInt32.le_iff_toNat_le]
  exact Nat.lt_succ_iff.symm

private theorem surplus_eq_zero {text : List Char} :
    surplus text = 0 ↔ ∀ c ∈ text, c.toNat < 128 := by
  induction text with
  | nil => exact ⟨fun _ => nofun, fun _ => rfl⟩
  | cons c text ih =>
    rw [surplus, Nat.add_eq_zero_iff, utf8Size_sub_one_eq_zero, ih, List.forall_mem_cons]

/-- A location that falls short of a place on its own line, given what stands on that line in front
of the place. -/
structure Location.Trails (location place : Location) (line : List Char) : Prop where
  sameLine : location.line = place.line
  column : location.column + surplus line = place.column
  /-- The location is that of the place only if no byte is missed. -/
  exact_iff : location = place ↔ ∀ c ∈ line, c.toNat < 128

private theorem Location.Trails.of_column {location place : Location} {line : List Char}
    (sameLine : location.line = place.line)
    (column : location.column + surplus line = place.column) : location.Trails place line where
  sameLine := sameLine
  column := column
  exact_iff := by
    obtain ⟨number, first⟩ := location
    obtain ⟨sameNumber, second⟩ := place
    dsimp only at sameLine column
    rw [← surplus_eq_zero, Location.mk.injEq]
    omega

/-- Counting characters misses the bytes that they take beyond one each, since the line began.  The
lines are the same, as a line break is one byte and one character. -/
theorem Location.behind_trails (here : Location) (text : List Char) :
    (here.behind text).Trails (here.behindBytes text) (currentLine text) := by
  have counted : (here.behind text).line = (here.behindBytes text).line ∧
      (here.behind text).column + surplus (currentLine text) =
        (here.behindBytes text).column := by
    -- from the left the line is not known yet, so the text is read up to its last character
    induction text using List.reverseRecOn with
    | nil => exact ⟨rfl, rfl⟩
    | append_singleton text c ih =>
      obtain ⟨sameLine, column⟩ := ih
      have first : here.behind (text ++ [c]) = (here.behind text).next c :=
        here.behind_append text [c]
      have second : here.behindBytes (text ++ [c]) = (here.behindBytes text).nextByte c :=
        here.behindBytes_append text [c]
      rw [first, second, Location.next, Location.nextByte, currentLine]
      by_cases lineFeed : c = '\n'
      · rw [if_pos lineFeed, if_pos lineFeed, List.rtakeWhile_concat_neg _ _ _ (by simp [lineFeed])]
        exact ⟨congrArg (· + 1) sameLine, rfl⟩
      · rw [if_neg lineFeed, if_neg lineFeed, List.rtakeWhile_concat_pos _ _ _ (by simp [lineFeed]),
          surplus_concat]
        have pos := c.utf8Size_pos
        rw [currentLine] at column
        exact ⟨sameLine, by dsimp only; omega⟩
  exact .of_column counted.1 counted.2

namespace Source

open Source.Tree (yield yields)

/-! ### Places in a source

A group stands in the source with its brackets, because trees lose no piece and pieces lose no
character.  The arguments of an attribute are the inside of a group, and so they have a place. -/

/-- The location of a place in a source: that of the text in front of it, with columns counted in
bytes. -/
def locationIn (source : List Char) (place : Nat) : Location :=
  Location.start.behindBytes (source.take place)

/-- A piece is located where it stands.  The text in front of it is that of the pieces before it, as
pieces are cut without gaps. -/
theorem location_of_pieces {here : Location} {text : List Char} {before after : List Piece}
    {piece : Piece} (split : pieces here text = before ++ piece :: after) :
    piece.location = here.behindBytes (before.flatMap Piece.text) := by
  fun_induction pieces here text generalizing before with
  | case1 => cases before <;> cases split
  | case2 =>
    rename_i ih
    cases before with
    | nil =>
      cases split
      rfl
    | cons first before =>
      obtain ⟨rfl, others⟩ := List.cons.inj split
      rw [List.flatMap_cons, Location.behindBytes_append]
      exact ih others

/-- The line of an interpreter stands in front of the rest of its source. -/
theorem interpreterLine_append (text : List Char) :
    interpreterLine text ++ text.drop (interpreterLine text).length = text := by
  have isPrefix : interpreterLine text <+: text := by
    unfold interpreterLine
    split
    · split
      · exact List.nil_prefix
      · exact List.takeWhile_prefix _
    · exact List.nil_prefix
  exact List.prefix_iff_eq_append.mp isPrefix

/-- A group stands in its source with its brackets, and is located there. -/
theorem exists_split_of_within {source : String} {opening closing : Piece} {inner : List Tree}
    (within : Tree.Within (.group opening inner closing) (trees (sourcePieces source))) :
    ∃ front back, source.toList = front ++ (opening.text ++ (Tree.texts inner ++ back)) ∧
      opening.location = Location.start.behindBytes front := by
  obtain ⟨before, after, split⟩ := within.yield_infix
  rw [yields_trees, yield, List.append_assoc, sourcePieces] at split
  have whole := interpreterLine_append source.toList
  generalize interpreterLine source.toList = line at split whole
  have text := flatMap_text_pieces (Location.start.behindBytes line)
    (source.toList.drop line.length)
  rw [← split, List.flatMap_append, List.flatMap_append, List.flatMap_cons, List.flatMap_append,
    List.append_assoc, List.append_assoc, Tree.flatMap_text_yields] at text
  refine ⟨line ++ before.flatMap Piece.text,
    [closing].flatMap Piece.text ++ after.flatMap Piece.text, ?_, ?_⟩
  · rw [List.append_assoc, text, whole]
  · rw [location_of_pieces split.symm, Location.behindBytes_append]

/-- The arguments of an attribute stand in its source, and the attribute is located where they
begin. -/
theorem exists_split_of_arguments {source : String} {attr : SourceAttribute}
    (listed : attr ∈ attributesAmong (items source)) {arguments : String}
    (has : attr.content = .arguments arguments) :
    ∃ front back, source.toList = front ++ (arguments.toList ++ back) ∧
      attr.location = Location.start.behindBytes front := by
  obtain ⟨name, content, location⟩ := attr
  cases has
  obtain ⟨group, within, read⟩ := writtenIn_of_mem_items listed
  obtain ⟨opening, inner, closing, isGroup, rfl, rfl⟩ := exists_group_of_arguments read
  have inSource := (Tree.Within.here isGroup).trans within
  obtain ⟨front, back, split, located⟩ := exists_split_of_within inSource
  refine ⟨front ++ opening.text, back, ?_, ?_⟩
  · rw [split, textOf, String.toList_ofList, List.append_assoc]
  · rw [located, Location.behindBytes_append]

/-! ### Tokens of arguments

Reading starts from the location of the arguments, which is that of a place in the source, and a
token is some characters behind. -/

/-- **The tokens of arguments fall short of their places.**  The arguments of an attribute, wherever
in a source it is looked at, stand in the source where the attribute is located.  Every token of
theirs that is read from there, and the end of the arguments, is located on the line on which it
stands.  Its column lacks the bytes that the characters in front of it take beyond one each, as far
back as its line or the arguments begin.  So it is located where it stands exactly if all of these
characters are ASCII. -/
theorem argumentTokens_trail {source : String} {attr : SourceAttribute}
    (listed : attr ∈ attributesAmong (items source)) {arguments : String}
    (has : attr.content = .arguments arguments) {stream : TokenStream}
    (read : tokenize attr.location arguments = .ok stream) :
    ∃ front back spans, source.toList = front ++ (arguments.toList ++ back) ∧
      attr.location = locationIn source.toList front.length ∧
      Tiled attr.location arguments.toList 0 spans stream.tokens ∧
      List.Forall₂ (fun span token =>
        token.location.Trails (locationIn source.toList (front.length + span.first))
          (currentLine (arguments.toList.take span.first))) spans stream.tokens ∧
      stream.finish.Trails (locationIn source.toList (front.length + arguments.toList.length))
        (currentLine arguments.toList) := by
  obtain ⟨front, back, split, located⟩ := exists_split_of_arguments listed has
  obtain ⟨scanned, finish⟩ := tokenize_eq_ok.mp read
  obtain ⟨spans, tiled⟩ := @scan_tiles attr.location [] _ _ scanned
  -- a place in the arguments is one in the source
  have place (first : Nat) (inside : first ≤ arguments.toList.length) :
      locationIn source.toList (front.length + first) =
        attr.location.behindBytes (arguments.toList.take first) := by
    rw [locationIn, split, List.take_length_add_append, List.take_append_of_le_length inside,
      Location.behindBytes_append, located]
  have trails (first : Nat) (inside : first ≤ arguments.toList.length) :
      (attr.location.behind (arguments.toList.take first)).Trails
        (locationIn source.toList (front.length + first))
        (currentLine (arguments.toList.take first)) := by
    rw [place first inside]
    exact attr.location.behind_trails _
  have begins := place 0 (Nat.zero_le _)
  have ends := trails _ le_rfl
  rw [List.take_length, ← finish] at ends
  refine ⟨front, back, spans, split, begins.symm, tiled, ?_, ends⟩
  refine tiled.located.imp fun span token ⟨inside, isLocated⟩ => ?_
  rw [isLocated]
  exact trails span.first inside

/-- The content type and the language of a field, the second on a line of its own. -/
theorem argumentTokens_trail_page :
    let source := "struct Page(\n  /* ä */ #[content(\"text/ö\",\n    en)] String);\n"
    let arguments := "\"text/ö\",\n    en"
    ∃ stream front back spans, tokenize ⟨2, 22⟩ arguments = .ok stream ∧
      source.toList = front ++ (arguments.toList ++ back) ∧
      ⟨2, 22⟩ = locationIn source.toList front.length ∧
      Tiled ⟨2, 22⟩ arguments.toList 0 spans stream.tokens ∧
      List.Forall₂ (fun span token =>
        token.location.Trails (locationIn source.toList (front.length + span.first))
          (currentLine (arguments.toList.take span.first))) spans stream.tokens := by
  intro source arguments
  have listed : (⟨"content", .arguments arguments, ⟨2, 22⟩⟩ : SourceAttribute) ∈
      attributesAmong (items source) := by
    decide +kernel
  have isOk : (tokenize ⟨2, 22⟩ arguments).isOk = true := by decide +kernel
  obtain ⟨stream, read⟩ := exists_of_isOk isOk
  obtain ⟨front, back, spans, split, begins, tiled, tokens, -⟩ :=
    argumentTokens_trail listed rfl read
  exact ⟨stream, front, back, spans, read, split, begins, tiled, tokens⟩

/-- A name behind a character beyond ASCII is not where its token is. -/
theorem argumentTokens_accented :
    ¬ ∀ (source : String) (attr : SourceAttribute) (arguments : String) (stream : TokenStream)
      (front back : List Char) (spans : List Span),
      attr ∈ attributesAmong (items source) → attr.content = .arguments arguments →
      tokenize attr.location arguments = .ok stream →
      source.toList = front ++ (arguments.toList ++ back) →
      attr.location = locationIn source.toList front.length →
      Tiled attr.location arguments.toList 0 spans stream.tokens →
      List.Forall₂ (fun span token =>
        token.location = locationIn source.toList (front.length + span.first))
        spans stream.tokens := by
  intro holds
  have tiled : Tiled ⟨1, 8⟩ "\"é\" x".toList 0 [⟨0, 3⟩, ⟨4, 5⟩]
      [⟨.string, "é", ⟨1, 8⟩⟩, ⟨.identifier, "x", ⟨1, 12⟩⟩] :=
    .cons (by decide) (by decide) (by decide) .nil (by decide) (.string "é" ['é']) <|
      .cons (by decide) (by decide) (by decide) (.blank (by decide) .nil) (by decide)
        (.plain "x" (by decide) (by decide) (by decide)) <|
      .nil (.closed .nil)
  have misplaced := holds "#[mark(\"é\" x)]\nstruct S;\n" ⟨"mark", .arguments "\"é\" x", ⟨1, 8⟩⟩
    "\"é\" x" ⟨_, ⟨1, 13⟩⟩ "#[mark(".toList ")]\nstruct S;\n".toList _ (by decide +kernel) rfl
    (by decide +kernel) (by decide) (by decide) tiled
  obtain ⟨-, second⟩ := List.forall₂_cons.mp misplaced
  exact absurd (List.forall₂_cons.mp second).1 (by decide)

end Source

end OpenResponse
