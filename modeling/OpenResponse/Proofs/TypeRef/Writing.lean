import OpenResponse.Proofs.Token.Writing
import OpenResponse.Proofs.TypeRef.Form

/-!
# Writing types

A type that is well formed is made of paths of names, slices and the unit type.  It is written as it
is shown, with a comma behind the last type argument if the style has it.

What is shown of a path is one text, while a path is written with one token for each of its names.
So the text has to be taken apart again, which is possible because there is no colon in a name: the
parts of a joined text are the texts that were joined.

## Main definitions

* `IsPath`, `TypeRef.WellFormed` — what can be written
* `TypeRef.symbols`, `InlineType.symbols` — what is written

## Main statements

* `TypeRef.WellFormed.writes`, `InlineType.writes` — the form of a type is written with its symbols

## Hypotheses

`TypeRef.WellFormed` is not implied by having a type, since the text of a path can be any text.  It
holds of all types that are read, and `TypeForm.wellFormed` says so; it is asked here so that types
can be written that do not come from a text.

A style is asked in one place for each list of type arguments.  Slices and arguments go on with the
part of the style that belongs to them, so that lists inside of lists may differ.
-/

namespace OpenResponse

/-! ### Paths

The symbols of a path are defined for any text, well formed or not.  For a path of names they are
the names with separators between them, and it is only then that they are read as a path. -/

/-- The parts of a path between its separators. -/
def segments : List Char → List (List Char)
  | [] => [[]]
  | ':' :: ':' :: rest => [] :: segments rest
  | c :: rest =>
    match segments rest with
    | [] => [[c]]
    | first :: more => (c :: first) :: more

/-- A separator of paths. -/
def Symbol.separator : Symbol := ⟨.pathSeparator, "::"⟩

/-- The names of a path with separators between them.  In front of the first separator of a path
that begins at the root there is nothing. -/
def joinedSymbols : List String → List Symbol
  | [] => []
  | name :: rest =>
    (if name = "" then [] else [.word name]) ++ rest.flatMap fun name => [.separator, .word name]

/-- The symbols of a path. -/
def pathSymbols (path : String) : List Symbol :=
  joinedSymbols ((segments path.toList).map String.ofList)

/-- A path is made of names, and may begin at the root.  It is a text, since paths are kept as
texts. -/
def IsPath (path : String) : Prop :=
  ∃ root first rest, path = joinPath root (first :: rest) ∧
    ∀ name ∈ first :: rest, isName name = true

/-- A name is a path. -/
theorem isPath_of_isName {name : String} (named : isName name = true) : IsPath name :=
  ⟨false, name, [], by simp [joinPath], List.forall_mem_singleton.mpr named⟩

/-- There is no colon in a name. -/
theorem not_mem_of_isName {name : String} (isName : isName name = true) : ':' ∉ name.toList := by
  rw [OpenResponse.isName] at isName
  split at isName
  next => cases isName
  next c rest whole =>
    rw [Bool.and_eq_true, List.all_eq_true] at isName
    rw [whole]
    intro listed
    have continues : continuesName ':' = true := by
      rcases List.mem_cons.mp listed with rfl | later
      · exact continuesName_of_beginsName isName.1
      · exact isName.2 _ later
    revert continues
    decide

private theorem ne_empty_of_isName {name : String} (isName : isName name = true) : name ≠ "" := by
  rintro rfl
  revert isName
  decide

/-- What stands in front of a separator is a part of its own. -/
theorem segments_append {part : List Char} (noColon : ':' ∉ part) (rest : List Char) :
    segments (part ++ ':' :: ':' :: rest) = part :: segments rest := by
  induction part with
  | nil => rfl
  | cons c part ih =>
    have differ : c ≠ ':' := fun same => noColon (same ▸ List.mem_cons_self)
    rw [List.cons_append, segments.eq_3 c _ (fun _ same _ => differ same),
      ih fun listed => noColon (List.mem_cons_of_mem _ listed)]

/-- A text without colons is a single part. -/
theorem segments_of_not_mem {part : List Char} (noColon : ':' ∉ part) : segments part = [part] := by
  induction part with
  | nil => rfl
  | cons c part ih =>
    have differ : c ≠ ':' := fun same => noColon (same ▸ List.mem_cons_self)
    rw [segments.eq_3 c _ (fun _ same _ => differ same),
      ih fun listed => noColon (List.mem_cons_of_mem _ listed)]

/-- The parts of a joined text are the texts that were joined. -/
theorem segments_intercalate (first : String) (rest : List String)
    (noColon : ∀ part ∈ first :: rest, ':' ∉ part.toList) :
    segments ("::".intercalate (first :: rest)).toList = (first :: rest).map String.toList := by
  induction rest generalizing first with
  | nil =>
    rw [String.intercalate_singleton]
    exact segments_of_not_mem (noColon first List.mem_cons_self)
  | cons second rest ih =>
    rw [String.intercalate_cons_cons, String.toList_append, String.toList_append, List.append_assoc]
    have others := ih second fun part listed => noColon part (List.mem_cons_of_mem _ listed)
    exact (segments_append (noColon first List.mem_cons_self) _).trans (congrArg _ others)

/-- The symbols of a path are those of its names. -/
theorem pathSymbols_joinPath {root : Bool} {first : String} {rest : List String}
    (names : ∀ name ∈ first :: rest, isName name = true) :
    pathSymbols (joinPath root (first :: rest)) =
      (if root then [.separator] else []) ++
        .word first :: rest.flatMap fun name => [.separator, .word name] := by
  have joined (parts : List String) : (parts.map String.toList).map String.ofList = parts := by
    rw [List.map_map]
    exact (List.map_congr_left fun part _ => String.ofList_toList).trans (List.map_id parts)
  have noColon : ∀ name ∈ first :: rest, ':' ∉ name.toList :=
    fun name listed => not_mem_of_isName (names name listed)
  rw [pathSymbols, joinPath]
  cases root with
  | true =>
    have parts := segments_intercalate "" (first :: rest) fun part listed => by
      rcases List.mem_cons.mp listed with rfl | later
      · exact List.not_mem_nil
      · exact noColon part later
    rw [if_pos rfl, List.singleton_append, parts, joined]
    rfl
  | false =>
    have parts := segments_intercalate first rest noColon
    rw [if_neg (by decide), List.nil_append, parts, joined, joinedSymbols,
      if_neg (ne_empty_of_isName (names first List.mem_cons_self))]
    rfl

namespace Form.Writes

/-- The names that continue a path. -/
theorem tail {names : List String} (all : ∀ name ∈ names, isName name = true) :
    tailForm.Writes (names.flatMap fun name => [.separator, .word name]) names := by
  induction names with
  | nil => exact ⟨fun _ listed => (by cases listed), fun tokens same => by
      rw [List.map_eq_nil_iff.mp same]
      exact PathTail.nil⟩
  | cons name names ih =>
    have others := ih fun other listed => all other (List.mem_cons_of_mem _ listed)
    have named := Symbol.spelled_word (all name List.mem_cons_self)
    constructor
    · intro symbol listed
      rcases List.mem_append.mp listed with inFirst | later
      · rcases List.mem_cons.mp inFirst with rfl | isName
        · exact ⟨_, .separator⟩
        · rw [List.mem_singleton.mp isName]
          exact named
      · exact others.spelled symbol later
    · intro tokens same
      obtain ⟨separator, _, rfl, isSeparator, sameRest⟩ := List.map_eq_cons_iff.mp same
      obtain ⟨word, rest, rfl, isWord, sameOthers⟩ := List.map_eq_cons_iff.mp sameRest
      have isText := congrArg Symbol.value isWord
      rw [← show word.value = name from isText]
      exact .cons (congrArg Symbol.kind isSeparator) (congrArg Symbol.kind isWord)
        (others.allowed rest sameOthers)

private theorem path {path : String} (isPath : IsPath path) :
    pathForm.Writes (pathSymbols path) path := by
  obtain ⟨root, first, rest, rfl, names⟩ := isPath
  rw [pathSymbols_joinPath names]
  refine optionalBind ⟨_, .separator⟩ rfl root ?_
  refine tokenBind (Symbol.spelled_word (names first List.mem_cons_self)) ?_
  exact (tail fun name listed => names name (List.mem_cons_of_mem _ listed)).bindPure _

end Form.Writes

/-! ### Types

References, lifetimes and lengths are not part of a type, so they are never written.  That types are
written with them all the same is what trees are for. -/

/-- A type that can be written.  Its paths are paths, at any depth. -/
inductive TypeRef.WellFormed : TypeRef → Prop
  | path {full : String} {args : List TypeRef} (isPath : IsPath full)
      (parts : ∀ arg ∈ args, arg.WellFormed) : WellFormed (.path full args)
  | slice {item : TypeRef} (wellFormed : item.WellFormed) : WellFormed (.slice item)
  | unit : WellFormed .unit

/-- A name is a type by itself. -/
theorem TypeRef.WellFormed.name {name : String} (named : isName name = true) :
    (TypeRef.path name []).WellFormed :=
  .path (isPath_of_isName named) fun _ listed => (List.not_mem_nil listed).elim

mutual

/-- The symbols of a type.  A reference or the length of an array is never written. -/
def TypeRef.symbols (style : Style) : TypeRef → List Symbol
  | .unit => [.mark '(', .mark ')']
  | .slice item => .mark '[' :: (symbols (style.part 0) item ++ [.mark ']'])
  | .path full [] => pathSymbols full
  | .path full args =>
    pathSymbols full ++ .mark '<' :: (punctuate style.here (argSymbols style args) ++ [.mark '>'])

/-- The symbols of type arguments. -/
def TypeRef.argSymbols (style : Style) : List TypeRef → List (List Symbol)
  | [] => []
  | arg :: rest => symbols (style.part 0) arg :: argSymbols (style.part 1) rest

end

/-- Type arguments are written one by one. -/
theorem TypeRef.argSymbols_eq (style : Style) (args : List TypeRef) :
    argSymbols style args = writeEach TypeRef.symbols style args := by
  induction args generalizing style with
  | nil => rfl
  | cons arg rest ih => rw [argSymbols, writeEach, ih]

/-- A type that is well formed is written with its symbols.  In whatever style it is written, the
tokens are tokens of that type. -/
theorem TypeRef.WellFormed.writes {type : TypeRef} (wellFormed : type.WellFormed) (style : Style) :
    typeForm.Writes (type.symbols style) type := by
  refine Form.Writes.mono ?_ fun tokens type => typeForm_iff.mpr
  -- each part of a type is written in a style of its own, so the style varies
  induction wellFormed generalizing style with
  | unit => exact .right (.right (.left (.markBind rfl (.markBind rfl (.pure _)))))
  | @slice item _ ih =>
    have inner := (ih (style.part 0)).mono fun tokens type => typeForm_iff.mpr
    refine .right (.left (.markBind rfl (inner.bind ?_)))
    exact .optionalBind (Symbol.spelled_mark (c := ';') rfl) rfl false (.markBind rfl (.pure _))
  | @path full args isPath _ ih =>
    refine .right (.right (.right ?_))
    have path := Form.Writes.path isPath
    have less : (Symbol.mark '<').Spelled := Symbol.spelled_mark rfl
    cases args with
    | nil =>
      rw [TypeRef.symbols, ← List.append_nil (pathSymbols full)]
      exact path.bind (.optionalBind less rfl false (.pure _))
    | cons arg rest =>
      have each : List.Forall₂ typeForm.Writes (argSymbols style (arg :: rest)) (arg :: rest) := by
        rw [argSymbols_eq]
        refine forall₂_writeEach (fun arg listed style => ?_) style
        exact (ih arg listed style).mono fun tokens type => typeForm_iff.mpr
      have args : List.Forall₂ (argumentForm typeForm).Writes (argSymbols style (arg :: rest))
          ((arg :: rest).map some) := by
        refine List.forall₂_map_right_iff.mpr (each.imp fun symbols arg written => ?_)
        exact ⟨written.spelled, fun tokens same => .type (written.allowed tokens same)⟩
      have named := (Form.Writes.list (c := '>') rfl args style.here).bindPure fun args =>
        TypeRef.path full (args.filterMap id)
      rw [List.filterMap_map, Function.id_comp, List.filterMap_some] at named
      exact path.bind (.optionalBind less rfl true named)

/-- The symbols of a type that may be marked to be written out.  The mark is written if the schema
is to be written out. -/
def InlineType.symbols (style : Style) (type : InlineType) : List Symbol :=
  if type.isInline then
    .word "inline" :: .mark '(' :: (type.type.symbols style ++ [.mark ')'])
  else type.type.symbols style

/-- A type that may be marked is written with its symbols, if the type itself can be written. -/
theorem InlineType.writes {type : InlineType} (wellFormed : type.type.WellFormed) (style : Style) :
    inlineTypeForm.Writes (type.symbols style) type := by
  obtain ⟨type, isInline⟩ := type
  have inner := wellFormed.writes style
  cases isInline with
  | true =>
    exact .left (.wordBind (by decide) (.markBind rfl (inner.bind (.markBind rfl (.pure _)))))
  | false => exact .right (inner.bindPure _)

end OpenResponse
