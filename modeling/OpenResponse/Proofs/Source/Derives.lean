import OpenResponse.Proofs.Command.Presentation
import OpenResponse.Proofs.Source.DerivePaths
import OpenResponse.Proofs.Source.Grouping

/-!
# What declarations derive

A declaration derives the traits that its attributes name, and it is compiled once for each of the
two traits that responses are compiled for.  So what is compiled of a source is known from the names
alone; and where the lists of its attributes are tidy, from the last segments of their paths,
however the lists are laid out.

The chain from the text of a list to what is compiled has three links, and each is a law by itself:
extraction keeps the arguments of the attributes, the arguments are read as names, and a declaration
is compiled once for each of the two traits among its names.  Only the second link depends on the
layout.

## Main definitions

* `Declaration.DerivesWritten` — a declaration with lists of paths for what it derives
* `Compiled.label`, `compiledTraits` — what is compiled, and for which traits

## Main statements

* `derives_eq` — what a declaration derives is what its lists are read as
* `labels_of_compileSource` — what is compiled is known from what is derived
* `derives_written` — **the traits that a declaration derives**

## Hypotheses

The arguments of every `derive` attribute are supposed to be a list of paths with blanks and
comments, as they are in any source that can be compiled.  Nothing is supposed about the layout;
that is the question.

That no comment has a separator of paths in it is needed only for the converse.  Without it a
comment could end in the very name that it hides, and the list would be read as it should be by
accident.
-/

namespace OpenResponse

open Source

/-- The arguments of the attributes of a declaration that derive traits are lists of paths, one list
for each attribute, in order. -/
def Declaration.DerivesWritten (declaration : Declaration) (lists : List DeriveList) : Prop :=
  List.Forall₂ (fun attr list => attr.arguments.toList = list.text)
    (declaration.attributes.filter (·.name == "derive")) lists

section Derives

variable {source : String} {declarations : List Declaration} {declaration : Declaration}

/-- What a declaration derives is what the lists of its attributes are read as. -/
theorem derives_eq (extracted : extractDeclarations source = .ok declarations)
    (listed : declaration ∈ declarations) {lists : List DeriveList}
    (written : declaration.DerivesWritten lists) :
    declaration.derives = lists.flatMap fun list => namesIn list.text := by
  obtain ⟨_, waiting, _, _, rfl, -, -⟩ := exists_read_of_mem extracted listed
  show derivedNames waiting.attributes = _
  rw [derivedNames_eq]
  replace written : List.Forall₂ (fun attr list => attr.arguments.toList = list.text)
    (waiting.attributes.filter (·.name == "derive")) lists := written
  generalize waiting.attributes.filter (·.name == "derive") = attributes at written
  induction written with
  | nil => rfl
  | cons same _ ih => rw [List.flatMap_cons, List.flatMap_cons, same, ih]

/-- What a compiled response is compiled from and for.  Chains and documents are left out, as they
follow from the two. -/
def Compiled.label (one : Compiled) : String × Derive := (one.name, one.derive)

/-- The traits among names for which something is compiled, in the order in which it is. -/
def compiledTraits (names : List String) : List Derive :=
  [Derive.toResponse, .intoResponses].filter fun derive => names.contains derive.name

private theorem Declaration.compiledTraits_derives (declaration : Declaration) :
    compiledTraits declaration.derives =
      (if declaration.has .toResponse then [.toResponse] else []) ++
        if declaration.has .intoResponses then [.intoResponses] else [] := by
  have filtered : compiledTraits declaration.derives =
      [Derive.toResponse, .intoResponses].filter declaration.has := rfl
  rw [filtered, List.filter_cons, List.filter_cons, List.filter_nil]
  split <;> rfl

private theorem whenDerived_labels {derived : Bool} {step : Except Fault Compiled}
    {label : String × Derive} (labelled : ∀ one, step = .ok one → one.label = label)
    {list : List Compiled} (done : whenDerived derived step = .ok list) :
    list.map Compiled.label = if derived then [label] else [] := by
  cases derived with
  | false =>
    cases done
    rfl
  | true =>
    obtain ⟨one, made, rfl⟩ := map_eq_ok.mp done
    rw [List.map_singleton, labelled one made, if_pos rfl]

/-- What a declaration is compiled for is known from the names of what it derives. -/
theorem Declaration.labels_derived {list : List Compiled}
    (done : declaration.derived declarations = .ok list) :
    list.map Compiled.label =
      (compiledTraits declaration.derives).map fun derive => (declaration.name, derive) := by
  obtain ⟨first, firstDone, done⟩ := outcome_bind_eq_ok.mp done
  obtain ⟨second, secondDone, same⟩ := outcome_bind_eq_ok.mp done
  cases same
  have response (one : Compiled) (made : declaration.toResponse declarations = .ok one) :
      one.label = (declaration.name, .toResponse) :=
    Prod.ext (Declaration.toResponse_named made).1 (Declaration.toResponse_named made).2
  have responses (one : Compiled) (made : declaration.intoResponses declarations = .ok one) :
      one.label = (declaration.name, .intoResponses) :=
    Prod.ext (Declaration.intoResponses_eq_ok made).1.1 (Declaration.intoResponses_eq_ok made).1.2
  rw [List.map_append, whenDerived_labels response firstDone,
    whenDerived_labels responses secondDone, declaration.compiledTraits_derives]
  cases declaration.has .toResponse <;> cases declaration.has .intoResponses <;> rfl

/-- Items of which nothing is listed may be left out. -/
theorem flatMap_filter_of_eq_nil {α β : Type} {keep : α → Bool} {list : α → List β} {items : List α}
    (nothing : ∀ item ∈ items, keep item = false → list item = []) :
    (items.filter keep).flatMap list = items.flatMap list := by
  induction items with
  | nil => rfl
  | cons item items ih =>
    obtain ⟨first, others⟩ := List.forall_mem_cons.mp nothing
    cases kept : keep item with
    | true => rw [List.filter_cons_of_pos kept, List.flatMap_cons, List.flatMap_cons, ih others]
    | false =>
      rw [List.filter_cons_of_neg (by simp [kept]), List.flatMap_cons, first kept, ih others,
        List.nil_append]

/-- What a source is compiled to is known from the names of what its declarations derive: a
declaration that derives neither trait is compiled to nothing, and every other one in the order of
the traits. -/
theorem labels_of_compileSource (extracted : extractDeclarations source = .ok declarations)
    {compiled : List Compiled} (compiles : compileSource source none = .ok compiled) :
    compiled.map Compiled.label = declarations.flatMap fun declaration =>
      (compiledTraits declaration.derives).map fun derive => (declaration.name, derive) := by
  rw [compileSource, extracted] at compiles
  obtain ⟨lists, made, rfl⟩ := compileDeclarations_eq_ok.mp compiles
  have labels : lists.flatten.map Compiled.label = (targets declarations).flatMap fun declaration =>
      (compiledTraits declaration.derives).map fun derive => (declaration.name, derive) := by
    rw [mapM_eq_ok] at made
    clear compiles
    generalize targets declarations = candidates at made
    induction made with
    | nil => rfl
    | cons first _ ih =>
      rw [List.flatten_cons, List.map_append, List.flatMap_cons, ih,
        Declaration.labels_derived first]
  rw [labels, targets]
  -- what is no target is compiled for nothing
  refine flatMap_filter_of_eq_nil fun declaration _ notTarget => ?_
  rw [declaration.compiledTraits_derives]
  revert notTarget
  cases declaration.has .toResponse <;> cases declaration.has .intoResponses <;> simp

/-- **The traits that a declaration derives.**  Let the attributes of a source that derive traits
have lists of paths for arguments, with blanks and comments between any two tokens.  A declaration
whose lists are tidy derives the last segments of their paths, in order; and as long as no comment
has a separator of paths in it, no other declaration does.  Where all lists of a source are tidy,
what is compiled, and for which traits, is known from the last segments alone. -/
theorem derives_written {lists : Declaration → List DeriveList}
    (extracted : extractDeclarations source = .ok declarations)
    (written : ∀ declaration ∈ declarations, declaration.DerivesWritten (lists declaration)) :
    (∀ declaration ∈ declarations, (∀ list ∈ lists declaration, list.Tidy) →
      declaration.derives = (lists declaration).flatMap DeriveList.names) ∧
    (∀ declaration ∈ declarations,
      (∀ list ∈ lists declaration, ∀ trivia ∈ list.trivia, trivia.Unseparated) →
      (declaration.derives = (lists declaration).flatMap DeriveList.names ↔
        ∀ list ∈ lists declaration, list.Tidy)) ∧
    ((∀ declaration ∈ declarations, ∀ list ∈ lists declaration, list.Tidy) →
      ∀ compiled, compileSource source none = .ok compiled →
        compiled.map Compiled.label = declarations.flatMap fun declaration =>
          (compiledTraits ((lists declaration).flatMap DeriveList.names)).map fun derive =>
            (declaration.name, derive)) := by
  have tidy {declaration : Declaration} (listed : declaration ∈ declarations)
      (tidy : ∀ list ∈ lists declaration, list.Tidy) :
      declaration.derives = (lists declaration).flatMap DeriveList.names := by
    rw [derives_eq extracted listed (written declaration listed)]
    exact List.flatMap_congr fun list isList => (tidy list isList).namesIn_text
  refine ⟨fun _ listed => tidy listed, fun declaration listed unseparated => ?_,
    fun allTidy compiled compiles => ?_⟩
  · refine ⟨fun same list isList => ?_, tidy listed⟩
    refine DeriveList.tidy_of_reads (unseparated list isList) fun name read => ?_
    have derived : name ∈ declaration.derives := by
      rw [derives_eq extracted listed (written declaration listed)]
      exact List.mem_flatMap.mpr ⟨list, isList, read⟩
    rw [same] at derived
    obtain ⟨other, -, isName⟩ := List.mem_flatMap.mp derived
    exact other.isSegment_of_mem_names name isName
  · rw [labels_of_compileSource extracted compiles]
    exact List.flatMap_congr fun declaration listed => by
      rw [tidy listed (allTidy declaration listed)]

end Derives

/-- A struct with a list of two paths on three lines, one of them with a comment before its
separator. -/
def tidySource : String :=
  "#[derive(\n    Debug, respdoc/* api */::ToResponse\n)]\nstruct S;\n"

/-- The list of that struct. -/
def tidyList : DeriveList where
  paths := [
    ⟨.blanks "\n    " (by decide), .bare, .ofWord "Debug" (by decide) (by decide),
      .blanks "" (by decide)⟩,
    ⟨.blanks " " (by decide),
      .step .bare (.ofWord "respdoc" (by decide) (by decide)) (.comment " api " (by decide))
        (.blanks "" (by decide)),
      .ofWord "ToResponse" (by decide) (by decide), .blanks "\n" (by decide)⟩]
  ending := none

/-- What is compiled for that struct, and from which names. -/
theorem derives_written_tidy :
    ∃ declarations compiled, extractDeclarations tidySource = .ok declarations ∧
      compileSource tidySource none = .ok compiled ∧
      (∀ declaration ∈ declarations, declaration.DerivesWritten [tidyList]) ∧
      (∀ declaration ∈ declarations, declaration.derives = ["Debug", "ToResponse"]) ∧
      compiled.map Compiled.label = declarations.flatMap fun declaration =>
        [(declaration.name, .toResponse)] := by
  have arguments : List.map (fun declaration : Declaration =>
      (declaration.attributes.filter (·.name == "derive")).map (·.arguments.toList)) <$>
        extractDeclarations tidySource = .ok [[tidyList.text]] := by decide +kernel
  have compiles : (compileSource tidySource none).isOk = true := by decide +kernel
  obtain ⟨declarations, extracted, texts⟩ := map_eq_ok.mp arguments
  obtain ⟨compiled, compiledAs⟩ := exists_of_isOk compiles
  have written : ∀ declaration ∈ declarations, declaration.DerivesWritten [tidyList] := by
    intro declaration listed
    have isText := List.mem_map_of_mem
      (f := fun declaration : Declaration =>
        (declaration.attributes.filter (·.name == "derive")).map (·.arguments.toList)) listed
    rw [texts, List.mem_singleton] at isText
    obtain ⟨attr, only, same⟩ := List.map_eq_singleton_iff.mp isText
    unfold Declaration.DerivesWritten
    rw [only]
    exact .cons same .nil
  have tidy : ∀ list ∈ [tidyList], list.Tidy := by decide
  obtain ⟨derives, -, labels⟩ := derives_written extracted written
  exact ⟨declarations, compiled, extracted, compiledAs, written,
    fun declaration listed => derives declaration listed tidy,
    labels (fun _ _ => tidy) compiled compiledAs⟩

/-- A list with a blank behind its separator. -/
def spacedList : DeriveList where
  paths := [
    ⟨.blanks "" (by decide),
      .step .bare (.ofWord "respdoc" (by decide) (by decide)) (.blanks "" (by decide))
        (.blanks " " (by decide)),
      .ofWord "ToResponse" (by decide) (by decide), .blanks "" (by decide)⟩]
  ending := none

/-- With that list a struct derives nothing that it is compiled for. -/
theorem extractDeclarations_spacedDerive :
    ¬ ∀ (source : String) (declarations : List Declaration) (list : DeriveList),
      extractDeclarations source = .ok declarations →
      ∀ declaration ∈ declarations, declaration.DerivesWritten [list] →
        declaration.derives = list.names := by
  intro derives
  have read : List.map (fun declaration : Declaration => (declaration.derives,
      (declaration.attributes.filter (·.name == "derive")).map (·.arguments.toList))) <$>
        extractDeclarations "#[derive(respdoc:: ToResponse)]\nstruct S;\n" =
      .ok [([" ToResponse"], [spacedList.text])] := by decide +kernel
  obtain ⟨declarations, extracted, only⟩ := map_eq_ok.mp read
  obtain ⟨declaration, rfl, same⟩ := List.map_eq_singleton_iff.mp only
  obtain ⟨derived, isText⟩ := Prod.ext_iff.mp same
  obtain ⟨attr, isOnly, isSpaced⟩ := List.map_eq_singleton_iff.mp isText
  have written : declaration.DerivesWritten [spacedList] := by
    unfold Declaration.DerivesWritten
    rw [isOnly]
    exact .cons isSpaced .nil
  have wrong := derives _ _ spacedList extracted declaration (List.mem_singleton_self _) written
  have different : [" ToResponse"] ≠ spacedList.names := by decide
  exact different (derived.symm.trans wrong)

end OpenResponse
