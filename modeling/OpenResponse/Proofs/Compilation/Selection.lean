import OpenResponse.Proofs.Compilation.Entries

/-!
# Selecting a type

A source is compiled as a whole or for the types of one name.  All of them share the responses that
are kept between look-ups, and what has been kept depends on what has been compiled before; the
compiled responses do not, because a look-up gives the same answer at every point of a compilation.
So compiling for a name is compiling the whole and keeping what has that name.

Once compiling is a function of each declaration, without memory, selecting is filtering a list in
front of the function or behind it.  What has to be seen is that the two filters correspond: all
that a declaration is compiled to has its name, so that filtering the results by name keeps just
those of the declarations with that name.

## Main definitions

* `Declaration.IsTarget` — declarations that are compiled
* `named` — the compiled responses with a name
* `targets`, `targetsNamed` — the declarations that are compiled, all or for a name

## Main statements

* `flatten_filter_named` — selecting declarations selects what they are compiled to
* `compileDeclarations_named`, `exists_compileDeclarations_iff` — the law for declarations
* `compileSource_selects` — **selecting a type commutes with compiling**

## Hypotheses

The declarations that compile are those that derive a trait.  Others are not compiled, and asking
for the name of one fails like asking for a name that is not there.

The first part asks that the whole source compiles.  If it does not, a name may still compile, as
long as the fault lies elsewhere; the second part says that all names together compile exactly if
the source does.
-/

namespace OpenResponse

open Compilation

/-- A declaration that derives a response or a list of responses. -/
def Declaration.IsTarget (declaration : Declaration) : Prop :=
  declaration.has .toResponse = true ∨ declaration.has .intoResponses = true

/-- The compiled responses with a name, in their order.  There can be two for one declaration, and
more if several declarations have the name. -/
def named (name : String) (compiled : List Compiled) : List Compiled :=
  compiled.filter (·.name == name)

private theorem map_name_named (name : String) (compiled : List Compiled) :
    (named name compiled).map Compiled.name =
      (compiled.map Compiled.name).filter (· == name) := by
  rw [named, List.filter_map]
  rfl

/-- The declarations that are compiled, in their order.  All others are looked at only where types
are described. -/
def targets (declarations : List Declaration) : List Declaration :=
  declarations.filter fun declaration =>
    declaration.has .toResponse || declaration.has .intoResponses

/-- The targets are the declarations that derive a trait. -/
theorem mem_targets {declarations : List Declaration} {declaration : Declaration} :
    declaration ∈ targets declarations ↔ declaration ∈ declarations ∧ declaration.IsTarget := by
  rw [targets, List.mem_filter, Bool.or_eq_true, Declaration.IsTarget]

/-- The targets with a name.  A name of a declaration that derives nothing selects nothing, as one
that is not declared does. -/
def targetsNamed (declarations : List Declaration) (name : String) : List Declaration :=
  (targets declarations).filter (·.name == name)

section Targets

variable {declarations : List Declaration} {declaration : Declaration} {name : String}

/-- What a declaration derives has its name. -/
theorem Declaration.derived_named {list : List Compiled}
    (done : declaration.derived declarations = .ok list) :
    ∀ one ∈ list, one.name = declaration.name := by
  intro one listed
  rcases (Declaration.derived_eq_ok done).2.2 one listed with made | made
  · exact (Declaration.toResponse_named made).1
  · exact (Declaration.intoResponses_eq_ok made).1.1

/-- A target derives something. -/
theorem Declaration.IsTarget.derived_ne_nil {list : List Compiled} (target : declaration.IsTarget)
    (done : declaration.derived declarations = .ok list) : list ≠ [] := by
  obtain ⟨response, responses, -⟩ := Declaration.derived_eq_ok done
  rcases target with has | has
  · obtain ⟨one, listed, -⟩ := response has
    exact List.ne_nil_of_mem listed
  · obtain ⟨one, listed, -⟩ := responses has
    exact List.ne_nil_of_mem listed

/-- Selecting declarations selects what they are compiled to.  It holds because everything compiled
from a declaration has the name of that declaration. -/
theorem flatten_filter_named (name : String) {candidates : List Declaration}
    {lists : List (List Compiled)}
    (made : candidates.mapM (Declaration.derived declarations) = .ok lists) :
    ∃ selected, (candidates.filter (·.name == name)).mapM (Declaration.derived declarations) =
      .ok selected ∧ selected.flatten = named name lists.flatten := by
  rw [mapM_eq_ok] at made
  induction made with
  | nil => exact ⟨[], rfl, rfl⟩
  | @cons candidate list candidates lists done _ ih =>
    obtain ⟨selected, made, flat⟩ := ih
    have hasName := Declaration.derived_named done
    rw [named, List.flatten_cons, List.filter_append]
    by_cases same : (candidate.name == name) = true
    · have whole : list.filter (·.name == name) = list :=
        List.filter_eq_self.mpr fun one listed => by rwa [hasName one listed]
      rw [List.filter_cons, if_pos same, whole]
      refine ⟨list :: selected, mapM_eq_ok.mpr (.cons done (mapM_eq_ok.mp made)), ?_⟩
      rw [List.flatten_cons, flat, named]
    · have nothing : list.filter (·.name == name) = [] :=
        List.filter_eq_nil_iff.mpr fun one listed => by rwa [hasName one listed]
      rw [List.filter_cons, if_neg same, nothing]
      exact ⟨selected, made, flat⟩

/-- Nothing is compiled under a name only if no target has it. -/
theorem named_eq_nil_iff {lists : List (List Compiled)}
    (made : (targets declarations).mapM (Declaration.derived declarations) = .ok lists) :
    named name lists.flatten = [] ↔ targetsNamed declarations name = [] := by
  obtain ⟨selected, selectedMade, flat⟩ := flatten_filter_named name made
  obtain ⟨listOf, declarationOf⟩ := mem_of_forall₂ (mapM_eq_ok.mp selectedMade)
  rw [← flat]
  constructor
  · intro empty
    refine List.eq_nil_iff_forall_not_mem.mpr fun declaration listed => ?_
    obtain ⟨list, inSelected, done⟩ := listOf declaration listed
    have target := (mem_targets.mp (List.mem_filter.mp listed).1).2
    exact target.derived_ne_nil done (List.flatten_eq_nil_iff.mp empty list inSelected)
  · intro unknown
    refine List.flatten_eq_nil_iff.mpr fun list inSelected => ?_
    obtain ⟨declaration, listed, -⟩ := declarationOf list inSelected
    rw [targetsNamed] at unknown
    rw [unknown] at listed
    cases listed

/-! ### Compiling for a name

With a name the declarations are filtered first, and an empty list is an error of its own. -/

/-- Everything is compiled exactly if every target is. -/
theorem compileDeclarations_eq_ok {compiled : List Compiled} :
    compileDeclarations declarations none = .ok compiled ↔
      ∃ lists, (targets declarations).mapM (Declaration.derived declarations) = .ok lists ∧
        lists.flatten = compiled := by
  rw [Settled.compileDeclarations_eq, bind_pure_comp, map_eq_ok]
  rfl

/-- A name that no target has is not known. -/
theorem compileDeclarations_of_nil (unknown : targetsNamed declarations name = []) :
    compileDeclarations declarations (some name) = .error (.nowhere (.noSuchType name)) := by
  rw [targetsNamed, targets] at unknown
  simp only [compileDeclarations, unknown]

/-- The targets of a name are compiled one by one, like all others. -/
theorem compileDeclarations_of_ne_nil (known : targetsNamed declarations name ≠ []) :
    compileDeclarations declarations (some name) = (do
      let lists ← (targetsNamed declarations name).mapM (Declaration.derived declarations)
      return lists.flatten) := by
  rw [targetsNamed, targets] at known ⊢
  rw [← Settled.compileEach_eq]
  unfold compileDeclarations
  dsimp only
  split
  next unknown => exact absurd unknown known
  next => rfl

/-- Where everything compiles, a name that targets have is compiled to what has that name.  And a
name that they do not have is a fault.  Selecting before compiling is the same as compiling before
selecting. -/
theorem compileDeclarations_named {compiled : List Compiled}
    (done : compileDeclarations declarations none = .ok compiled) (name : String) :
    (named name compiled ≠ [] →
      compileDeclarations declarations (some name) = .ok (named name compiled)) ∧
    (named name compiled = [] →
      compileDeclarations declarations (some name) = .error (.nowhere (.noSuchType name))) := by
  obtain ⟨lists, made, rfl⟩ := compileDeclarations_eq_ok.mp done
  rw [ne_eq, named_eq_nil_iff made]
  refine ⟨fun known => ?_, compileDeclarations_of_nil⟩
  obtain ⟨selected, selectedMade, flat⟩ := flatten_filter_named name made
  rw [compileDeclarations_of_ne_nil known, ← flat]
  exact outcome_bind_eq_ok.mpr ⟨selected, selectedMade, rfl⟩

/-- Everything compiles exactly if every name of a target does.  So a fault anywhere is found by
compiling the names one by one, and none is hidden by another. -/
theorem exists_compileDeclarations_iff :
    (∃ compiled, compileDeclarations declarations none = .ok compiled) ↔
      ∀ declaration ∈ declarations, declaration.IsTarget →
        ∃ selected, compileDeclarations declarations (some declaration.name) = .ok selected := by
  have everyTarget : (∃ compiled, compileDeclarations declarations none = .ok compiled) ↔
      ∀ declaration ∈ targets declarations,
        ∃ list, declaration.derived declarations = .ok list := by
    rw [Settled.compileDeclarations_eq, exists_bind_pure_eq_ok]
    exact exists_mapM_eq_ok
  have everyNamed (name : String) (known : targetsNamed declarations name ≠ []) :
      (∃ selected, compileDeclarations declarations (some name) = .ok selected) ↔
        ∀ declaration ∈ targetsNamed declarations name,
          ∃ list, declaration.derived declarations = .ok list := by
    rw [compileDeclarations_of_ne_nil known, exists_bind_pure_eq_ok]
    exact exists_mapM_eq_ok
  -- a declaration that is compiled at all is among those that have its name
  have itself {declaration : Declaration} (declared : declaration ∈ declarations)
      (target : declaration.IsTarget) :
      declaration ∈ targetsNamed declarations declaration.name :=
    List.mem_filter.mpr ⟨mem_targets.mpr ⟨declared, target⟩, beq_self_eq_true _⟩
  rw [everyTarget]
  constructor
  · intro every declaration declared target
    refine (everyNamed _ (List.ne_nil_of_mem (itself declared target))).mpr fun other listed => ?_
    exact every other (List.mem_filter.mp listed).1
  · intro every declaration listed
    obtain ⟨declared, target⟩ := mem_targets.mp listed
    have own := itself declared target
    exact (everyNamed _ (List.ne_nil_of_mem own)).mp (every declaration declared target) _ own

end Targets

/-! ### Sources

Selecting is done behind reading the source, so the laws for declarations apply as they are. -/

private theorem compileSource_of_extracted {source : String} {declarations : List Declaration}
    (extracted : extractDeclarations source = .ok declarations) (name : Option String) :
    compileSource source name = compileDeclarations declarations name := by
  rw [compileSource, extracted]
  rfl

/-- **Selecting a type commutes with compiling.**  Where a source compiles, compiling it for a name
gives what has that name among everything that is compiled, in the same order, and fails exactly if
there is nothing, because the name is not resolved.  A source compiles exactly if it does for the
name of every declaration that derives a response or a list of responses. -/
theorem compileSource_selects {source : String} {declarations : List Declaration}
    (extracted : extractDeclarations source = .ok declarations) :
    (∀ compiled, compileSource source none = .ok compiled → ∀ name,
      (named name compiled ≠ [] →
        compileSource source (some name) = .ok (named name compiled)) ∧
      (named name compiled = [] ↔
        ∃ fault, compileSource source (some name) = .error fault ∧ fault.kind = .resolution) ∧
      ∀ fault, compileSource source (some name) = .error fault →
        fault = .nowhere (.noSuchType name)) ∧
    ((∃ compiled, compileSource source none = .ok compiled) ↔
      ∀ declaration ∈ declarations, declaration.IsTarget →
        ∃ selected, compileSource source (some declaration.name) = .ok selected) := by
  simp only [compileSource_of_extracted extracted]
  refine ⟨fun compiled done name => ?_, exists_compileDeclarations_iff⟩
  obtain ⟨selects, fails⟩ := compileDeclarations_named done name
  by_cases unknown : named name compiled = []
  · have failed := fails unknown
    refine ⟨fun known => absurd unknown known, ⟨fun _ => ⟨_, failed, rfl⟩, fun _ => unknown⟩, ?_⟩
    intro fault failedToo
    exact Except.error.inj (failedToo.symm.trans failed)
  · have succeeded := selects unknown
    refine ⟨selects, ⟨fun empty => absurd empty unknown, ?_⟩, ?_⟩
    · rintro ⟨fault, failed, -⟩
      cases failed.symm.trans succeeded
    · intro fault failed
      cases failed.symm.trans succeeded

/-- A source in which two declarations have one name, and one of them inlines a third. -/
def missingSource : String := personSource ++ "#[derive(ToResponse)]\nstruct Missing;\n"

/-- A name that two declarations have, and one that none has. -/
theorem compileSource_selects_missing :
    ∃ declarations compiled, extractDeclarations missingSource = .ok declarations ∧
      compileSource missingSource none = .ok compiled ∧
      compiled.map Compiled.name = ["Person", "Missing", "Missing"] ∧
      compileSource missingSource (some "Missing") = .ok (named "Missing" compiled) ∧
      (∃ fault, compileSource missingSource (some "Gone") = .error fault ∧
        fault.kind = .resolution) ∧
      ∀ declaration ∈ declarations, declaration.IsTarget →
        ∃ selected, compileSource missingSource (some declaration.name) = .ok selected := by
  have extracts : (extractDeclarations missingSource).isOk = true := by decide +kernel
  have compiles : List.map Compiled.name <$> compileSource missingSource none =
      .ok ["Person", "Missing", "Missing"] := by decide +kernel
  obtain ⟨declarations, extracted⟩ := exists_of_isOk extracts
  obtain ⟨compiled, done, names⟩ := map_eq_ok.mp compiles
  obtain ⟨selects, every⟩ := compileSource_selects extracted
  have hasNames : (named "Missing" compiled).map Compiled.name = ["Missing", "Missing"] := by
    rw [map_name_named, names]
    rfl
  have hasNot : (named "Gone" compiled).map Compiled.name = [] := by
    rw [map_name_named, names]
    rfl
  have selected := (selects compiled done "Missing").1 fun empty => by
    rw [empty] at hasNames
    cases hasNames
  have unknown := (selects compiled done "Gone").2.1.mp (List.map_eq_nil_iff.mp hasNot)
  exact ⟨declarations, compiled, extracted, done, names, selected, unknown,
    every.mp ⟨compiled, done⟩⟩

end OpenResponse
