import OpenResponse.Compilation.Source
import OpenResponse.Proofs.Compilation.Memory
import OpenResponse.Proofs.Outcome
import OpenResponse.Proofs.Response.Sequence

/-!
# Lists of responses that refer to a source

A list of responses and the declarations of a source are compiled on two ways that share the
look-ups.  Here they are shown to agree: what the list takes from a declaration is what compiling
the source gives for that declaration, and nothing else can go wrong than that a name is not there
or that a schema cannot be built.

A compilation remembers, and compiling a source and compiling a list remember different things.
Since no look-up depends on what is remembered, both are first rewritten as functions without
memory.  Then a list is followed entry by entry: the call for an entry is made from the
declarations, running it adds members to the map, and the members are what the source was compiled
to under the name in the entry.  From the law of one entry the law of a list follows by induction
from the left.

## Main definitions

* `Provides` — what a compiled source gives under a name
* `Gives`, `CompiledFrom` — compiled responses that come from declarations
* `ResponseEntry.Available` — entries that can be compiled
* `ResponseEntry.Contributes` — what an entry adds to the map of responses

## Main statements

* `CompiledFrom.of_compileDeclarations` — what compiling declarations gives
* `Gives.provides` — what is looked up is what is compiled
* `contributes_of_entryCall`, `contributes_of_foldlM` — the law of one entry, and of all
* `compileResponses_agrees` — **lists agree with the declarations they refer to**

## Hypotheses

The source has to compile, or there would be nothing to compare with; and its declarations have to
have different names.  With equal names the last one that derives a trait is what is looked up,
while the compiled source has all of them.

`Available` says what an entry needs in terms of declarations and schemas, without compiling
anything.  Every tuple of a list that is read has a status, so no entry is ignored for want of one.
-/

namespace OpenResponse

open Compilation Ordered

/-! ### Steps of a compilation, run from the beginning

A settled step ends in the same way in every coherent state, so its outcome may be computed without
one. -/

namespace Settled

variable {declarations : List Declaration} {α β : Type}

/-- A settled step ends as it is settled to, when it is run from the beginning. -/
theorem complete {step : Compilation α} {outcome : Except Fault α}
    (settled : Settled declarations step outcome) : step.complete = outcome := by
  obtain ⟨later, -, ended⟩ := settled .initial (.initial declarations)
  have ran : step.run .initial = endIn outcome later := ended
  rw [Compilation.complete, ran]
  cases outcome <;> rfl

private theorem mapM {step : α → Compilation β} {outcome : α → Except Fault β}
    (settled : ∀ input, Settled declarations (step input) (outcome input)) (inputs : List α) :
    Settled declarations (inputs.mapM step) (inputs.mapM outcome) := by
  induction inputs with
  | nil => exact pure
  | cons input inputs ih =>
    rw [List.mapM_cons, List.mapM_cons]
    exact (settled input).bind fun _ => ih.bind fun _ => pure

end Settled

/-- One compiled response, or none where nothing is derived. -/
def whenDerived {m : Type → Type} [Monad m] (derived : Bool) (step : m Compiled) :
    m (List Compiled) :=
  if derived then (fun one => [one]) <$> step else pure []

/-- Everything that a declaration derives, when nothing is remembered. -/
def Declaration.derived (declarations : List Declaration) (declaration : Declaration) :
    Except Fault (List Compiled) := do
  let first ← whenDerived (declaration.has .toResponse) (declaration.toResponse declarations)
  let second ← whenDerived (declaration.has .intoResponses) (declaration.intoResponses declarations)
  return first ++ second

namespace Settled

variable {declarations : List Declaration}

private theorem whenDerived (derived : Bool) {step : Compilation Compiled}
    {outcome : Except Fault Compiled} (settled : Settled declarations step outcome) :
    Settled declarations (whenDerived derived step) (whenDerived derived outcome) := by
  cases derived with
  | false => exact pure
  | true => exact settled.map _

private theorem compileDeclaration (declaration : Declaration) :
    Settled declarations (compileDeclaration declarations declaration)
      (declaration.derived declarations) := by
  have inOrder : OpenResponse.compileDeclaration declarations declaration = (do
      let first ← OpenResponse.whenDerived (declaration.has .toResponse)
        (OpenResponse.compileToResponse declarations declaration)
      let second ← OpenResponse.whenDerived (declaration.has .intoResponses)
        (OpenResponse.compileIntoResponses declarations declaration)
      return first ++ second) := by
    rw [OpenResponse.compileDeclaration]
    cases declaration.has .toResponse <;> cases declaration.has .intoResponses <;>
      simp [OpenResponse.whenDerived]
  rw [inOrder]
  exact (whenDerived _ (compileToResponse declaration)).bind fun _ =>
    (whenDerived _ (compileIntoResponses declaration)).bind fun _ => pure

/-- A list of responses is compiled from what the declarations give. -/
theorem compileEntries_eq (entries : List ResponseEntry) :
    compileEntries declarations entries = (do
      let chain ← emitResponses declarations entries
      let object ←
        OpenResponse.responsesObject (lookUp declarations) (lookUpList declarations) chain
      return ⟨"responses", .responses, chain, object⟩) :=
  complete ((outcome _).bind fun chain => (responsesObject expand chain).bind fun _ => pure)

/-- Declarations are compiled from what each of them derives. -/
theorem compileEach_eq (targets : List Declaration) :
    (Compilation.complete do
      return (← targets.mapM (OpenResponse.compileDeclaration declarations)).flatten) = (do
        return (← targets.mapM (Declaration.derived declarations)).flatten) :=
  complete ((mapM compileDeclaration _).bind fun _ => pure)

/-- Without a name all declarations that derive a trait are compiled, one after the other. -/
theorem compileDeclarations_eq :
    compileDeclarations declarations none = (do
      return (← (declarations.filter fun declaration =>
        declaration.has .toResponse || declaration.has .intoResponses).mapM
          (Declaration.derived declarations)).flatten) :=
  compileEach_eq _

end Settled

/-! ### What compiling declarations gives

A source is compiled to a list, in which each compiled response has a name and the trait that it is
for.  `Provides` reads the list as a map from these two. -/

/-- Some declaration with a name derives a trait. -/
def Derives (declarations : List Declaration) (derive : Derive) (name : String) : Prop :=
  ∃ declaration ∈ declarations, declaration.name = name ∧ declaration.has derive = true

/-- What is compiled for a trait under a name is one document. -/
def Provides (compiled : List Compiled) (derive : Derive) (name : String) (document : Document) :
    Prop :=
  (∃ one ∈ compiled, one.derive = derive ∧ one.name = name) ∧
    ∀ one ∈ compiled, one.derive = derive → one.name = name → one.openapi = document

/-- What is compiled for a trait comes from the declarations that derive it, and from each of them
under its name. -/
structure Gives (declarations : List Declaration) (compiled : List Compiled) (derive : Derive)
    (compile : Declaration → Except Fault Compiled) : Prop where
  complete : ∀ declaration ∈ declarations, declaration.has derive = true →
    ∃ one ∈ compiled, compile declaration = .ok one
  origin : ∀ one ∈ compiled, one.derive = derive →
    ∃ declaration ∈ declarations, compile declaration = .ok one
  named : ∀ {declaration one}, compile declaration = .ok one →
    one.name = declaration.name ∧ one.derive = derive

/-- The compiled responses of a source: those of every declaration that derives a trait, and no
others. -/
structure CompiledFrom (declarations : List Declaration) (compiled : List Compiled) : Prop where
  toResponse : Gives declarations compiled .toResponse (Declaration.toResponse declarations)
  intoResponses :
    Gives declarations compiled .intoResponses (Declaration.intoResponses declarations)

section Compiled

variable {declarations : List Declaration} {declaration : Declaration} {compiled : List Compiled}

private theorem whenDerived_eq_ok
    {derived : Bool} {step : Except Fault Compiled} {list : List Compiled}
    (done : whenDerived derived step = .ok list) :
    (derived = true → ∃ one ∈ list, step = .ok one) ∧ ∀ one ∈ list, step = .ok one := by
  cases derived with
  | false =>
    cases done
    refine ⟨fun never => ?_, fun one listed => ?_⟩
    · cases never
    · cases listed
  | true =>
    obtain ⟨one, made, rfl⟩ := map_eq_ok.mp done
    refine ⟨fun _ => ⟨one, List.mem_singleton_self one, made⟩, fun other listed => ?_⟩
    rw [List.mem_singleton.mp listed]
    exact made

/-- What a declaration derives. -/
theorem Declaration.derived_eq_ok {list : List Compiled}
    (done : declaration.derived declarations = .ok list) :
    (declaration.has .toResponse = true →
      ∃ one ∈ list, declaration.toResponse declarations = .ok one) ∧
    (declaration.has .intoResponses = true →
      ∃ one ∈ list, declaration.intoResponses declarations = .ok one) ∧
    ∀ one ∈ list, declaration.toResponse declarations = .ok one ∨
      declaration.intoResponses declarations = .ok one := by
  obtain ⟨first, firstDone, done⟩ := outcome_bind_eq_ok.mp done
  obtain ⟨second, secondDone, same⟩ := outcome_bind_eq_ok.mp done
  cases same
  obtain ⟨firstThere, firstMade⟩ := whenDerived_eq_ok firstDone
  obtain ⟨secondThere, secondMade⟩ := whenDerived_eq_ok secondDone
  refine ⟨fun has => ?_, fun has => ?_, fun one listed => ?_⟩
  · obtain ⟨one, listed, made⟩ := firstThere has
    exact ⟨one, List.mem_append_left _ listed, made⟩
  · obtain ⟨one, listed, made⟩ := secondThere has
    exact ⟨one, List.mem_append_right _ listed, made⟩
  · rcases List.mem_append.mp listed with inFirst | inSecond
    · exact .inl (firstMade one inFirst)
    · exact .inr (secondMade one inSecond)

/-- What is compiled of a declaration that is a response has its name. -/
theorem Declaration.toResponse_named {one : Compiled}
    (made : declaration.toResponse declarations = .ok one) :
    one.name = declaration.name ∧ one.derive = .toResponse := by
  obtain ⟨chain, -, made⟩ := outcome_bind_eq_ok.mp made
  obtain ⟨document, -, rfl⟩ := map_eq_ok.mp made
  exact ⟨rfl, rfl⟩

/-- A declaration that lists responses is compiled to a map. -/
theorem Declaration.intoResponses_eq_ok {one : Compiled}
    (made : declaration.intoResponses declarations = .ok one) :
    (one.name = declaration.name ∧ one.derive = .intoResponses) ∧
      ∃ members, one.openapi = .object members := by
  obtain ⟨descriptors, -, made⟩ := outcome_bind_eq_ok.mp made
  obtain ⟨chain, -, made⟩ := outcome_bind_eq_ok.mp made
  obtain ⟨document, object, made⟩ := outcome_bind_eq_ok.mp made
  obtain ⟨members, -, same⟩ := outcome_bind_eq_ok.mp object
  cases same
  cases made
  exact ⟨⟨rfl, rfl⟩, members, rfl⟩

/-- Compiling all declarations compiles what each of them derives.  What is kept between look-ups
plays no part any more, as every step is settled. -/
theorem CompiledFrom.of_compileDeclarations
    (done : compileDeclarations declarations none = .ok compiled) :
    CompiledFrom declarations compiled := by
  rw [Settled.compileDeclarations_eq] at done
  obtain ⟨lists, made, same⟩ := outcome_bind_eq_ok.mp done
  cases same
  obtain ⟨listOf, declarationOf⟩ := mem_of_forall₂ (mapM_eq_ok.mp made)
  have candidate {declaration : Declaration} (declared : declaration ∈ declarations)
      (derives : (declaration.has .toResponse || declaration.has .intoResponses) = true) :
      ∃ list ∈ lists, declaration.derived declarations = .ok list :=
    listOf declaration (List.mem_filter.mpr ⟨declared, derives⟩)
  have origin (one : Compiled) (compiled : one ∈ lists.flatten) :
      ∃ declaration ∈ declarations, declaration.toResponse declarations = .ok one ∨
        declaration.intoResponses declarations = .ok one := by
    obtain ⟨list, listed, inList⟩ := List.mem_flatten.mp compiled
    obtain ⟨declaration, declared, derived⟩ := declarationOf list listed
    exact ⟨declaration, (List.mem_filter.mp declared).1,
      (Declaration.derived_eq_ok derived).2.2 one inList⟩
  -- the outcomes of the two ways to compile a declaration are told apart by what they derive
  refine ⟨⟨?_, ?_, Declaration.toResponse_named⟩,
    ⟨?_, ?_, fun made => (Declaration.intoResponses_eq_ok made).1⟩⟩
  · intro declaration declared has
    obtain ⟨list, listed, derived⟩ := candidate declared (by rw [has, Bool.true_or])
    obtain ⟨one, inList, made⟩ := (Declaration.derived_eq_ok derived).1 has
    exact ⟨one, List.mem_flatten.mpr ⟨list, listed, inList⟩, made⟩
  · intro one compiled derive
    obtain ⟨declaration, declared, made | made⟩ := origin one compiled
    · exact ⟨declaration, declared, made⟩
    · cases (Declaration.intoResponses_eq_ok made).1.2.symm.trans derive
  · intro declaration declared has
    obtain ⟨list, listed, derived⟩ := candidate declared (by rw [has, Bool.or_true])
    obtain ⟨one, inList, made⟩ := (Declaration.derived_eq_ok derived).2.1 has
    exact ⟨one, List.mem_flatten.mpr ⟨list, listed, inList⟩, made⟩
  · intro one compiled derive
    obtain ⟨declaration, declared, made | made⟩ := origin one compiled
    · cases (Declaration.toResponse_named made).2.symm.trans derive
    · exact ⟨declaration, declared, made⟩

end Compiled

/-! ### Look-ups

With different names, what is found under a name is the only declaration with that name. -/

section LookUps

variable {declarations : List Declaration} {derive : Derive} {name : String}

/-- A declaration is found under a name that one has. -/
theorem exists_findDeriving (derives : Derives declarations derive name) :
    ∃ declaration, findDeriving declarations derive name = some declaration := by
  obtain ⟨declaration, declared, named, has⟩ := derives
  refine Option.isSome_iff_exists.mp (List.find?_isSome.mpr ⟨declaration, ?_, beq_iff_eq.mpr named⟩)
  exact List.mem_reverse.mpr (List.mem_filter.mpr ⟨declared, has⟩)

end LookUps

namespace Gives

variable {declarations : List Declaration} {compiled : List Compiled} {derive : Derive}
  {compile : Declaration → Except Fault Compiled} {name : String}
  (gives : Gives declarations compiled derive compile)

include gives

/-- Among declarations with different names only the one that is found under a name can have
compiled to something of that name. -/
theorem provides (distinct : (declarations.map Declaration.name).Nodup)
    {declaration : Declaration} {document : Document}
    (found : findDeriving declarations derive name = some declaration)
    (looked : Compiled.openapi <$> compile declaration = .ok document) :
    Derives declarations derive name ∧ Provides compiled derive name document := by
  obtain ⟨declared, rfl, has⟩ := findDeriving_eq_some found
  obtain ⟨one, listed, made⟩ := gives.complete declaration declared has
  obtain ⟨named, derived⟩ := gives.named made
  rw [made] at looked
  cases looked
  refine ⟨⟨declaration, declared, rfl, has⟩, ⟨one, listed, derived, named⟩, ?_⟩
  intro other otherListed otherDerived sameName
  obtain ⟨source, sourceDeclared, otherMade⟩ := gives.origin other otherListed otherDerived
  have sourceNamed : source.name = declaration.name :=
    (gives.named otherMade).1.symm.trans sameName
  have same : source = declaration :=
    List.inj_on_of_nodup_map distinct sourceDeclared declared sourceNamed
  rw [same, made] at otherMade
  rw [Except.ok.inj otherMade]

/-- What is found under a name is compiled. -/
theorem exists_found (derives : Derives declarations derive name) :
    ∃ declaration one, findDeriving declarations derive name = some declaration ∧
      compile declaration = .ok one := by
  obtain ⟨declaration, found⟩ := exists_findDeriving derives
  obtain ⟨declared, -, has⟩ := findDeriving_eq_some found
  obtain ⟨one, -, made⟩ := gives.complete declaration declared has
  exact ⟨declaration, one, found, made⟩

end Gives

namespace CompiledFrom

variable {declarations : List Declaration} {compiled : List Compiled} {name : String}
  (sourced : CompiledFrom declarations compiled)

include sourced

/-- A response that is looked up is what is compiled for its name. -/
theorem provides_lookUp (distinct : (declarations.map Declaration.name).Nodup)
    {document : Document} (looked : lookUp declarations name = .ok document) :
    Derives declarations .toResponse name ∧ Provides compiled .toResponse name document := by
  rw [lookUp] at looked
  split at looked
  · cases looked
  next declaration found =>
    rw [← Settled.toResponse_openapi] at looked
    exact sourced.toResponse.provides distinct found looked

private theorem exists_lookUp (derives : Derives declarations .toResponse name) :
    ∃ document, lookUp declarations name = .ok document := by
  obtain ⟨declaration, one, found, made⟩ := sourced.toResponse.exists_found derives
  rw [lookUp, found]
  dsimp only
  rw [← Settled.toResponse_openapi, made]
  exact ⟨one.openapi, rfl⟩

/-- A list that is looked up is the map that is compiled for its name. -/
theorem provides_lookUpList (distinct : (declarations.map Declaration.name).Nodup)
    {path : String} {document : Document} (looked : lookUpList declarations path = .ok document) :
    Derives declarations .intoResponses (lastSegment path) ∧
      ∃ members, document = .object members ∧
        Provides compiled .intoResponses (lastSegment path) (.object members) := by
  rw [lookUpList] at looked
  split at looked
  · cases looked
  next declaration found =>
    obtain ⟨derives, provides⟩ := sourced.intoResponses.provides distinct found looked
    obtain ⟨one, made, rfl⟩ := map_eq_ok.mp looked
    obtain ⟨-, members, object⟩ := Declaration.intoResponses_eq_ok made
    rw [object] at provides
    exact ⟨derives, members, object, provides⟩

private theorem exists_lookUpList {path : String}
    (derives : Derives declarations .intoResponses (lastSegment path)) :
    ∃ document, lookUpList declarations path = .ok document := by
  obtain ⟨declaration, one, found, made⟩ := sourced.intoResponses.exists_found derives
  rw [lookUpList, found]
  dsimp only
  rw [made]
  exact ⟨one.openapi, rfl⟩

end CompiledFrom

/-! ### Schemas

A response has an object exactly if all schemas that it needs can be built, and these are listed. -/

namespace ResponseValue

variable (known : List Declaration) (value : ResponseValue)

/-- The bodies that a response needs: those of its content, or its own where it has no content. -/
def bodies : List Body :=
  match value.content with
  | [] => value.body.toList
  | variants => variants.map ContentVariant.body

/-- The schemas that a response needs: those of its bodies and those of its headers. -/
def schemas : List (Except Fault Document) :=
  value.bodies.map (Body.schemaDocument known) ++ value.headers.map (Header.schemaDocument known)

/-- All schemas that a response needs can be built. -/
def Buildable : Prop := ∀ schema ∈ value.schemas known, ∃ document, schema = .ok document

private theorem exists_contentEntries_iff :
    (∃ entries, value.contentEntries known = .ok entries) ↔
      ∀ body ∈ value.bodies, ∃ document, body.schemaDocument known = .ok document := by
  have variants (list : List ContentVariant) :
      (∃ entries, list.mapM (ContentVariant.entry known) = .ok entries) ↔
        ∀ body ∈ list.map ContentVariant.body,
          ∃ document, body.schemaDocument known = .ok document := by
    rw [exists_mapM_eq_ok, List.forall_mem_map]
    exact forall₂_congr fun _ _ => exists_bind_pure_eq_ok
  rw [contentEntries, bodies]
  -- the body counts only where no content variant is given
  rcases value.content with _ | ⟨variant, rest⟩ <;> rcases value.body with _ | body
  · simp
  · simp only [Option.toList_some, List.mem_singleton, forall_eq]
    exact exists_bind_pure_eq_ok
  · exact variants (variant :: rest)
  · exact variants (variant :: rest)

private theorem exists_headerEntries_iff :
    (∃ entries, value.headerEntries known = .ok entries) ↔
      ∀ header ∈ value.headers, ∃ document, header.schemaDocument known = .ok document := by
  rw [headerEntries, exists_mapM_eq_ok]
  exact forall₂_congr fun _ _ => exists_bind_pure_eq_ok

/-- A response has an object if its schemas can be built. -/
theorem exists_object_iff :
    (∃ object, value.object known = .ok object) ↔ value.Buildable known := by
  rw [Buildable, schemas, List.forall_mem_append, List.forall_mem_map, List.forall_mem_map,
    ← exists_contentEntries_iff, ← exists_headerEntries_iff, object]
  constructor
  · rintro ⟨object, done⟩
    obtain ⟨content, contentDone, done⟩ := outcome_bind_eq_ok.mp done
    obtain ⟨headers, headersDone, -⟩ := outcome_bind_eq_ok.mp done
    exact ⟨⟨content, contentDone⟩, headers, headersDone⟩
  · rintro ⟨⟨content, contentDone⟩, headers, headersDone⟩
    rw [contentDone, headersDone]
    exact ⟨_, rfl⟩

end ResponseValue

/-! ### Entries

The two directions are separate here.  If an entry was compiled, it had what it needs and added what
it should; and if it has what it needs, it is compiled. -/

namespace Response

/-- Everything that a response of a list needs is there: the declaration that it inlines, or the
schemas of its value. -/
def Available (declarations : List Declaration) : Response → Prop
  | .reference ⟨type, true⟩ => Derives declarations .toResponse type.name
  | .reference ⟨_, false⟩ => True
  | .value said => said.Buildable declarations

/-- The object of a response of a list: what is compiled for the declaration that it inlines, a
reference, or the object of its value. -/
def HasObject (declarations : List Declaration) (compiled : List Compiled) :
    Response → Document → Prop
  | .reference ⟨type, true⟩, object => Provides compiled .toResponse type.name object
  | .reference ⟨type, false⟩, object =>
    object = .object [("$ref", .string ("#/components/responses/" ++ type.name))]
  | .value said, object => said.object declarations = .ok object

end Response

namespace ResponseEntry

/-- Everything that an entry needs is there: what its response needs, or the declaration that lists
the responses that it stands for. -/
def Available (declarations : List Declaration) : ResponseEntry → Prop
  | .allOf path => Derives declarations .intoResponses (lastSegment path)
  | .single descriptor => descriptor.response.Available declarations

/-- What an entry adds to the map of responses: its response under its status, or what is compiled
for the declaration that it names. -/
def Contributes (declarations : List Declaration) (compiled : List Compiled) :
    ResponseEntry → Members → Prop
  | .allOf path, members => Provides compiled .intoResponses (lastSegment path) (.object members)
  | .single descriptor, members => ∃ status object, descriptor.status = some status ∧
    descriptor.response.HasObject declarations compiled object ∧ members = [(status, object)]

end ResponseEntry

section Laws

variable {declarations : List Declaration} {compiled : List Compiled}
  (sourced : CompiledFrom declarations compiled)

include sourced

/-- The law of one response. -/
theorem hasObject_of_emitResponse (distinct : (declarations.map Declaration.name).Nodup)
    {response : Response} {chain : Chain} {object : Document}
    (emitted : emitResponse declarations response = .ok chain)
    (interpreted : responseObject (lookUp declarations) chain = .ok object) :
    response.Available declarations ∧ response.HasObject declarations compiled object := by
  rcases response with ⟨type, _ | _⟩ | said
  · cases emitted
    cases interpreted
    exact ⟨trivial, rfl⟩
  · cases emitted
    exact sourced.provides_lookUp distinct interpreted
  · have emitted : emitValue declarations said = .ok chain := emitted
    have meaning := responseObject_emitValue declarations (lookUp declarations) said
    rw [emitted] at meaning
    obtain ⟨document, built, same⟩ := map_eq_ok.mp meaning.symm
    cases same.trans interpreted
    exact ⟨(said.exists_object_iff declarations).mp ⟨object, built⟩, built⟩

/-- A response that has everything it needs is compiled. -/
theorem exists_of_available {response : Response} (available : response.Available declarations) :
    ∃ chain object, emitResponse declarations response = .ok chain ∧
      responseObject (lookUp declarations) chain = .ok object := by
  rcases response with ⟨type, _ | _⟩ | said
  · exact ⟨_, _, rfl, rfl⟩
  · obtain ⟨object, looked⟩ := sourced.exists_lookUp available
    exact ⟨_, object, rfl, looked⟩
  · obtain ⟨object, built⟩ := (said.exists_object_iff declarations).mpr available
    have meaning := responseObject_emitValue declarations (lookUp declarations) said
    rw [built] at meaning
    obtain ⟨chain, emitted, interpreted⟩ := map_eq_ok.mp meaning
    exact ⟨chain, object, emitted, interpreted⟩

/-- The law of one entry: its call adds what it contributes, and needs everything to be there. -/
theorem contributes_of_entryCall (distinct : (declarations.map Declaration.name).Nodup)
    {entry : ResponseEntry} (given : ∀ descriptor, entry = .single descriptor →
      descriptor.status.isSome = true)
    {call : Instruction} (called : entryCall declarations entry = .ok call)
    {members later : Members}
    (added : responsesMember (lookUp declarations) (lookUpList declarations) members call =
      .ok later) :
    entry.Available declarations ∧
      ∃ more, entry.Contributes declarations compiled more ∧ later = update members more := by
  cases entry with
  | allOf path =>
    cases called
    obtain ⟨document, looked, same⟩ := outcome_bind_eq_ok.mp added
    cases same
    obtain ⟨derives, more, rfl, provides⟩ := sourced.provides_lookUpList distinct looked
    exact ⟨derives, more, provides, rfl⟩
  | single descriptor =>
    obtain ⟨status, response⟩ := descriptor
    obtain ⟨chain, emitted, same⟩ := outcome_bind_eq_ok.mp called
    cases same
    obtain ⟨status, rfl⟩ := Option.isSome_iff_exists.mp (given _ rfl)
    obtain ⟨object, interpreted, same⟩ := outcome_bind_eq_ok.mp added
    cases same
    obtain ⟨available, has⟩ := hasObject_of_emitResponse sourced distinct emitted interpreted
    exact ⟨available, [(status, object)], ⟨status, object, rfl, has, rfl⟩, rfl⟩

/-- An entry that has everything it needs is called and adds something. -/
theorem exists_entryCall {entry : ResponseEntry} (available : entry.Available declarations) :
    ∃ call, entryCall declarations entry = .ok call ∧ ∀ members, ∃ later,
      responsesMember (lookUp declarations) (lookUpList declarations) members call = .ok later := by
  cases entry with
  | allOf path =>
    obtain ⟨document, looked⟩ := sourced.exists_lookUpList available
    refine ⟨_, rfl, fun members => ⟨update members document.members, ?_⟩⟩
    exact outcome_bind_eq_ok.mpr ⟨document, looked, rfl⟩
  | single descriptor =>
    obtain ⟨status, response⟩ := descriptor
    obtain ⟨chain, object, emitted, interpreted⟩ := exists_of_available sourced available
    refine ⟨_, outcome_bind_eq_ok.mpr ⟨chain, emitted, rfl⟩, fun members => ?_⟩
    cases status with
    | none => exact ⟨members, rfl⟩
    | some status =>
      exact ⟨assign members status object, outcome_bind_eq_ok.mpr ⟨object, interpreted, rfl⟩⟩

/-- The law of all entries: their calls add what they contribute from left to right.  By induction
on the calls, for any map to begin with.  An entry that has been called is available, which is the
first half. -/
theorem contributes_of_foldlM (distinct : (declarations.map Declaration.name).Nodup)
    {entries : List ResponseEntry}
    (given : ∀ entry ∈ entries, ∀ descriptor, entry = .single descriptor →
      descriptor.status.isSome = true)
    {calls : Chain} (called : entries.mapM (entryCall declarations) = .ok calls)
    {members final : Members}
    (added : calls.foldlM (responsesMember (lookUp declarations) (lookUpList declarations))
      members = .ok final) :
    (∀ entry ∈ entries, entry.Available declarations) ∧ ∃ contributions,
      List.Forall₂ (ResponseEntry.Contributes declarations compiled) entries contributions ∧
        final = contributions.foldl update members := by
  rw [mapM_eq_ok] at called
  induction called generalizing members with
  | nil =>
    cases added
    exact ⟨fun entry listed => (List.not_mem_nil listed).elim, [], .nil, rfl⟩
  | @cons entry call entries calls first _ ih =>
    obtain ⟨entryGiven, othersGiven⟩ := List.forall_mem_cons.mp given
    obtain ⟨later, entryAdded, othersAdded⟩ := outcome_bind_eq_ok.mp added
    obtain ⟨available, more, contributes, rfl⟩ :=
      contributes_of_entryCall sourced distinct entryGiven first entryAdded
    obtain ⟨othersAvailable, contributions, others, rfl⟩ := ih othersGiven othersAdded
    exact ⟨List.forall_mem_cons.mpr ⟨available, othersAvailable⟩, more :: contributions,
      .cons contributes others, rfl⟩

/-- Entries that have everything they need are compiled. -/
theorem exists_foldlM {entries : List ResponseEntry}
    (available : ∀ entry ∈ entries, entry.Available declarations) (members : Members) :
    ∃ calls final, entries.mapM (entryCall declarations) = .ok calls ∧
      calls.foldlM (responsesMember (lookUp declarations) (lookUpList declarations)) members =
        .ok final := by
  induction entries generalizing members with
  | nil => exact ⟨[], members, rfl, rfl⟩
  | cons entry entries ih =>
    obtain ⟨entryAvailable, othersAvailable⟩ := List.forall_mem_cons.mp available
    obtain ⟨call, called, adds⟩ := exists_entryCall sourced entryAvailable
    obtain ⟨later, added⟩ := adds members
    obtain ⟨calls, final, othersCalled, othersAdded⟩ := ih othersAvailable later
    refine ⟨call :: calls, final, ?_, ?_⟩
    · exact mapM_eq_ok.mpr (.cons called (mapM_eq_ok.mp othersCalled))
    · rw [List.foldlM_cons]
      exact outcome_bind_eq_ok.mpr ⟨later, added, othersAdded⟩

end Laws

/-! ### Lists of responses

The opening and the closing call add nothing. -/

/-- Only the calls between the opening and the closing one add to a map of responses. -/
theorem responsesObject_calls {m : Type → Type} [Monad m] [LawfulMonad m] [MonadExcept Fault m]
    (resolve expand : String → m Document) (calls : Chain) :
    responsesObject resolve expand ([.new] ++ calls ++ [.build]) =
      Document.object <$> calls.foldlM (responsesMember resolve expand) [] := by
  have opening (members : Members) : responsesMember resolve expand members .new = pure members :=
    rfl
  have closing (members : Members) :
      responsesMember resolve expand members .build = pure members := rfl
  rw [responsesObject, List.foldlM_append, List.foldlM_append]
  simp only [List.foldlM_cons, List.foldlM_nil, opening, closing, pure_bind, bind_pure,
    map_eq_pure_bind]

/-- A list of responses is compiled entry by entry: its calls stand between an opening and a closing
one, and its map is what they add to an empty one. -/
theorem compileEntries_calls {declarations : List Declaration} {entries : List ResponseEntry}
    {result : Compiled} :
    compileEntries declarations entries = .ok result ↔
      ∃ calls members, entries.mapM (entryCall declarations) = .ok calls ∧
        calls.foldlM (responsesMember (lookUp declarations) (lookUpList declarations)) [] =
          .ok members ∧
        result = ⟨"responses", .responses, [.new] ++ calls ++ [.build], .object members⟩ := by
  rw [Settled.compileEntries_eq]
  constructor
  · intro done
    obtain ⟨chain, emitted, done⟩ := outcome_bind_eq_ok.mp done
    obtain ⟨object, interpreted, same⟩ := outcome_bind_eq_ok.mp done
    obtain ⟨calls, called, whole⟩ := outcome_bind_eq_ok.mp emitted
    cases same
    cases whole
    rw [responsesObject_calls] at interpreted
    obtain ⟨members, added, rfl⟩ := map_eq_ok.mp interpreted
    exact ⟨calls, members, called, added, rfl⟩
  · rintro ⟨calls, members, called, added, rfl⟩
    have emitted : emitResponses declarations entries = .ok ([.new] ++ calls ++ [.build]) :=
      outcome_bind_eq_ok.mpr ⟨calls, called, rfl⟩
    have interpreted : responsesObject (lookUp declarations) (lookUpList declarations)
        ([.new] ++ calls ++ [.build]) = .ok (.object members) := by
      rw [responsesObject_calls]
      exact map_eq_ok.mpr ⟨members, added, rfl⟩
    exact outcome_bind_eq_ok.mpr ⟨_, emitted, outcome_bind_eq_ok.mpr ⟨_, interpreted, rfl⟩⟩

private theorem compileEntries_eq_ok
    {declarations : List Declaration} {entries : List ResponseEntry}
    {document : Document} :
    (∃ result, compileEntries declarations entries = .ok result ∧ result.openapi = document) ↔
      ∃ calls members, entries.mapM (entryCall declarations) = .ok calls ∧
        calls.foldlM (responsesMember (lookUp declarations) (lookUpList declarations)) [] =
          .ok members ∧ document = .object members := by
  constructor
  · rintro ⟨result, done, rfl⟩
    obtain ⟨calls, members, called, added, rfl⟩ := compileEntries_calls.mp done
    exact ⟨calls, members, called, added, rfl⟩
  · rintro ⟨calls, members, called, added, rfl⟩
    exact ⟨_, compileEntries_calls.mpr ⟨calls, members, called, added, rfl⟩, rfl⟩

/-! ### Reading lists of responses

This is where texts come in: what is read as a list has a status in every tuple. -/

/-- Every tuple of a list of responses has a status. -/
def AllGiven (entries : List ResponseEntry) : Prop :=
  ∀ entry ∈ entries, ∀ descriptor, entry = .single descriptor → descriptor.status.isSome = true

private theorem status_of_tupleForm {tokens : List Token} {descriptor : ResponseDescriptor}
    (written : tupleForm tokens descriptor) : descriptor.status.isSome = true := by
  obtain ⟨opening, back, -, -, written⟩ := Form.token_bind_iff.mp written
  obtain ⟨inner, ending, draft, -, -, ended⟩ := written
  obtain ⟨closing, nothing, -, -, -, given, rfl⟩ := Form.token_bind_iff.mp ended
  rw [TupleDraft.descriptor]
  cases draft.reference with
  | none => exact given
  | some type => exact given

/-- What is read as a list of responses has a status in every tuple. -/
theorem allGiven_of_readResponses {origin : Location} {text : String} {entries : List ResponseEntry}
    (read : readResponses origin text = .ok entries) : AllGiven entries := by
  obtain ⟨tokens, -, list⟩ := readResponses_eq_ok.mp read
  refine list.forall_mem fun tokens entry written => ?_
  rcases responseEntryForm_iff.mp written with ⟨descriptor, tuple, rfl⟩ | ⟨type, -, rfl⟩
  · rintro _ ⟨⟩
    exact status_of_tupleForm tuple
  · rintro _ ⟨⟩

/-- **Lists of responses agree with the declarations they refer to.**  Where a source compiles and
its declarations have different names, a list is compiled exactly if every response to be inlined
names a declaration that is a response, every path names a declaration that lists responses, and
every schema that is needed can be built.  Its map of responses is then the left-to-right merge of
what the entries contribute: a tuple its response under its status, a response to be inlined the
object that compiling the source gives for its declaration, and a path the map that compiling the
source gives for its declaration. -/
theorem compileResponses_agrees {source text : String} {declarations : List Declaration}
    {compiled : List Compiled} {entries : List ResponseEntry}
    (extracted : extractDeclarations source = .ok declarations)
    (distinct : (declarations.map Declaration.name).Nodup)
    (compiles : compileSource source none = .ok compiled)
    (read : readResponses .start text = .ok entries) :
    ((∃ result, compileResponses text (some source) = .ok result) ↔
      ∀ entry ∈ entries, entry.Available declarations) ∧
    ∀ result, compileResponses text (some source) = .ok result →
      ∃ contributions,
        List.Forall₂ (ResponseEntry.Contributes declarations compiled) entries contributions ∧
          result.openapi = .object (contributions.foldl update []) := by
  have sourced : CompiledFrom declarations compiled := by
    rw [compileSource, extracted] at compiles
    exact .of_compileDeclarations compiles
  have whole : compileResponses text (some source) = compileEntries declarations entries := by
    rw [compileResponses, extracted, read]
    rfl
  have given := allGiven_of_readResponses read
  -- a compiled list has run all its calls
  have run (result : Compiled) (done : compileEntries declarations entries = .ok result) :
      (∀ entry ∈ entries, entry.Available declarations) ∧ ∃ contributions,
        List.Forall₂ (ResponseEntry.Contributes declarations compiled) entries contributions ∧
          result.openapi = .object (contributions.foldl update []) := by
    obtain ⟨calls, members, called, added, openapi⟩ := compileEntries_eq_ok.mp ⟨result, done, rfl⟩
    obtain ⟨available, contributions, contribute, rfl⟩ :=
      contributes_of_foldlM sourced distinct given called added
    exact ⟨available, contributions, contribute, openapi⟩
  rw [whole]
  refine ⟨⟨fun ⟨result, done⟩ => (run result done).1, fun available => ?_⟩,
    fun result done => (run result done).2⟩
  obtain ⟨calls, members, called, added⟩ := exists_foldlM sourced available []
  obtain ⟨result, done, -⟩ := compileEntries_eq_ok.mpr ⟨calls, members, called, added, rfl⟩
  exact ⟨result, done⟩

/-- A response, and a list of responses that inlines it. -/
def personSource : String :=
  "/// A person\n#[derive(ToResponse)]\nstruct Person(String);\n" ++
    "#[derive(IntoResponses)]\n#[response(status = 404)]\nstruct Missing(#[to_response] Person);\n"

/-- A list whose first two entries have the same status. -/
def personList : String :=
  "(status = 404, response = Person), api::Missing, (status = \"4XX\", response = inline(Person))"

/-- A status that is given twice, once by a declaration. -/
theorem compileResponses_agrees_person :
    ∃ declarations compiled entries, extractDeclarations personSource = .ok declarations ∧
      (declarations.map Declaration.name).Nodup ∧ compileSource personSource none = .ok compiled ∧
      readResponses .start personList = .ok entries ∧
      ((∃ result, compileResponses personList (some personSource) = .ok result) ↔
        ∀ entry ∈ entries, entry.Available declarations) ∧
      ∀ result, compileResponses personList (some personSource) = .ok result →
        ∃ contributions,
          List.Forall₂ (ResponseEntry.Contributes declarations compiled) entries contributions ∧
            result.openapi = .object (contributions.foldl update []) := by
  have names : List.map Declaration.name <$> extractDeclarations personSource =
      .ok ["Person", "Missing"] := by decide +kernel
  have compiles : (compileSource personSource none).isOk = true := by decide +kernel
  have read : (readResponses .start personList).isOk = true := by decide +kernel
  obtain ⟨declarations, extracted, named⟩ := map_eq_ok.mp names
  obtain ⟨compiled, compiledAs⟩ := exists_of_isOk compiles
  obtain ⟨entries, readAs⟩ := exists_of_isOk read
  have distinct : (declarations.map Declaration.name).Nodup := by
    rw [named]
    decide
  exact ⟨declarations, compiled, entries, extracted, distinct, compiledAs, readAs,
    compileResponses_agrees extracted distinct compiledAs readAs⟩

end OpenResponse
