import OpenResponse.Proofs.Compilation.Entries
import OpenResponse.Proofs.Source.Grouping
import OpenResponse.Proofs.Text.Segments
import OpenResponse.Proofs.TypeRef.Reading

/-!
# Type arguments of entries

An entry of a list of responses may be a type, which stands for the responses that its declaration
lists.  Which declaration that is, is told from the text of the type: what stands behind the last
separator is looked up.  The text of a type has its arguments in it, so with arguments the name that
is looked up ends in a bracket, and nothing is declared under such a name.

A response that is referred to is looked up by the last segment of its path and by nothing else.
There arguments, like the front of the path, make no difference.

So two facts about texts decide everything.  The text of a path without arguments is the path
itself; with arguments it ends in a bracket, and as no separator stands behind that bracket, the
bracket is in the last segment.  The names of declarations are words of a source, which hold no
brackets.

## Main definitions

* `ResponseEntry.RefersAlike` — entries that differ in how they write a response they refer to

## Main statements

* `findDeriving_eq_none_of_bracket` — nothing is declared under a name with a bracket
* `lookUpList_generic` — a type with arguments is never expanded
* `compileEntries_congr` — responses are referred to by their names
* `compileResponses_arguments` — **what arguments change**

## Hypotheses

The first part compares two lists of one entry each, with one source, of which the one without
arguments compiles.  It does not ask how the source looks, only that it can be read, and the two
paths have to have the same last segment and may differ in front of it.

The second part asks nothing of the source.  Two lists whose entries refer alike are compiled to the
same, failures included, since the call for a reference is made of the name alone.
-/

namespace OpenResponse

/-! ### Texts of types

Arguments may hold paths with separators, so it has to be shown that the last separator of the text
does not hide the bracket: whatever stands inside, the closing bracket is behind it. -/

namespace TypeRef

/-- The text of a path without arguments is the path. -/
theorem text_bare (path : String) : (TypeRef.path path []).text = path := by
  rw [text, chars, String.ofList_toList]

/-- The text of a path with arguments has a bracket in its last segment, whatever paths there are
among the arguments. -/
theorem bracket_mem_lastSegment (path : String) {args : List TypeRef} (generic : args ≠ []) :
    '>' ∈ (lastSegment (TypeRef.path path args).text).toList := by
  have ending : (TypeRef.path path args).text =
      String.ofList (path.toList ++ '<' :: argChars args ++ ['>']) := by
    rw [text, chars.eq_4 _ _ generic, List.append_assoc, List.cons_append]
  rw [ending, lastSegment_append _ (unseparated_of_not_mem (by decide)) (by decide),
    String.toList_ofList]
  exact List.mem_append_right _ (List.mem_singleton_self _)

end TypeRef

/-! ### Look-ups

Nothing is declared under a name that a source cannot write. -/

section LookUps

variable {source : String} {declarations : List Declaration}

/-- Nothing is declared under a name with a bracket.  Names of declarations are words, and no word
has a bracket in it; that the declarations come out of a source is what gives this. -/
theorem findDeriving_eq_none_of_bracket (extracted : extractDeclarations source = .ok declarations)
    (derive : Derive) {name : String} (bracket : '>' ∈ name.toList) :
    findDeriving declarations derive name = none := by
  refine Option.eq_none_iff_forall_ne_some.mpr fun declaration found => ?_
  obtain ⟨declared, rfl, -⟩ := findDeriving_eq_some found
  rcases Source.isWordText_name extracted declared '>' bracket with inWord | other | other
  · exact absurd inWord (by decide)
  · exact absurd other (by decide)
  · exact absurd other (by decide)

/-- A type with arguments is never expanded.  Its text ends in a bracket, and so does the last
segment that is looked up. -/
theorem lookUpList_generic (extracted : extractDeclarations source = .ok declarations)
    (path : String) {args : List TypeRef} (generic : args ≠ []) :
    lookUpList declarations (TypeRef.path path args).text =
      .error (.nowhere (.expandUnknown (TypeRef.path path args).text)) := by
  rw [lookUpList, findDeriving_eq_none_of_bracket extracted _
    (TypeRef.bracket_mem_lastSegment path generic)]

/-- A path is expanded to what its last segment is expanded to. -/
theorem lookUpList_eq_ok_congr {path other : String} (same : lastSegment path = lastSegment other)
    {document : Document} (looked : lookUpList declarations other = .ok document) :
    lookUpList declarations path = .ok document := by
  unfold lookUpList at looked ⊢
  rw [same]
  split at looked
  · cases looked
  · exact looked

end LookUps

/-! ### Compiling a single path

The chain of an entry shows the path as it was written, and only the responses are compared. -/

/-- The chain of a list of one path. -/
def expansionChain (path : String) : Chain :=
  [.new] ++ [.call "responses_from_into_responses" [.string path]] ++ [.build]

/-- A list of one path is compiled to the responses that are looked up for it. -/
theorem compileEntries_allOf (declarations : List Declaration) (path : String) :
    compileEntries declarations [.allOf path] = (do
      let document ← lookUpList declarations path
      return ⟨"responses", .responses, expansionChain path,
        .object (Ordered.update [] document.members)⟩) := by
  have emitted : emitResponses declarations [.allOf path] = .ok (expansionChain path) := rfl
  have added : responsesMember (lookUp declarations) (lookUpList declarations) []
      (.call "responses_from_into_responses" [.string path]) = (do
        return Ordered.update [] (← lookUpList declarations path).members) := rfl
  have object : responsesObject (lookUp declarations) (lookUpList declarations)
      (expansionChain path) = (do
        return .object (Ordered.update [] (← lookUpList declarations path).members)) := by
    rw [expansionChain, responsesObject_calls, List.foldlM_cons, added]
    cases lookUpList declarations path <;> rfl
  rw [Settled.compileEntries_eq, emitted]
  dsimp only [bind, Except.bind]
  rw [object]
  cases lookUpList declarations path <;> rfl

/-- A text is read as the type that it is the text of. -/
theorem readTypeRef_of_text {type : TypeRef} {text : String} (wellFormed : type.WellFormed)
    (shown : type.text = text) : readTypeRef .start text = .ok type :=
  shown ▸ readTypeRef_text wellFormed .start

/-- A text that is the path of a type is a list of one entry. -/
theorem readResponses_of_readTypeRef {origin : Location} {text path : String} {args : List TypeRef}
    (read : readTypeRef origin text = .ok (.path path args)) :
    readResponses origin text = .ok [.allOf (TypeRef.path path args).text] := by
  obtain ⟨tokens, scanned, written⟩ := readTypeRef_eq_ok.mp read
  refine readResponses_eq_ok.mpr ⟨tokens, scanned, .last (responseEntryForm_iff.mpr (.inr ?_))⟩
  refine ⟨_, ⟨written, fun first isFirst isOpen => ?_⟩, rfl⟩
  obtain ⟨_, back, rfl, -⟩ := TypeForm.cons written
  cases isFirst
  -- what begins with a parenthesis is no path
  rcases typeForm_cons_iff.mp written with
    ⟨other, -⟩ | ⟨other, -⟩ | ⟨-, closed⟩ | ⟨other | other, -⟩
  · simp [isOpen] at other
  · simp [isOpen] at other
  · obtain ⟨_, _, -, -, -, same⟩ := Form.token_bind_iff.mp closed
    cases same
  · simp [isOpen] at other
  · simp [isOpen] at other

/-- A text that is the path of a type is compiled as the entry of that type. -/
theorem compileResponses_of_readTypeRef {source text path : String} {args : List TypeRef}
    {declarations : List Declaration} (extracted : extractDeclarations source = .ok declarations)
    (read : readTypeRef .start text = .ok (.path path args)) :
    compileResponses text (some source) =
      compileEntries declarations [.allOf (TypeRef.path path args).text] := by
  rw [compileResponses, extracted, readResponses_of_readTypeRef read]
  rfl

/-! ### Referring to responses

Entries that refer alike have the same call. -/

namespace ResponseEntry

/-- What an entry refers to, if it is a response by reference: its status, the name of the response
and whether that is inlined. -/
def target? : ResponseEntry → Option (Option String × String × Bool)
  | .single ⟨status, .reference ⟨type, isInline⟩⟩ => some (status, type.name, isInline)
  | .single ⟨_, .value _⟩ | .allOf _ => none

/-- Entries that are the same, but for how they write the response that they refer to. -/
inductive RefersAlike (entry other : ResponseEntry) : Prop
  | same (isSame : entry = other)
  | reference {target : Option String × String × Bool} (refers : entry.target? = some target)
      (alsoRefers : other.target? = some target)

end ResponseEntry

section References

variable {declarations : List Declaration}

/-- The call for a response by reference is known from what is referred to. -/
theorem ResponseEntry.entryCall_of_target? {entry : ResponseEntry} {status : Option String}
    {name : String} {isInline : Bool} (refers : entry.target? = some (status, name, isInline)) :
    entryCall declarations entry = .ok (.call "response" [statusArgument status,
      .chain [.call (if isInline then "inline_response" else "ref_from_response_name")
        [.string name]]]) := by
  rcases entry with ⟨status, ⟨type, isInline⟩ | said⟩ | path
  · cases refers
    cases isInline <;> rfl
  · cases refers
  · cases refers

private theorem ResponseEntry.RefersAlike.entryCall_eq {entry other : ResponseEntry}
    (alike : entry.RefersAlike other) :
    entryCall declarations entry = entryCall declarations other := by
  cases alike with
  | same isSame => rw [isSame]
  | reference refers alsoRefers =>
    rw [ResponseEntry.entryCall_of_target? refers, ResponseEntry.entryCall_of_target? alsoRefers]

/-- Responses are referred to by their names.  Whatever is emitted for a reference is made from its
name alone, so arguments cannot be seen in it. -/
theorem compileEntries_congr {entries others : List ResponseEntry}
    (alike : List.Forall₂ ResponseEntry.RefersAlike entries others) :
    compileEntries declarations entries = compileEntries declarations others := by
  have calls : entries.mapM (entryCall declarations) = others.mapM (entryCall declarations) := by
    induction alike with
    | nil => rfl
    | cons first _ ih => rw [List.mapM_cons, List.mapM_cons, first.entryCall_eq, ih]
  rw [Settled.compileEntries_eq, Settled.compileEntries_eq, emitResponses, emitResponses, calls]

end References

/-- **What arguments change.**  Let a list that is the path of a type without arguments be compiled
with a source.  Then another path with the same last segment is compiled to the same responses, if
it has no arguments; if it has any, it is reported as a type that the source does not declare.  So
an entry stands for the same responses as its last segment exactly if it has no arguments.

Where a list refers to a response, inlined or not, the front of its path and its arguments make no
difference. -/
theorem compileResponses_arguments {source : String} :
    (∀ {text bare path other : String} {args : List TypeRef} {result : Compiled},
      readTypeRef .start bare = .ok (.path other []) →
      compileResponses bare (some source) = .ok result →
      readTypeRef .start text = .ok (.path path args) → lastSegment path = lastSegment other →
      (args = [] → ∃ expanded, compileResponses text (some source) = .ok expanded ∧
        expanded.openapi = result.openapi) ∧
      (args ≠ [] → compileResponses text (some source) =
        .error (.nowhere (.expandUnknown (TypeRef.path path args).text)))) ∧
    ∀ {text other : String} {entries others : List ResponseEntry},
      readResponses .start text = .ok entries → readResponses .start other = .ok others →
      List.Forall₂ ResponseEntry.RefersAlike entries others →
      compileResponses text (some source) = compileResponses other (some source) := by
  refine ⟨fun bareRead compiles read sameName => ?_, fun read otherRead alike => ?_⟩
  · -- the source can be read, for it was read for the path without arguments
    obtain ⟨declarations, extracted, -⟩ := outcome_bind_eq_ok.mp compiles
    rw [compileResponses_of_readTypeRef extracted bareRead, TypeRef.text_bare,
      compileEntries_allOf] at compiles
    obtain ⟨document, looked, same⟩ := outcome_bind_eq_ok.mp compiles
    cases same
    rw [compileResponses_of_readTypeRef extracted read, compileEntries_allOf]
    refine ⟨?_, fun generic => ?_⟩
    · rintro rfl
      rw [TypeRef.text_bare, lookUpList_eq_ok_congr sameName looked]
      exact ⟨_, rfl, rfl⟩
    · rw [lookUpList_generic extracted _ generic]
      rfl
  · rw [compileResponses, compileResponses, read, otherRead]
    cases extractDeclarations source with
    | error fault => rfl
    | ok declarations => exact compileEntries_congr alike

/-- An entry with arguments, among which there is a path, an entry without, and a response that is
inlined with arguments. -/
theorem compileResponses_arguments_missing :
    (∃ result, compileResponses "Missing" (some personSource) = .ok result ∧
      (∃ expanded, compileResponses "api::Missing" (some personSource) = .ok expanded ∧
        expanded.openapi = result.openapi) ∧
      compileResponses "api::Missing<Vec<api::User>>" (some personSource) =
        .error (.nowhere (.expandUnknown "api::Missing<Vec<api::User>>"))) ∧
    compileResponses "(status = 200, response = inline(api::Person<User>))" (some personSource) =
      compileResponses "(status = 200, response = inline(Person))" (some personSource) := by
  refine ⟨?_, ?_⟩
  · have missing : IsPath "api::Missing" := ⟨false, "api", ["Missing"], by decide, by decide⟩
    have user : IsPath "api::User" := ⟨false, "api", ["User"], by decide, by decide⟩
    have vec : (TypeRef.path "Vec" [.path "api::User" []]).WellFormed :=
      .path (isPath_of_isName (by decide)) (List.forall_mem_singleton.mpr (.path user nofun))
    have bareRead : readTypeRef .start "Missing" = .ok (.path "Missing" []) :=
      readTypeRef_of_text (.name (by decide)) (by decide)
    have plainRead : readTypeRef .start "api::Missing" = .ok (.path "api::Missing" []) :=
      readTypeRef_of_text (.path missing nofun) (by decide)
    have shown : (TypeRef.path "api::Missing" [.path "Vec" [.path "api::User" []]]).text =
        "api::Missing<Vec<api::User>>" := by decide
    have read : readTypeRef .start "api::Missing<Vec<api::User>>" =
        .ok (.path "api::Missing" [.path "Vec" [.path "api::User" []]]) :=
      readTypeRef_of_text (.path missing (List.forall_mem_singleton.mpr vec)) shown
    have compiles : (compileResponses "Missing" (some personSource)).isOk = true := by
      decide +kernel
    obtain ⟨result, compiled⟩ := exists_of_isOk compiles
    have plain := compileResponses_arguments.1 bareRead compiled plainRead (by decide)
    have generic := compileResponses_arguments.1 bareRead compiled read (by decide)
    exact ⟨result, compiled, plain.1 rfl, shown ▸ generic.2 (List.cons_ne_nil _ _)⟩
  · have reads (text : String)
        (shown : List.map ResponseEntry.target? <$> readResponses .start text =
          .ok [some (some "200", "Person", true)]) :
        ∃ entry, readResponses .start text = .ok [entry] ∧
          entry.target? = some (some "200", "Person", true) := by
      obtain ⟨entries, read, targets⟩ := map_eq_ok.mp shown
      obtain ⟨entry, rfl, target⟩ := List.map_eq_singleton_iff.mp targets
      exact ⟨entry, read, target⟩
    have generic : List.map ResponseEntry.target? <$>
        readResponses .start "(status = 200, response = inline(api::Person<User>))" =
          .ok [some (some "200", "Person", true)] := by decide +kernel
    have plain : List.map ResponseEntry.target? <$>
        readResponses .start "(status = 200, response = inline(Person))" =
          .ok [some (some "200", "Person", true)] := by decide +kernel
    obtain ⟨entry, read, target⟩ := reads _ generic
    obtain ⟨other, otherRead, alsoTarget⟩ := reads _ plain
    exact compileResponses_arguments.2 read otherRead (.cons (.reference target alsoTarget) .nil)

/-- A type that lists responses, which is not found when it is written with an argument. -/
theorem compileResponses_genericMissing :
    ¬ ∀ (source text bare path other : String) (args : List TypeRef) (result : Compiled),
      readTypeRef .start bare = .ok (.path other []) →
      compileResponses bare (some source) = .ok result →
      readTypeRef .start text = .ok (.path path args) → lastSegment path = lastSegment other →
      ∃ expanded, compileResponses text (some source) = .ok expanded ∧
        expanded.openapi = result.openapi := by
  intro expands
  let source := "#[derive(IntoResponses)]\n#[response(status = 404)]\nstruct Missing;\n"
  have compiles : (compileResponses "Missing" (some source)).isOk = true := by decide +kernel
  have fails : (compileResponses "api::Missing<User>" (some source)).isOk = false := by
    decide +kernel
  obtain ⟨result, compiled⟩ := exists_of_isOk compiles
  have bareRead : readTypeRef .start "Missing" = .ok (.path "Missing" []) :=
    readTypeRef_of_text (.name (by decide)) (by decide)
  have isPath : IsPath "api::Missing" := ⟨false, "api", ["Missing"], by decide, by decide⟩
  have read : readTypeRef .start "api::Missing<User>" =
      .ok (.path "api::Missing" [.path "User" []]) :=
    readTypeRef_of_text (.path isPath (List.forall_mem_singleton.mpr (.name (by decide))))
      (by decide)
  obtain ⟨expanded, done, -⟩ := expands source "api::Missing<User>" "Missing" "api::Missing"
    "Missing" [.path "User" []] result bareRead compiled read (by decide)
  rw [done] at fails
  cases fails

end OpenResponse
