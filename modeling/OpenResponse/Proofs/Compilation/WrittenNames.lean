import OpenResponse.Proofs.Compilation.Arguments
import OpenResponse.Proofs.Compilation.Joining
import OpenResponse.Proofs.Declaration.ReferenceKeys
import OpenResponse.Proofs.Response.Words
import OpenResponse.Proofs.Schema.Declared

/-!
# Names as they are written

A declaration is referred to by its name in three places: a response tuple can inline it, an entry
of a list can be its name, and a field that is marked as a response can have it as its type.  All
three are read as types, so a raw name loses its mark there; but the name of a declaration is taken
from its source as it stands.  The two agree if the name is written without the mark.  With the mark
a reference is looked up under a name that the declaration does not have.

So the question is which text a name has in the source and which name a text has in a reference.
The second is answered by the texts of names: exactly the name itself and the name behind the mark
are read as a reference to it, in all three places.  The first is a matter of reading sources, where
the word is kept.  Comparing the two leaves three cases, a plain name, a marked one, and a word that
is neither.

## Main definitions

* `RefersUnder` — the name under which references with a text are looked up
* `RefusesWord` — words that no reference can be written with

## Main statements

* `findDeriving_of_nodup` — declarations with different names are found by their names
* `NameText.refersUnder` — references with a text of a name are looked up under the name
* `references_asWritten` — **which names resolve as they are written**

## Hypotheses

The declarations have to have different names, so that a declaration that can be found is the one
that is found.  A marked name is still different from the same name without the mark, and both may
be declared.

The third case is about words that a source may have for a name although no name has such a text.
They can be declared, and every way to refer to them is refused.
-/

namespace OpenResponse

open Ordered

/-! ### Look-ups

A name has no separators, so as a path it is looked up as a whole. -/

/-- A text without colons is its own last segment. -/
theorem lastSegment_of_not_mem {path : String} (noColon : ':' ∉ path.toList) :
    lastSegment path = path := by
  have first : path.toList.head? ≠ some ':' := fun same => noColon (List.mem_of_head? same)
  have whole := lastSegment_append [] (unseparated_of_not_mem noColon) first
  rw [List.nil_append, String.ofList_toList] at whole
  rw [whole]
  simp [lastSegment, untilSeparator]

section LookUps

variable {declarations : List Declaration} {declaration : Declaration}

/-- Declarations with different names are found by their names among those that derive a trait.
Dropping those that do not derive it keeps the names different. -/
theorem findDeriving_of_nodup {derive : Derive} (distinct : (declarations.map (·.name)).Nodup)
    (declared : declaration ∈ declarations) (has : declaration.has derive = true) :
    findDeriving declarations derive declaration.name = some declaration := by
  refine findDeclaration_of_nodup ?_ (List.mem_filter.mpr ⟨declared, has⟩)
  exact distinct.sublist (List.filter_sublist.map _)

/-- A list that is looked up is a map whose members have different names. -/
theorem lookUpList_members {path : String} {document : Document}
    (looked : lookUpList declarations path = .ok document) :
    Document.object (update [] document.members) = document := by
  rw [lookUpList] at looked
  split at looked
  · cases looked
  · obtain ⟨compiled, made, rfl⟩ := map_eq_ok.mp looked
    obtain ⟨descriptors, -, made⟩ := outcome_bind_eq_ok.mp made
    obtain ⟨chain, emitted, made⟩ := outcome_bind_eq_ok.mp made
    obtain ⟨calls, -, same⟩ := outcome_bind_eq_ok.mp emitted
    cases same
    obtain ⟨object, interpreted, same⟩ := outcome_bind_eq_ok.mp made
    cases same
    rw [responsesObject_calls] at interpreted
    obtain ⟨members, added, rfl⟩ := map_eq_ok.mp interpreted
    obtain ⟨pairs, adds⟩ := exists_adds added
    cases added.symm.trans (adds [])
    exact congrArg Document.object (ofList_of_nodup (nodup_keys_ofList pairs))

/-- An entry is compiled to the responses that are looked up for it. -/
theorem openapi_allOf (path : String) :
    Compiled.openapi <$> compileEntries declarations [.allOf path] =
      lookUpList declarations path := by
  rw [compileEntries_allOf]
  cases looked : lookUpList declarations path with
  | error fault => rfl
  | ok document => exact congrArg Except.ok (lookUpList_members looked)

end LookUps

/-! ### References

The three ways to refer to a declaration are stated together, each with the text of the reference as
a parameter. -/

section References

variable {declarations : List Declaration} {source text name : String}

/-- A response that refers to a type is the one with a name, under whatever status and wherever it
stands in a list. -/
def InlinedAs (declarations : List Declaration) (type : InlineType) (name : String) : Prop :=
  ∀ status, ∃ call,
    entryCall declarations (.single ⟨some status, .reference type⟩) = .ok call ∧
    ∀ lists members, responsesMember (lookUp declarations) lists members call =
      assign members status <$> lookUp declarations name

/-- References that are written with a text are looked up under a name: responses that tuples
inline, entries, and the types of fields that are marked as responses to be written out. -/
structure RefersUnder (declarations : List Declaration) (source text name : String) : Prop where
  inlined : ∀ status, IsStatus status →
    Compiled.openapi <$> compileResponses (inlineText status text) (some source) =
      (fun object => .object [(status, object)]) <$> lookUp declarations name
  entry : Compiled.openapi <$> compileResponses text (some source) = lookUpList declarations name
  field : ∀ field : Field, field.typeText = text → MarksReference field.attributes true →
    ∃ type, field.responseBody = .ok (.inl type) ∧ InlinedAs declarations type name

/-- Nothing can be referred to with a word.  The three fields are the three places where a reference
can be written: an inlined response, a type in a list, and the type of a marked field. -/
structure RefusesWord (source word : String) : Prop where
  inlined : ∀ status, IsStatus status →
    ∃ fault, compileResponses (inlineText status word) (some source) = .error fault
  entry : ∃ fault, compileResponses word (some source) = .error fault
  field : ∀ field : Field, field.typeText = word → MarksReference field.attributes true →
    ∃ fault, field.responseBody = .error fault

/-- The path of a name inlines what has the name. -/
theorem inlinedAs_name (isName : isName name = true) :
    InlinedAs declarations (inlinedUnder name) name := by
  intro status
  have named : (TypeRef.path name []).name = name :=
    lastSegment_of_not_mem (not_mem_of_isName isName)
  refine ⟨_, ResponseEntry.entryCall_of_target? rfl, fun lists members => ?_⟩
  rw [if_pos rfl, named]
  show (do return assign members status (← lookUp declarations name)) = _
  cases lookUp declarations name <;> rfl

/-- A list of one response that inlines what has a name. -/
theorem InlinedAs.openapi {type : InlineType} (inlined : InlinedAs declarations type name)
    (status : String) :
    Compiled.openapi <$> compileEntries declarations [.single ⟨some status, .reference type⟩] =
      (fun object => .object [(status, object)]) <$> lookUp declarations name := by
  obtain ⟨call, called, adds⟩ := inlined status
  have emitted : emitResponses declarations [.single ⟨some status, .reference type⟩] =
      .ok ([.new] ++ [call] ++ [.build]) := by
    rw [emitResponses, List.mapM_cons, called]
    rfl
  rw [Settled.compileEntries_eq, emitted]
  dsimp only [bind, Except.bind]
  rw [responsesObject_calls, List.foldlM_cons, adds]
  cases lookUp declarations name <;> rfl

/-- References with a text of a name are looked up under the name. -/
theorem NameText.refersUnder (isText : NameText text name)
    (extracted : extractDeclarations source = .ok declarations) :
    RefersUnder declarations source text name where
  inlined status isStatus := by
    rw [compileResponses, isText.readResponses_inline isStatus, extracted]
    exact (inlinedAs_name isText.isName).openapi status
  entry := by
    rw [compileResponses_of_readTypeRef extracted (isText.readTypeRef .start), TypeRef.text_bare]
    exact openapi_allOf name
  field field written marks := by
    have typed : field.type = .ok (.path name []) := by
      rw [Field.type, written]
      exact isText.readTypeRef field.location
    exact ⟨inlinedUnder name, marks.responseBody typed, inlinedAs_name isText.isName⟩

/-- With a word that is no text of a name nothing can be referred to. -/
theorem refusesWord {word : String} (isWord : Source.IsWordText word.toList) (notEmpty : word ≠ "")
    (extracted : extractDeclarations source = .ok declarations)
    (noText : ∀ name, ¬ NameText word name) : RefusesWord source word where
  inlined status isStatus := by
    cases read : readResponses .start (inlineText status word) with
    | error fault => exact ⟨fault, by rw [compileResponses, extracted, read]; rfl⟩
    | ok entries =>
      obtain ⟨name, isText⟩ := exists_nameText_of_inline isStatus isWord notEmpty read
      exact absurd isText (noText name)
  entry := by
    cases read : readResponses .start word with
    | error fault => exact ⟨fault, by rw [compileResponses, extracted, read]; rfl⟩
    | ok entries =>
      obtain ⟨name, isText⟩ := exists_nameText_of_entry isWord notEmpty read
      exact absurd isText (noText name)
  field field written marks := by
    cases typed : field.type with
    | error fault =>
      cases marks with
      | writtenOut marked alone =>
        refine ⟨fault, ?_⟩
        rw [Field.responseBody, if_neg (Bool.eq_false_iff.mp alone), if_pos marked, typed]
        rfl
    | ok type =>
      rw [Field.type, written] at typed
      obtain ⟨name, isText⟩ := exists_nameText isWord notEmpty typed
      exact absurd isText (noText name)

end References

/-- **Which names resolve as they are written.**  Let the declarations of a source have different
names.  A declaration whose name is written without the mark of raw names is what references with
its name come to: they are looked up under that name, and the declaration is what is found there for
every trait that it derives.  Where the name is written with the mark, references with the same text
are looked up under what stands behind the mark, and under that name the declaration is never found.
With a word that is neither, references are refused. -/
theorem references_asWritten {source : String} {declarations : List Declaration}
    {declaration : Declaration} (extracted : extractDeclarations source = .ok declarations)
    (distinct : (declarations.map Declaration.name).Nodup) (declared : declaration ∈ declarations) :
    (isName declaration.name = true →
      RefersUnder declarations source declaration.name declaration.name ∧
      (declaration.has .toResponse = true → lookUp declarations declaration.name =
        Compiled.openapi <$> declaration.toResponse declarations) ∧
      (declaration.has .intoResponses = true → lookUpList declarations declaration.name =
        Compiled.openapi <$> declaration.intoResponses declarations)) ∧
    (∀ name, isName name = true → declaration.name = "r#" ++ name →
      RefersUnder declarations source declaration.name name ∧
      ∀ derive, findDeriving declarations derive name ≠ some declaration) ∧
    ((∀ name, ¬ NameText declaration.name name) → RefusesWord source declaration.name) := by
  refine ⟨fun isName => ⟨?_, fun has => ?_, fun has => ?_⟩, fun name isName written => ⟨?_, ?_⟩,
    fun noText => ?_⟩
  · exact (NameText.plain isName).refersUnder extracted
  · rw [lookUp, findDeriving_of_nodup distinct declared has, Settled.toResponse_openapi]
  · rw [lookUpList, lastSegment_of_not_mem (not_mem_of_isName isName),
      findDeriving_of_nodup distinct declared has]
  · rw [written]
    exact (NameText.raw isName).refersUnder extracted
  · -- what is found under the name is called by it, and the declaration has the mark
    intro derive found
    have named := (findDeriving_eq_some found).2.1
    have longer := congrArg String.length (written.symm.trans named)
    rw [String.length_append] at longer
    exact absurd longer (by simp)
  · exact refusesWord (Source.isWordText_name extracted declared)
      (Source.name_ne_empty extracted declared) extracted noText

/-- A keyword that is marked as raw, a name, and a word that begins like no name. -/
theorem references_asWritten_keyword :
    let source := "#[derive(ToResponse)]\nstruct r#type;\n#[derive(ToResponse)]\nstruct Reply;\n" ++
      "#[derive(IntoResponses)]\n#[response(status = 404)]\nstruct ℘(#[to_response] Reply);\n"
    ∃ declarations, extractDeclarations source = .ok declarations ∧
      (declarations.map Declaration.name).Nodup ∧
      (∃ reply ∈ declarations, reply.name = "Reply" ∧ reply.has .toResponse = true ∧
        RefersUnder declarations source "Reply" "Reply" ∧
        lookUp declarations "Reply" = Compiled.openapi <$> reply.toResponse declarations) ∧
      RefersUnder declarations source "r#type" "type" ∧ RefusesWord source "℘" := by
  intro source
  have shown : List.map (fun declaration : Declaration =>
      (declaration.name, declaration.has .toResponse)) <$> extractDeclarations source =
        .ok [("r#type", true), ("Reply", true), ("℘", false)] := by
    decide +kernel
  obtain ⟨declarations, extracted, listed⟩ := map_eq_ok.mp shown
  obtain ⟨raw, others, rfl, isRaw, listed⟩ := List.map_eq_cons_iff.mp listed
  obtain ⟨reply, others, rfl, isReply, listed⟩ := List.map_eq_cons_iff.mp listed
  obtain ⟨letter, rfl, isLetter⟩ := List.map_eq_singleton_iff.mp listed
  obtain ⟨rawName, -⟩ := Prod.mk.inj isRaw
  obtain ⟨replyName, replyHas⟩ := Prod.mk.inj isReply
  obtain ⟨letterName, -⟩ := Prod.mk.inj isLetter
  have distinct : ([raw, reply, letter].map Declaration.name).Nodup := by
    rw [List.map_cons, List.map_cons, List.map_cons, rawName, replyName, letterName]
    decide
  have unread : (readTypeRef .start "℘").isOk = false := by decide +kernel
  have noText (name : String) : ¬ NameText letter.name name := by
    intro isText
    rw [letterName] at isText
    rw [isText.readTypeRef .start] at unread
    cases unread
  have rawListed : raw ∈ [raw, reply, letter] := by simp
  have replyListed : reply ∈ [raw, reply, letter] := by simp
  have letterListed : letter ∈ [raw, reply, letter] := by simp
  have keyword := (references_asWritten extracted distinct rawListed).2.1 "type" (by decide) rawName
  have plain := (references_asWritten extracted distinct replyListed).1
    (by rw [replyName]; decide)
  have refused := (references_asWritten extracted distinct letterListed).2.2 noText
  rw [replyName] at plain
  rw [rawName] at keyword
  rw [letterName] at refused
  exact ⟨_, extracted, distinct,
    ⟨reply, replyListed, replyName, replyHas, plain.1, plain.2.1 replyHas⟩, keyword.1, refused⟩

/-- A declaration whose name is marked as raw is not found under the text of its name. -/
theorem compileResponses_rawName :
    let source := "#[derive(ToResponse)]\nstruct r#Reply;\n"
    (∃ declaration, extractDeclarations source = .ok [declaration] ∧
      declaration.name = "r#Reply" ∧ declaration.has .toResponse = true) ∧
    compileResponses "(status = 200, response = inline(r#Reply))" (some source) =
      .error (.nowhere (.inlineUnknown "Reply")) := by
  intro source
  have shown : List.map (fun declaration : Declaration =>
      (declaration.name, declaration.has .toResponse)) <$> extractDeclarations source =
        .ok [("r#Reply", true)] := by
    decide +kernel
  have refused : (fun _ => ()) <$> compileResponses "(status = 200, response = inline(r#Reply))"
      (some source) = .error (.nowhere (.inlineUnknown "Reply")) := by
    decide +kernel
  obtain ⟨declarations, extracted, listed⟩ := map_eq_ok.mp shown
  obtain ⟨declaration, rfl, same⟩ := List.map_eq_singleton_iff.mp listed
  obtain ⟨named, has⟩ := Prod.mk.inj same
  exact ⟨⟨declaration, extracted, named, has⟩, map_eq_error.mp refused⟩

end OpenResponse
