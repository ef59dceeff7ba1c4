import OpenResponse.Proofs.Compilation.Entries
import OpenResponse.Proofs.TypeRef.Faults

/-!
# Fields without a name

The shape of a declaration is looked at when responses are derived from it, and only then.  Any
declaration of the source may be written out as a part of another response, and there a tuple struct
with several fields is taken for one with named fields.  The fault over it is no diagnostic: it says
neither what is wrong nor where.

Here it is shown that this is the only way in which making a schema fails without a diagnostic,
apart from escapes that are out of range; and that a compilation ends like this only among
declarations in which such a struct is known under its name, and does so whenever one is written out
first.

The proof runs the laws on causes twice, with different sets of allowed causes.  Once all causes are
allowed but that of a nameless field, and the schemas keep to them as long as no tuple struct with
several fields is written out; so a compilation that ends over a nameless field writes one out.  For
the other direction a list is given that writes one out first, and the fault is followed to the end.

## Main definitions

* `WritesOut` — lists of responses that begin with the schema of a declaration

## Main statements

* `mapM_type_error` — the faults of the types of fields
* `compileDeclarations_within`, `compileEntries_within` — the faults of compilations
* `extractDeclarations_schemaFaults` — **the faults of schemas** among the declarations of a source

## Hypotheses

The declarations are those of a source.  This is used for one thing, that fields have names unless
they are those of a tuple.

A struct has to be known under its name, that is, it has to be what a look-up of its name finds.
Another declaration of the same name further behind would be found instead.
-/

namespace OpenResponse

open FailsWithin

/-! ### Types of fields

The first field that cannot be read gives the fault. -/

/-- Reading the types of fields fails with a diagnostic, or because one of them comes to an escape
that is out of range. -/
theorem mapM_type_error {fields : List Field} {fault : Fault}
    (failed : fields.mapM Field.type = .error fault) :
    fault.IsDiagnostic ∨ fault = .nowhere .escapeOverflow ∧
      ∃ field ∈ fields, MeetsHugeEscape field.location field.typeText.toList := by
  obtain ⟨field, listed, isFault⟩ := exists_of_mapM_eq_error failed
  refine (Field.type_error isFault).imp_right ?_
  rintro ⟨same, meets⟩
  exact ⟨same, field, listed, meets⟩

/-! ### Compilations

What is compiled fails over declarations, over what is missing, or over the list itself. -/

section Compilations

variable {allowed : Cause → Bool} {known : List Declaration}
  (covers : CoversCalls allowed) (described : DescribedWithin allowed known)
  (turned : ∀ declaration ∈ known, declaration.SchemasWithin allowed)

include covers described turned

private theorem derived_within
    {declaration : Declaration} (schemas : declaration.SchemasWithin allowed) :
    FailsWithin allowed (declaration.derived known) := by
  have derives (derived : Bool) {step : Except Fault Compiled}
      (within : FailsWithin allowed step) : FailsWithin allowed (whenDerived derived step) := by
    unfold whenDerived
    exact ite within.map ok
  exact (derives _ (toResponse_within covers described schemas)).bind fun _ =>
    (derives _ (intoResponses_within covers described turned schemas)).bind fun _ => ok

/-- Compiling declarations fails over one of them, or because none has the name that is asked
for. -/
theorem compileDeclarations_within (missing : ∀ name, allowed (.noSuchType name) = true)
    (name : Option String) : FailsWithin allowed (compileDeclarations known name) := by
  have each {targets : List Declaration} (among : targets ⊆ known) :
      FailsWithin allowed (Compilation.complete do
        return (← targets.mapM (compileDeclaration known)).flatten) := by
    rw [Settled.compileEach_eq]
    refine (mapM fun declaration listed => ?_).bind fun _ => ok
    exact derived_within covers described turned (turned declaration (among listed))
  unfold compileDeclarations
  dsimp only
  split
  next => exact error (missing _)
  next =>
    refine each ?_
    split
    · exact (List.filter_sublist.trans List.filter_sublist).subset
    · exact List.filter_sublist.subset

/-- Compiling a list fails over one of its entries, or over what they refer to.  The memory of the
compilation plays no part, as the steps are settled. -/
theorem compileEntries_within (entries : List ResponseEntry) :
    FailsWithin allowed (compileEntries known entries) := by
  rw [Settled.compileEntries_eq]
  refine (FailsWithin.emitResponses described _).bind fun chain => bind ?_ fun _ => ok
  exact responsesObject_within covers described turned (lookUpList_within covers described turned)
    chain

end Compilations

/-! ### Declarations of a source

The causes other than the one in question are allowed, which are all but one. -/

/-- The causes other than that of a field without a name. -/
def Cause.isOther (cause : Cause) : Bool := cause != .namelessField

private theorem coversCalls_isOther :
    CoversCalls Cause.isOther := fun _ _ other => bne_iff_ne.mpr other

namespace Declaration

variable {declaration : Declaration} (named : declaration.FieldsNamed)

include named

/-- The schemas that are made of a declaration never come to a field without a name, unless it is
that of a tuple struct. -/
theorem FieldsNamed.schemasWithin : declaration.SchemasWithin Cause.isOther where
  whole notWide fault failed := by
    rw [named.declarationSchema_eq_error, if_neg notWide] at failed
    exact mapM (fun field _ => fieldType coversCalls_isOther.declarations field) fault failed
  variants variant listed notTuple fault failed := by
    have names : ∀ field ∈ variant.fields, field.name.isSome = true := fun field isField => by
      rw [named.variants variant listed field isField, notTuple]
      rfl
    have failed := (recordSchema_failAlike names variant.docs fault).mp failed
    exact mapM (fun field _ => fieldType coversCalls_isOther.declarations field) fault failed

end Declaration

/-- Compiling a list that is given as a text fails over the text, or over what it refers to. -/
theorem readEntries_within {known : List Declaration}
    (described : DescribedWithin Cause.isOther known)
    (turned : ∀ declaration ∈ known, declaration.SchemasWithin Cause.isOther) (text : String) :
    FailsWithin Cause.isOther (do compileEntries known (← readResponses .start text)) :=
  (runOn coversCalls_isOther.declarations _ _ Parser.Respects.responseEntries).bind
    fun entries => compileEntries_within coversCalls_isOther described turned entries

section Extracted

variable {source : String} {declarations : List Declaration}
  (extracted : extractDeclarations source = .ok declarations)

include extracted

/-- Every declaration of a source is turned into responses without a fault of this kind. -/
theorem turned_of_extracted :
    ∀ declaration ∈ declarations, declaration.SchemasWithin Cause.isOther :=
  fun declaration listed => (extractDeclarations_named extracted declaration listed).schemasWithin

/-- It is not written out without one only if it is a tuple struct with several fields. -/
theorem described_of_extracted (none : ∀ name declaration,
      findDeclaration declarations name = some declaration → ¬ declaration.IsWideTuple) :
    DescribedWithin Cause.isOther declarations := by
  intro name declaration found
  exact (turned_of_extracted extracted declaration (mem_of_findDeclaration found)).whole
    (none name declaration found)

end Extracted

/-- The type that an entry has for its body, if that is to be written out. -/
def ResponseEntry.writtenOut? : ResponseEntry → Option TypeRef
  | .single ⟨_, .value ⟨_, some (.typed ⟨type, true⟩), _, _, _, _, []⟩⟩ => some type
  | _ => none

/-- A list of responses of which the first has a body that comes down to a declaration and is
written out. -/
def WritesOut (declarations : List Declaration) (entries : List ResponseEntry)
    (declaration : Declaration) : Prop :=
  ∃ entry rest type name, entries = entry :: rest ∧ entry.writtenOut? = some type ∧
    type.HasLeaf name ∧ findDeclaration declarations name = some declaration

namespace WritesOut

variable {declarations : List Declaration} {entries : List ResponseEntry}
  {declaration : Declaration} (writesOut : WritesOut declarations entries declaration)

include writesOut

private theorem listed : declaration ∈ declarations := by
  obtain ⟨_, _, _, _, _, _, _, found⟩ := writesOut
  exact mem_of_findDeclaration found

/-- A list that writes out a declaration without a schema fails as the schema does. -/
theorem compileEntries_eq_error {fault : Fault}
    (failed : declarationSchema declaration = .error fault) :
    compileEntries declarations entries = .error fault := by
  obtain ⟨entry, rest, type, name, rfl, isBody, isLeaf, found⟩ := writesOut
  have schema : schemaOf declarations ⟨type, true⟩ = .error fault :=
    schemaOf_eq_error.mpr ⟨rfl, name, declaration, isLeaf, found, failed⟩
  have called : entryCall declarations entry = .error fault := by
    unfold ResponseEntry.writtenOut? at isBody
    split at isBody
    next =>
      cases isBody
      rw [entryCall, emitResponse, emitValue]
      dsimp only
      rw [bodyCalls, contentChain, Body.schemaDocument, schema]
      rfl
    next => cases isBody
  rw [Settled.compileEntries_eq, emitResponses, List.mapM_cons, called]
  rfl

end WritesOut

/-- **The faults of schemas.**  Among the declarations of a source, a tuple struct with several
fields has no schema and fails over a field without a name; any other declaration fails as the types
of its fields do, that is with a diagnostic, unless a type comes to an escape that is out of range.
A type fails if it is written out and its leaf is a declaration that fails.  So compiling ends over
a field without a name only where a tuple struct with several fields is known under its name, never
without a source, and always where such a struct is written out first. -/
theorem extractDeclarations_schemaFaults {source : String} {declarations : List Declaration}
    (extracted : extractDeclarations source = .ok declarations) :
    (∀ declaration ∈ declarations, ∀ fault, declarationSchema declaration = .error fault ↔
      if declaration.IsWideTuple then fault = .nowhere .namelessField
      else declaration.schemaFields.mapM Field.type = .error fault) ∧
    (∀ (fields : List Field) (fault : Fault), fields.mapM Field.type = .error fault →
      fault.IsDiagnostic ∨ fault = .nowhere .escapeOverflow ∧
        ∃ field ∈ fields, MeetsHugeEscape field.location field.typeText.toList) ∧
    (∀ type fault, schemaOf declarations type = .error fault ↔
      type.isInline = true ∧ ∃ name declaration, type.type.HasLeaf name ∧
        findDeclaration declarations name = some declaration ∧
          declarationSchema declaration = .error fault) ∧
    (∀ fault, (∃ name, compileSource source name = .error fault) ∨
        (∃ text, compileResponses text (some source) = .error fault) →
      fault.cause = .namelessField →
        ∃ name declaration, findDeclaration declarations name = some declaration ∧
          declaration.IsWideTuple) ∧
    (∀ text fault, compileResponses text none = .error fault → fault.cause ≠ .namelessField) ∧
    (∀ text entries declaration, readResponses .start text = .ok entries →
      WritesOut declarations entries declaration → declaration.IsWideTuple →
        compileResponses text (some source) = .error (.nowhere .namelessField)) := by
  have named := extractDeclarations_named extracted
  refine ⟨fun declaration listed fault => (named declaration listed).declarationSchema_eq_error,
    fun fields fault => mapM_type_error, fun type fault => schemaOf_eq_error, ?only, ?never,
    ?always⟩
  case only =>
    intro fault failed nameless
    -- if no such struct is known, every step of a compilation keeps to the other causes
    by_contra none
    have turned := turned_of_extracted extracted
    have described := described_of_extracted extracted fun name declaration found wide =>
      none ⟨name, declaration, found, wide⟩
    have other : fault.cause.isOther = true := by
      rcases failed with ⟨name, failed⟩ | ⟨text, failed⟩
      · rw [compileSource, extracted] at failed
        exact compileDeclarations_within coversCalls_isOther described turned (fun _ => rfl) name
          fault failed
      · rw [compileResponses, extracted] at failed
        exact readEntries_within described turned text fault failed
    rw [nameless] at other
    cases other
  case never =>
    intro text fault failed nameless
    -- nothing is written out where nothing is declared
    have described : DescribedWithin Cause.isOther [] := fun _ _ found => by cases found
    have other := readEntries_within described (fun _ listed => (List.not_mem_nil listed).elim) text
      fault failed
    rw [nameless] at other
    cases other
  case always =>
    intro text entries declaration read writesOut wide
    have failed := (named declaration writesOut.listed).declarationSchema_wideTuple wide
    rw [compileResponses, extracted, read]
    exact writesOut.compileEntries_eq_error failed

/-- A struct, an enum and a record that are written with tuples. -/
def pairSource : String :=
  "struct Pair(u8, u8);\nenum Shape \x7b Point(u8, u8) \x7d\nstruct Entry \x7b key: (u8, u8) \x7d\n"

/-- The struct has no schema, the enum has one, and the record has a type that is reported. -/
theorem extractDeclarations_schemaFaults_pair :
    ∃ pair shape entry, extractDeclarations pairSource = .ok [pair, shape, entry] ∧
      declarationSchema pair = .error (.nowhere .namelessField) ∧
      (∃ schema, declarationSchema shape = .ok schema) ∧
      (∃ fault, declarationSchema entry = .error fault ∧ fault.IsDiagnostic) ∧
      schemaOf [pair, shape, entry] ⟨.path "Vec" [.path "Pair" []], true⟩ =
        .error (.nowhere .namelessField) ∧
      compileResponses "(status = 200, body = inline(Pair))" (some pairSource) =
        .error (.nowhere .namelessField) := by
  have read : List.map (fun declaration : Declaration => (declaration.name,
      decide declaration.IsWideTuple,
      (fun _ => ()) <$> declaration.schemaFields.mapM Field.type)) <$>
        extractDeclarations pairSource =
      .ok [("Pair", true, .ok ()), ("Shape", false, .ok ()),
        ("Entry", false, .error (.found ⟨3, 22⟩ .tupleType))] := by decide +kernel
  obtain ⟨declarations, extracted, shown⟩ := map_eq_ok.mp read
  obtain ⟨pair, others, rfl, isPair, shown⟩ := List.map_eq_cons_iff.mp shown
  obtain ⟨shape, others, rfl, isShape, shown⟩ := List.map_eq_cons_iff.mp shown
  obtain ⟨entry, rfl, isEntry⟩ := List.map_eq_singleton_iff.mp shown
  simp only [Prod.mk.injEq, decide_eq_true_eq, decide_eq_false_iff_not] at isPair isShape isEntry
  obtain ⟨pairName, wide, -⟩ := isPair
  obtain ⟨shapeName, shapeNarrow, shapeTypes⟩ := isShape
  obtain ⟨entryName, entryNarrow, entryTypes⟩ := isEntry
  obtain ⟨schemas, -, types, -, -, compiled⟩ := extractDeclarations_schemaFaults extracted
  have found : findDeclaration [pair, shape, entry] "Pair" = some pair := by
    simp [findDeclaration, pairName, shapeName, entryName]
  have pairFails : declarationSchema pair = .error (.nowhere .namelessField) :=
    (schemas pair (by simp) _).mpr (by rw [if_pos wide])
  refine ⟨pair, shape, entry, extracted, pairFails, ?_, ?_, ?_, ?_⟩
  · cases made : declarationSchema shape with
    | ok schema => exact ⟨schema, rfl⟩
    | error fault =>
      have failed := (schemas shape (by simp) fault).mp made
      rw [if_neg shapeNarrow] at failed
      rw [failed] at shapeTypes
      cases shapeTypes
  · refine ⟨.found ⟨3, 22⟩ .tupleType, (schemas entry (by simp) _).mpr ?_, .found rfl⟩
    rw [if_neg entryNarrow]
    exact map_eq_error.mp entryTypes
  · have isLeaf : (TypeRef.path "Vec" [.path "Pair" []]).HasLeaf "Pair" :=
      .contained rfl (.itself rfl rfl rfl)
    exact (types _ _).mpr ⟨rfl, "Pair", pair, isLeaf, found, pairFails⟩
  · have written : List.map (fun entry : ResponseEntry => entry.writtenOut?.map TypeRef.name) <$>
        readResponses .start "(status = 200, body = inline(Pair))" = .ok [some "Pair"] := by
      decide +kernel
    obtain ⟨entries, read, shown⟩ := map_eq_ok.mp written
    obtain ⟨entry, rfl, isBody⟩ := List.map_eq_singleton_iff.mp shown
    obtain ⟨type, isType, isName⟩ := Option.map_eq_some_iff.mp isBody
    have isLeaf : type.HasLeaf "Pair" := by
      cases type with
      | unit => simp [TypeRef.name] at isName
      | slice item => simp [TypeRef.name] at isName
      | path path args =>
        have isName : lastSegment path = "Pair" := isName
        have isLeaf : (TypeRef.path path args).HasLeaf (lastSegment path) :=
          .itself (by rw [isName]; rfl) (by rw [isName]; rfl) (by rw [isName]; rfl)
        rwa [isName] at isLeaf
    exact compiled _ _ pair read ⟨entry, [], type, "Pair", rfl, isType, isLeaf, found⟩ wide

/-- Neither schemas nor compilations fail with diagnostics alone. -/
theorem declarationSchema_pair :
    (¬ ∀ (source : String) (declarations : List Declaration),
      extractDeclarations source = .ok declarations → ∀ declaration ∈ declarations, ∀ fault,
        declarationSchema declaration = .error fault → fault.kind ≠ .namelessField) ∧
    ¬ ∀ (source text : String) (fault : Fault),
      compileResponses text (some source) = .error fault → fault.kind ≠ .namelessField := by
  refine ⟨fun diagnosed => ?_, fun diagnosed => ?_⟩
  · have read : List.map (fun declaration => (fun _ => ()) <$> declarationSchema declaration) <$>
        extractDeclarations "struct Pair(u8, u8);\n" =
          .ok [.error (.nowhere .namelessField)] := by decide +kernel
    obtain ⟨declarations, extracted, shown⟩ := map_eq_ok.mp read
    obtain ⟨pair, rfl, failed⟩ := List.map_eq_singleton_iff.mp shown
    exact diagnosed _ _ extracted pair (List.mem_singleton_self _) _ (map_eq_error.mp failed) rfl
  · have failed : (fun _ => ()) <$> compileResponses "(status = 200, body = inline(Pair))"
        (some "struct Pair(u8, u8);\n") = .error (.nowhere .namelessField) := by decide +kernel
    exact diagnosed _ _ _ (map_eq_error.mp failed) rfl

end OpenResponse
