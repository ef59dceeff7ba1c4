import OpenResponse.Proofs.Compilation.Entries
import OpenResponse.Proofs.Document.Ordered

/-!
# Joined lists of responses

Two lists of responses with a comma between them are one list.  The calls of the joined list are
those of the first followed by those of the second, and its map is the first map updated by the
second.

What makes this work is that a call adds the same members to every map: what it assigns is taken
from the call and from the declarations, never from the map that it adds to.  The calls of the
second list, which were first run from the empty map, may thus be run from the map of the first.

At the level of texts, the two lists with a comma between them are read as one list; that is proved
with the forms of lists.  At the level of entries, the calls of both are made one after the other
and fail nowhere if they did not before.  At the level of calls, `Adds` says that a list of calls
has the same effect wherever it is run, so the second map is added to the first as a whole.

## Main definitions

* `Adds` — calls that add the same members to every map

## Main statements

* `exists_adds` — the calls of a map that could be built
* `compileEntries_append` — two lists that are compiled together
* `compileResponses_joined` — **joined texts are compiled to joined chains and an updated map**

## Hypotheses

Both lists have to be compiled with the same source.  That each of them compiles by itself is what
makes the joined one compile.

`Merged` describes the map of the joined list without saying how it is computed: names of the first
map keep their places, new ones follow, and values of the second win.
-/

namespace OpenResponse

open Compilation Ordered

/-! ### What calls add

A call assigns under a status, or updates by a map that was looked up.  Neither reads the map that
it changes. -/

/-- Calls add the same members to every map of responses, one after the other. -/
def Adds (resolve expand : String → Except Fault Document) (calls : Chain) (added : Members) :
    Prop :=
  ∀ members, calls.foldlM (responsesMember resolve expand) members = .ok (update members added)

section Adds

variable {resolve expand : String → Except Fault Document}

/-- What calls add one after the other is what they add together. -/
theorem Adds.append {calls more : Chain} {added further : Members}
    (first : Adds resolve expand calls added) (second : Adds resolve expand more further) :
    Adds resolve expand (calls ++ more) (added ++ further) := by
  intro members
  rw [List.foldlM_append, first members, update_append]
  exact second _

/-- What a call adds does not depend on the map that it adds to. -/
theorem exists_responsesMember {call : Instruction} {members later : Members}
    (done : responsesMember resolve expand members call = .ok later) :
    ∃ added, ∀ others, responsesMember resolve expand others call = .ok (update others added) := by
  unfold responsesMember at done ⊢
  split at done
  next status response =>
    obtain ⟨object, interpreted, -⟩ := outcome_bind_eq_ok.mp done
    exact ⟨[(status, object)], fun others => outcome_bind_eq_ok.mpr ⟨object, interpreted, rfl⟩⟩
  next path _ =>
    obtain ⟨document, looked, -⟩ := outcome_bind_eq_ok.mp done
    exact ⟨document.members, fun others => outcome_bind_eq_ok.mpr ⟨document, looked, rfl⟩⟩
  next => exact ⟨[], fun others => rfl⟩

/-- Calls that can be run from some map add the same to every other one.  What a call adds does not
depend on the map it is added to, so it can be named before the map is known. -/
theorem exists_adds {calls : Chain} {members final : Members}
    (done : calls.foldlM (responsesMember resolve expand) members = .ok final) :
    ∃ added, Adds resolve expand calls added := by
  induction calls generalizing members with
  | nil => exact ⟨[], fun _ => rfl⟩
  | cons call calls ih =>
    obtain ⟨later, first, others⟩ := outcome_bind_eq_ok.mp done
    obtain ⟨added, adds⟩ := exists_responsesMember first
    obtain ⟨further, addFurther⟩ := ih others
    refine ⟨added ++ further, fun members => ?_⟩
    rw [List.foldlM_cons, update_append]
    exact outcome_bind_eq_ok.mpr ⟨_, adds members, addFurther _⟩

end Adds

/-! ### Lists that are compiled together

The chains are joined inside of their opening and closing calls. -/

/-- The calls of two lists are run one after the other: the second map updates the first. -/
theorem foldlM_responsesMember_append {resolve expand : String → Except Fault Document}
    {calls more : Chain} {members additional : Members}
    (first : calls.foldlM (responsesMember resolve expand) [] = .ok members)
    (second : more.foldlM (responsesMember resolve expand) [] = .ok additional) :
    (calls ++ more).foldlM (responsesMember resolve expand) [] = .ok (update members additional) ∧
      Merged members additional (update members additional) := by
  obtain ⟨added, adds⟩ := exists_adds first
  obtain ⟨further, addFurther⟩ := exists_adds second
  have membersAre : members = update [] added := Except.ok.inj (first.symm.trans (adds []))
  have additionalAre : additional = ofList further :=
    Except.ok.inj (second.symm.trans (addFurther []))
  constructor
  · rw [adds.append addFurther, update_append, ← membersAre, additionalAre, update_ofList]
  · rw [additionalAre]
    exact merged_update members (nodup_keys_ofList further)

/-- Two lists of entries are compiled together to the calls of both and to the first map updated by
the second. -/
theorem compileEntries_append {declarations : List Declaration}
    {entries others : List ResponseEntry} {first second : Compiled}
    (firstDone : compileEntries declarations entries = .ok first)
    (secondDone : compileEntries declarations others = .ok second) :
    ∃ calls more members additional,
      first = ⟨"responses", .responses, [.new] ++ calls ++ [.build], .object members⟩ ∧
      second = ⟨"responses", .responses, [.new] ++ more ++ [.build], .object additional⟩ ∧
      compileEntries declarations (entries ++ others) =
        .ok ⟨"responses", .responses, [.new] ++ (calls ++ more) ++ [.build],
          .object (update members additional)⟩ ∧
      Merged members additional (update members additional) := by
  obtain ⟨calls, members, called, added, rfl⟩ := compileEntries_calls.mp firstDone
  obtain ⟨more, additional, calledMore, addedMore, rfl⟩ := compileEntries_calls.mp secondDone
  obtain ⟨whole, merged⟩ := foldlM_responsesMember_append added addedMore
  refine ⟨calls, more, members, additional, rfl, rfl, ?_, merged⟩
  refine compileEntries_calls.mpr ⟨calls ++ more, _, ?_, whole, rfl⟩
  rw [List.mapM_append, called, calledMore]
  rfl

/-! ### Joined texts

A text is compiled in three steps: the source, the entries, the calls. -/

/-- What a compiled text consists of: the declarations of its source and its entries. -/
theorem compileResponses_eq_ok {text : String} {source : Option String} {result : Compiled} :
    compileResponses text source = .ok result ↔
      ∃ declarations, source.elim (.ok []) extractDeclarations = .ok declarations ∧
        ∃ entries, readResponses .start text = .ok entries ∧
          compileEntries declarations entries = .ok result := by
  have inOrder : compileResponses text source = (do
      let declarations ← source.elim (.ok []) extractDeclarations
      let entries ← readResponses .start text
      compileEntries declarations entries) := by
    cases source <;> rfl
  simp only [inOrder, outcome_bind_eq_ok]

/-- **Lists of responses compose.**  Where a text lists at least one response and does not end in a
comma, a second text may follow it behind a comma on a line of its own.  The joined text lists the
responses of the first and then those of the second.  With every source, or none, with which both
are compiled, it is compiled too: its chain has the calls of the first and then those of the second
between one opening and one closing call, and its map is the first map updated by the second, so
that names of the first keep their places and values of the second win. -/
theorem compileResponses_joined {front back : String} {entries others : List ResponseEntry}
    (frontRead : readResponses .start front = .ok entries)
    (backRead : readResponses .start back = .ok others) (some : entries ≠ [])
    (notTrailing : ¬ EndsInComma front) :
    readResponses .start (front ++ "\n,\n" ++ back) = .ok (entries ++ others) ∧
    ∀ source first second, compileResponses front source = .ok first →
      compileResponses back source = .ok second →
      ∃ calls more members additional,
        first = ⟨"responses", .responses, [.new] ++ calls ++ [.build], .object members⟩ ∧
        second = ⟨"responses", .responses, [.new] ++ more ++ [.build], .object additional⟩ ∧
        compileResponses (front ++ "\n,\n" ++ back) source =
          .ok ⟨"responses", .responses, [.new] ++ (calls ++ more) ++ [.build],
            .object (update members additional)⟩ ∧
        Merged members additional (update members additional) := by
  have joined := readResponses_joined frontRead backRead some notTrailing
  refine ⟨joined, fun source first second firstDone secondDone => ?_⟩
  obtain ⟨declarations, known, _, readFront, firstDone⟩ := compileResponses_eq_ok.mp firstDone
  obtain ⟨_, knownAgain, _, readBack, secondDone⟩ := compileResponses_eq_ok.mp secondDone
  cases known.symm.trans knownAgain
  cases frontRead.symm.trans readFront
  cases backRead.symm.trans readBack
  obtain ⟨calls, more, members, additional, firstIs, secondIs, whole, merged⟩ :=
    compileEntries_append firstDone secondDone
  exact ⟨calls, more, members, additional, firstIs, secondIs,
    compileResponses_eq_ok.mpr ⟨declarations, known, _, joined, whole⟩, merged⟩

/-- A list whose last line is a comment. -/
def missingList : String :=
  "(status = 500, description = \"Broken\"), (status = 404, response = Person) // not here"

/-- A list that ends in a comment, and one that gives a status of it again. -/
theorem compileResponses_joined_person :
    ∃ entries others first second calls more members additional,
      readResponses .start missingList = .ok entries ∧ readResponses .start personList = .ok others ∧
      entries ≠ [] ∧ ¬ EndsInComma missingList ∧
      compileResponses missingList (some personSource) = .ok first ∧
      compileResponses personList (some personSource) = .ok second ∧
      readResponses .start (missingList ++ "\n,\n" ++ personList) = .ok (entries ++ others) ∧
      first = ⟨"responses", .responses, [.new] ++ calls ++ [.build], .object members⟩ ∧
      second = ⟨"responses", .responses, [.new] ++ more ++ [.build], .object additional⟩ ∧
      compileResponses (missingList ++ "\n,\n" ++ personList) (some personSource) =
        .ok ⟨"responses", .responses, [.new] ++ (calls ++ more) ++ [.build],
          .object (update members additional)⟩ ∧
      Merged members additional (update members additional) := by
  have count : List.length <$> readResponses .start missingList = .ok 2 := by decide +kernel
  have readBack : (readResponses .start personList).isOk = true := by decide +kernel
  have last : (fun tokens : List Token => tokens.getLast?.map Token.kind) <$>
      scan .start missingList.toList = .ok (some .closeParen) := by decide +kernel
  have firstDone : (compileResponses missingList (some personSource)).isOk = true := by
    decide +kernel
  have secondDone : (compileResponses personList (some personSource)).isOk = true := by
    decide +kernel
  obtain ⟨entries, frontRead, two⟩ := map_eq_ok.mp count
  obtain ⟨others, backRead⟩ := exists_of_isOk readBack
  obtain ⟨first, firstDone⟩ := exists_of_isOk firstDone
  obtain ⟨second, secondDone⟩ := exists_of_isOk secondDone
  have some : entries ≠ [] := List.ne_nil_of_length_pos (two ▸ Nat.two_pos)
  have notTrailing : ¬ EndsInComma missingList := not_endsInComma last (by decide)
  obtain ⟨joined, compile⟩ := compileResponses_joined frontRead backRead some notTrailing
  obtain ⟨calls, more, members, additional, firstIs, secondIs, whole, merged⟩ :=
    compile _ first second firstDone secondDone
  exact ⟨entries, others, first, second, calls, more, members, additional, frontRead, backRead,
    some, notTrailing, firstDone, secondDone, joined, firstIs, secondIs, whole, merged⟩

end OpenResponse
