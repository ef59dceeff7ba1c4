import OpenResponse.Compilation
import OpenResponse.Proofs.Declaration.Faults

/-!
# What a compilation remembers

A compilation keeps the responses that were inlined, and the names of those that it is working on.
Here both are shown to be invisible from outside: between any two look-ups nothing is in progress,
what is kept is what would be compiled again, and every look-up ends as it does when nothing has
been looked up before.  The reason is that the response of a declaration is always described by its
value, so that looking one up never leads to another.

## Main definitions

* `Declaration.object` — the object of the response that a declaration is, looked up nowhere
* `Progress.Coherent` — the states between two look-ups
* `Settled` — steps with an outcome that does not depend on what is remembered
* `Call`, `Call.run` — what a compilation can be asked for
* `after` — the state behind a sequence of calls

## Main statements

* `Settled.bind` — sequences of steps
* `Settled.resolve`, `Settled.run` — look-ups, and calls of every kind
* `coherent_after_and_outcome_eq` — calls in any order, whether or not earlier ones failed

## Design notes

`Coherent` is the invariant.  It speaks of states between look-ups; during a look-up a name is in
progress, but since the response of a declaration never leads to another look-up, no step sees such
a state.  For the same reason the budget of a look-up, which bounds how deep they may nest, is never
used up.

`Settled` packages the invariant with the outcome: from every coherent state the step ends as its
outcome says, in a state that is coherent again.  It is closed under sequences, so every call is
settled because its steps are, and calls that fail are no exception, as the state is kept when a
step fails.

There is no hypothesis on the declarations.  Names may be repeated, and the last declaration that
derives a response counts.
-/

namespace OpenResponse

open Compilation Ordered

/-! ### Responses of declarations

The response of a declaration is described by its value in each of its cases, so its object can be
made without looking anything up. -/

/-- The chain of the response that a declaration is. -/
def Declaration.chain (known : List Declaration) (declaration : Declaration) :
    Except Fault Chain := do
  emitResponse known (← declaration.response).response

/-- The object of the response that a declaration is.  It needs no other response. -/
def Declaration.object (known : List Declaration) (declaration : Declaration) :
    Except Fault Document := do
  responseObject noResponses (← declaration.chain known)

/-- A response that is made of a body and of content is described by its value. -/
theorem createResponse_isValue {declaration : Declaration} {body : Option Body}
    {content : List ContentVariant} {descriptor : ResponseDescriptor}
    (created : createResponse declaration body content = .ok descriptor) :
    ∃ said, descriptor.response = .value said := by
  obtain ⟨merged, -, created⟩ := outcome_bind_eq_ok.mp created
  dsimp only at created
  split at created
  · split at created
    · cases created
    · cases created
      exact ⟨_, rfl⟩
  · cases created
    exact ⟨_, rfl⟩

/-- The response that a declaration is never refers to another one. -/
theorem Declaration.response_isValue {declaration : Declaration}
    {descriptor : ResponseDescriptor} (given : declaration.response = .ok descriptor) :
    ∃ said, descriptor.response = .value said := by
  obtain ⟨shape, -, given⟩ := outcome_bind_eq_ok.mp given
  cases shape with
  | newtype type attributes => exact createResponse_isValue given
  | unit => exact createResponse_isValue given
  | record type fields =>
    obtain ⟨schema, -, given⟩ := outcome_bind_eq_ok.mp given
    exact createResponse_isValue given
  | «enum» type variants =>
    obtain ⟨content, -, given⟩ := outcome_bind_eq_ok.mp given
    dsimp only at given
    split at given
    · obtain ⟨schema, -, given⟩ := outcome_bind_eq_ok.mp given
      exact createResponse_isValue given
    · exact createResponse_isValue given

/-- The chain of a declaration means the same object however responses are looked up. -/
theorem Declaration.responseObject_chain {m : Type → Type} [Monad m] [MonadExcept Fault m]
    {known : List Declaration} {declaration : Declaration} {chain : Chain}
    (emitted : declaration.chain known = .ok chain) (resolve : String → m Document) :
    ∃ object, declaration.object known = .ok object ∧
      responseObject resolve chain = pure object := by
  have looked : declaration.object known = responseObject noResponses chain := by
    rw [Declaration.object, emitted]
    rfl
  rw [looked]
  obtain ⟨descriptor, given, emitted⟩ := outcome_bind_eq_ok.mp emitted
  obtain ⟨said, isValue⟩ := Declaration.response_isValue given
  rw [isValue] at emitted
  have emitted : emitValue known said = .ok chain := emitted
  have here := responseObject_emitValue known (noResponses (m := Except Fault)) said
  have there := responseObject_emitValue known resolve said
  rw [emitted] at here there
  cases object : said.object known with
  | error fault =>
    rw [object] at here
    cases here
  | ok document =>
    rw [object] at here there
    exact ⟨document, Except.ok.inj here, Except.ok.inj there⟩

/-- The declaration that is found under a name. -/
theorem findDeriving_eq_some {declarations : List Declaration} {derive : Derive} {name : String}
    {declaration : Declaration}
    (found : findDeriving declarations derive name = some declaration) :
    declaration ∈ declarations ∧ declaration.name = name ∧ declaration.has derive = true := by
  obtain ⟨declared, has⟩ := List.mem_filter.mp (mem_of_findDeclaration found)
  have named := List.find?_some found
  exact ⟨declared, beq_iff_eq.mp named, has⟩

/-! ### Outcomes without memory

These are the functions that a compilation comes to.  They have the form of its steps, with nothing
to remember. -/

section Outcomes

variable (declarations : List Declaration)

/-- The response that a declaration is, compiled. -/
def Declaration.toResponse (declaration : Declaration) : Except Fault Compiled := do
  let chain ← declaration.chain declarations
  Compiled.mk declaration.name .toResponse chain <$> responseObject noResponses chain

/-- The object of the last declaration with a name that is a response. -/
def lookUp (name : String) : Except Fault Document :=
  match findDeriving declarations .toResponse name with
  | none => .error (.nowhere (.inlineUnknown name))
  | some declaration => declaration.object declarations

/-- The responses that a declaration lists, compiled. -/
def Declaration.intoResponses (declaration : Declaration) : Except Fault Compiled := do
  let descriptors ← declaration.responses
  let chain ← emitResponses declarations (descriptors.map .single)
  return ⟨declaration.name, .intoResponses, chain,
    ← responsesObject (lookUp declarations) noLists chain⟩

/-- The object of the last declaration that lists responses under the name in a path. -/
def lookUpList (path : String) : Except Fault Document :=
  match findDeriving declarations .intoResponses (lastSegment path) with
  | none => .error (.nowhere (.expandUnknown path))
  | some declaration => Compiled.openapi <$> declaration.intoResponses declarations

end Outcomes

/-! ### Steps whose outcome is settled

A step takes a state and leaves one behind in every case. -/

/-- The states between two look-ups: nothing is in progress, and what is kept under a name is the
object of the last declaration with that name. -/
structure Progress.Coherent (declarations : List Declaration) (progress : Progress) : Prop where
  idle : progress.inProgress = []
  kept : ∀ name document, get? progress.compiled name = some document →
    ∃ declaration, findDeriving declarations .toResponse name = some declaration ∧
      declaration.object declarations = .ok document

/-- At the beginning nothing is kept and nothing is in progress. -/
theorem Progress.Coherent.initial (declarations : List Declaration) :
    Progress.initial.Coherent declarations where
  idle := rfl
  kept := fun _ _ kept => by cases kept

/-- The end of a step with an outcome, in a state. -/
def endIn {α : Type} (outcome : Except Fault α) (progress : Progress) :
    EStateM.Result Fault Progress α :=
  match outcome with
  | .ok value => .ok value progress
  | .error fault => .error fault progress

/-- A step that ends in the same way whatever is remembered, and remembers nothing wrong. -/
def Settled (declarations : List Declaration) {α : Type} (step : Compilation α)
    (outcome : Except Fault α) : Prop :=
  ∀ progress : Progress, progress.Coherent declarations →
    ∃ later : Progress, later.Coherent declarations ∧ step progress = endIn outcome later

namespace Settled

variable {α β : Type} {declarations : List Declaration}

/-- A value is settled. -/
theorem pure {value : α} : Settled declarations (Pure.pure value) (.ok value) :=
  fun progress coherent => ⟨progress, coherent, rfl⟩

private theorem throw {fault : Fault} :
    Settled declarations (throw fault : Compilation α) (.error fault) :=
  fun progress coherent => ⟨progress, coherent, rfl⟩

/-- A sequence of settled steps is settled.  The state between the two is coherent by the first
part, whatever it has learned. -/
theorem bind {first : Compilation α} {second : α → Compilation β} {outcome : Except Fault α}
    {further : α → Except Fault β} (firstSettled : Settled declarations first outcome)
    (secondSettled : ∀ value, Settled declarations (second value) (further value)) :
    Settled declarations (first >>= second) (outcome >>= further) := by
  intro progress coherent
  obtain ⟨middle, middleCoherent, ended⟩ := firstSettled progress coherent
  have sequence : (first >>= second) progress = EStateM.bind first second progress := rfl
  rw [sequence, EStateM.bind, ended]
  cases outcome with
  | error fault => exact ⟨middle, middleCoherent, rfl⟩
  | ok value => exact secondSettled value middle middleCoherent

/-- So is what is made of the value of a settled step. -/
theorem map {step : Compilation α} {outcome : Except Fault α}
    (settled : Settled declarations step outcome) (change : α → β) :
    Settled declarations (change <$> step) (change <$> outcome) := by
  rw [map_eq_pure_bind, map_eq_pure_bind]
  exact settled.bind fun _ => pure

/-- An outcome is settled to itself. -/
theorem outcome (outcome : Except Fault α) :
    Settled declarations (MonadExcept.ofExcept outcome) outcome := by
  cases outcome with
  | error fault => exact throw
  | ok value => exact pure

private theorem foldlM {step : β → α → Compilation β} {further : β → α → Except Fault β}
    (settled : ∀ state input, Settled declarations (step state input) (further state input))
    (inputs : List α) (state : β) :
    Settled declarations (inputs.foldlM step state) (inputs.foldlM further state) := by
  induction inputs generalizing state with
  | nil => exact pure
  | cons input rest ih =>
    rw [List.foldlM_cons, List.foldlM_cons]
    exact (settled state input).bind ih

/-! ### Look-ups

A look-up that finds what was kept gives it back, and the invariant says that this is what compiling
gives.  Otherwise it compiles, with the name in progress while it does, and keeps the result. -/

/-- Compiling the response of a declaration looks nothing up. -/
theorem compileResponse_eq (resolve : String → Compilation Document) (declaration : Declaration) :
    compileResponse declarations resolve declaration =
      MonadExcept.ofExcept (declaration.toResponse declarations) := by
  unfold compileResponse Declaration.toResponse
  cases given : declaration.response with
  | error fault =>
    rw [Declaration.chain, given]
    rfl
  | ok descriptor =>
    -- the chain is that of a response, so its object can be made without the look-ups
    have whole :
        declaration.chain declarations = emitResponse declarations descriptor.response := by
      rw [Declaration.chain, given]
      rfl
    rw [whole]
    show (do
      let chain ← MonadExcept.ofExcept (emitResponse declarations descriptor.response)
      return Compiled.mk declaration.name .toResponse chain (← responseObject resolve chain)) = _
    cases emitted : emitResponse declarations descriptor.response with
    | error fault => rfl
    | ok chain =>
      obtain ⟨object, fresh, looked⟩ :=
        Declaration.responseObject_chain (whole.trans emitted) resolve
      have alone : responseObject (m := Except Fault) noResponses chain = .ok object := by
        rw [← fresh, Declaration.object, whole, emitted]
        rfl
      show (responseObject resolve chain >>= fun object => Pure.pure
        (Compiled.mk declaration.name .toResponse chain object)) = MonadExcept.ofExcept
          (Compiled.mk declaration.name .toResponse chain <$> responseObject noResponses chain)
      rw [looked, alone]
      rfl

/-- Compiling the response of a declaration gives its object. -/
theorem toResponse_openapi (declaration : Declaration) :
    Compiled.openapi <$> declaration.toResponse declarations =
      declaration.object declarations := by
  unfold Declaration.toResponse Declaration.object
  cases declaration.chain declarations with
  | error fault => rfl
  | ok chain =>
    show Compiled.openapi <$> Compiled.mk _ _ chain <$> responseObject noResponses chain =
      responseObject noResponses chain
    rw [← comp_map]
    exact id_map _

/-- A step that is over at once is no longer in progress, whatever its outcome. -/
theorem during_outcome (name : String) (outcome : Except Fault α) {progress : Progress}
    (idle : progress.inProgress = []) :
    during name (MonadExcept.ofExcept outcome) progress = endIn outcome progress := by
  obtain ⟨compiled, inProgress⟩ := progress
  subst idle
  have left : [name].filter (· != name) = [] := by simp
  cases outcome with
  | error fault =>
    show EStateM.Result.error fault (Progress.mk compiled ([name].filter (· != name))) = _
    rw [left]
    rfl
  | ok value =>
    show EStateM.Result.ok value (Progress.mk compiled ([name].filter (· != name))) = _
    rw [left]
    rfl

/-- Keeping the object of the last declaration with a name. -/
theorem coherent_keep {progress : Progress} (coherent : progress.Coherent declarations)
    {name : String} {declaration : Declaration} {document : Document}
    (found : findDeriving declarations .toResponse name = some declaration)
    (object : declaration.object declarations = .ok document) :
    Progress.Coherent declarations
      { progress with compiled := assign progress.compiled name document } where
  idle := coherent.idle
  kept := by
    intro other kept keptThere
    rw [get?_assign] at keptThere
    split at keptThere
    · next same =>
      cases keptThere
      exact ⟨declaration, same ▸ found, object⟩
    · exact coherent.kept other kept keptThere

/-- A step that looks at the state. -/
theorem get_bind_apply {β : Type} (further : Progress → Compilation β) (progress : Progress) :
    (get >>= further) progress = further progress progress := rfl

/-- The steps of a look-up, as an equation on the state. -/
theorem resolveWithin_succ_apply (budget : Nat) (name : String) (progress : Progress) :
    resolveWithin declarations (budget + 1) name progress =
      match get? progress.compiled name with
      | some document => .ok document progress
      | none =>
        match findDeriving declarations .toResponse name with
        | none => .error (.nowhere (.inlineUnknown name)) progress
        | some declaration =>
          if progress.inProgress.contains name then
            .error (.nowhere (.inlineCycle name)) progress
          else
            match during name
              (compileResponse declarations (resolveWithin declarations budget) declaration)
              progress with
            | .error fault later => .error fault later
            | .ok compiled later => .ok compiled.openapi
              { later with compiled := assign later.compiled name compiled.openapi } := by
  rw [resolveWithin, get_bind_apply]
  cases get? progress.compiled name with
  | some document => rfl
  | none =>
    cases findDeriving declarations .toResponse name with
    | none => rfl
    | some declaration =>
      dsimp only
      rw [get_bind_apply]
      by_cases going : progress.inProgress.contains name
      · simp only [if_pos going]
        rfl
      · simp only [if_neg going]
        show EStateM.bind (during name _) _ progress = _
        rw [EStateM.bind]
        cases during name (compileResponse declarations (resolveWithin declarations budget)
          declaration) progress <;> rfl

/-- Looking up a response to be inlined gives the object of its declaration, which is kept. -/
theorem resolve (name : String) :
    Settled declarations (resolve declarations name) (lookUp declarations name) := by
  intro progress coherent
  rw [lookUp, OpenResponse.resolve, resolveWithin_succ_apply]
  -- the invariant says that what was kept is what compiling would give
  cases kept : get? progress.compiled name with
  | some document =>
    obtain ⟨declaration, found, object⟩ := coherent.kept name document kept
    rw [found]
    refine ⟨progress, coherent, ?_⟩
    show _ = endIn (declaration.object declarations) progress
    rw [object]
    rfl
  | none =>
    cases found : findDeriving declarations .toResponse name with
    | none => exact ⟨progress, coherent, rfl⟩
    | some declaration =>
      dsimp only
      rw [compileResponse_eq, during_outcome name _ coherent.idle, coherent.idle, if_neg (by simp),
        ← toResponse_openapi]
      have object : Compiled.openapi <$> declaration.toResponse declarations =
          declaration.object declarations := toResponse_openapi declaration
      cases compiled : declaration.toResponse declarations with
      | error fault => exact ⟨progress, coherent, rfl⟩
      | ok value =>
        rw [compiled] at object
        exact ⟨_, coherent_keep coherent found object.symm, rfl⟩

/-- The object of a response chain in which every response is looked up. -/
theorem responseObject (chain : Chain) :
    Settled declarations (responseObject (OpenResponse.resolve declarations) chain)
      (responseObject (lookUp declarations) chain) := by
  unfold OpenResponse.responseObject
  split
  · exact throw
  · exact pure
  · exact resolve _
  · exact pure

section Lists

variable {lists : String → Compilation Document} {outcomes : String → Except Fault Document}

private theorem responsesMember
    (expands : ∀ path, Settled declarations (lists path) (outcomes path))
    (members : Members) (instruction : Instruction) :
    Settled declarations
      (responsesMember (OpenResponse.resolve declarations) lists members instruction)
      (responsesMember (lookUp declarations) outcomes members instruction) := by
  unfold OpenResponse.responsesMember
  split
  · exact (responseObject _).bind fun _ => pure
  · exact (expands _).bind fun _ => pure
  · exact pure

/-- The object of a chain of responses in which everything is looked up. -/
theorem responsesObject (expands : ∀ path, Settled declarations (lists path) (outcomes path))
    (chain : Chain) :
    Settled declarations (responsesObject (OpenResponse.resolve declarations) lists chain)
      (responsesObject (lookUp declarations) outcomes chain) :=
  (foldlM (responsesMember expands) chain []).bind fun _ => pure

end Lists

/-- Compiling the response that a declaration is. -/
theorem compileToResponse (declaration : Declaration) :
    Settled declarations (compileToResponse declarations declaration)
      (declaration.toResponse declarations) := by
  rw [OpenResponse.compileToResponse, compileResponse_eq]
  exact outcome _

/-- Compiling the responses that a declaration lists. -/
theorem compileIntoResponses (declaration : Declaration) :
    Settled declarations (compileIntoResponses declarations declaration)
      (declaration.intoResponses declarations) :=
  (outcome _).bind fun _ => (outcome _).bind fun chain =>
    (responsesObject (fun _ => throw) chain).bind fun _ => pure

/-- Expanding the list at a path. -/
theorem expand (path : String) :
    Settled declarations (expand declarations path) (lookUpList declarations path) := by
  unfold OpenResponse.expand lookUpList
  cases findDeriving declarations .intoResponses (lastSegment path) with
  | none => exact throw
  | some declaration =>
    show Settled _ _ (Compiled.openapi <$> declaration.intoResponses declarations)
    rw [map_eq_pure_bind]
    exact (compileIntoResponses declaration).bind fun _ => pure

end Settled

/-! ### Lists of responses

The list of a declaration has single responses only, so it expands no other list. -/

section Lists

variable {m : Type → Type} [Monad m] [MonadExcept Fault m]

/-- The calls for responses that are given one by one. -/
theorem calls_of_singles {known : List Declaration} {descriptors : List ResponseDescriptor}
    {calls : Chain} (emitted : (descriptors.map .single).mapM (entryCall known) = .ok calls) :
    ∀ call ∈ calls, ∃ status response, call = .call "response" [status, .chain response] := by
  induction descriptors generalizing calls with
  | nil =>
    cases emitted
    intro call member
    cases member
  | cons descriptor rest ih =>
    rw [List.map_cons, List.mapM_cons] at emitted
    obtain ⟨first, entry, emitted⟩ := outcome_bind_eq_ok.mp emitted
    obtain ⟨others, restEmitted, same⟩ := outcome_bind_eq_ok.mp emitted
    obtain ⟨response, -, made⟩ := outcome_bind_eq_ok.mp entry
    cases same
    cases made
    exact List.forall_mem_cons.mpr ⟨⟨_, _, rfl⟩, ih restEmitted⟩

/-- The chain of a list of responses that are given one by one expands no other list. -/
theorem responsesObject_expand {known : List Declaration} {descriptors : List ResponseDescriptor}
    {chain : Chain} (emitted : emitResponses known (descriptors.map .single) = .ok chain)
    (resolve expand expand' : String → m Document) :
    responsesObject resolve expand chain = responsesObject resolve expand' chain := by
  obtain ⟨calls, made, same⟩ := outcome_bind_eq_ok.mp emitted
  cases same
  -- no call names another list, so the look-up of lists is never used
  have inert (members : Members) : ∀ call ∈ [Instruction.new] ++ calls ++ [Instruction.build],
      responsesMember resolve expand members call =
        responsesMember resolve expand' members call := by
    intro call member
    simp only [List.mem_append, List.mem_singleton] at member
    rcases member with (rfl | member) | rfl
    · rfl
    · obtain ⟨status, response, rfl⟩ := calls_of_singles made call member
      rcases status with (_ | _ | _ | _ | _ | _ | _) | _ | _ <;> rfl
    · rfl
  have folded (calls : Chain) (members : Members) (inert : ∀ members, ∀ call ∈ calls,
      responsesMember resolve expand members call =
        responsesMember resolve expand' members call) :
      calls.foldlM (responsesMember resolve expand) members =
        calls.foldlM (responsesMember resolve expand') members := by
    induction calls generalizing members with
    | nil => rfl
    | cons call rest ih =>
      rw [List.foldlM_cons, List.foldlM_cons, inert members call (by simp)]
      refine congrArg (_ >>= ·) (funext fun members => ih members fun members call member => ?_)
      exact inert members call (List.mem_cons_of_mem _ member)
  rw [responsesObject, responsesObject, folded _ _ inert]

/-- It makes no difference that lists are not expanded in the list of a declaration. -/
theorem compileIntoResponses_expand (declarations : List Declaration) (declaration : Declaration)
    (expand : String → Compilation Document) :
    compileIntoResponses declarations declaration = (do
      let descriptors ← MonadExcept.ofExcept declaration.responses
      let chain ← MonadExcept.ofExcept (emitResponses declarations (descriptors.map .single))
      return ⟨declaration.name, .intoResponses, chain,
        ← responsesObject (resolve declarations) expand chain⟩) := by
  unfold compileIntoResponses
  cases declaration.responses with
  | error fault => rfl
  | ok descriptors =>
    refine congrArg (MonadExcept.ofExcept (.ok descriptors) >>= ·) (funext fun descriptors => ?_)
    cases emitted : emitResponses declarations (descriptors.map .single) with
    | error fault => rfl
    | ok chain =>
      have same := responsesObject_expand emitted (resolve declarations) noLists expand
      exact congrArg (fun object => do
        return Compiled.mk declaration.name .intoResponses chain (← object)) same

end Lists

/-! ### Calls

Everything that a compilation can be asked for, as data, so that sequences of calls can be spoken
of. -/

/-- What a compilation can be asked for.  These are all the ways in which a state can change. -/
inductive Call
  /-- The response that a declaration is. -/
  | toResponse (declaration : Declaration)
  /-- The responses that a declaration lists. -/
  | intoResponses (declaration : Declaration)
  /-- The response with a name. -/
  | resolve (name : String)
  /-- The list of responses at a path. -/
  | expand (path : String)

/-- What a compilation answers. -/
inductive Answer
  | compiled (compiled : Compiled)
  | document (document : Document)

namespace Call

/-- Ask a compilation.  The answers of all calls have one type, so that a run is a list of calls of
any kinds. -/
def run (declarations : List Declaration) : Call → Compilation Answer
  | .toResponse declaration => .compiled <$> compileToResponse declarations declaration
  | .intoResponses declaration => .compiled <$> compileIntoResponses declarations declaration
  | .resolve name => .document <$> OpenResponse.resolve declarations name
  | .expand path => .document <$> OpenResponse.expand declarations path

/-- The answer to a call when nothing is remembered. -/
def answer (declarations : List Declaration) : Call → Except Fault Answer
  | .toResponse declaration => .compiled <$> declaration.toResponse declarations
  | .intoResponses declaration => .compiled <$> declaration.intoResponses declarations
  | .resolve name => .document <$> lookUp declarations name
  | .expand path => .document <$> lookUpList declarations path

/-- The answer to a call in a state, or its fault. -/
def outcome (declarations : List Declaration) (progress : Progress) (call : Call) :
    Except Fault Answer :=
  match call.run declarations progress with
  | .ok answer _ => .ok answer
  | .error fault _ => .error fault

/-- The state behind a call, which is kept even if the call fails. -/
def later (declarations : List Declaration) (progress : Progress) (call : Call) : Progress :=
  match call.run declarations progress with
  | .ok _ later => later
  | .error _ later => later

end Call

/-- The state behind a sequence of calls, some of which may have failed. -/
def after (declarations : List Declaration) (calls : List Call) : Progress :=
  calls.foldl (Call.later declarations) .initial

section Calls

variable {declarations : List Declaration}

/-- Every call is settled.  Its answer is a function of the declarations, and a coherent state stays
so.  This is the step of which runs are made. -/
theorem Settled.run (call : Call) :
    Settled declarations (call.run declarations) (call.answer declarations) := by
  cases call with
  | toResponse declaration => exact (compileToResponse declaration).map _
  | intoResponses declaration => exact (compileIntoResponses declaration).map _
  | resolve name => exact (resolve name).map _
  | expand path => exact (expand path).map _

/-- A call between two look-ups is answered as if nothing were remembered. -/
theorem Call.outcome_eq {progress : Progress} (coherent : progress.Coherent declarations)
    (call : Call) : call.outcome declarations progress = call.answer declarations := by
  obtain ⟨later, -, ended⟩ := Settled.run call progress coherent
  rw [Call.outcome, ended]
  cases call.answer declarations <;> rfl

/-- A call leaves a state between two look-ups behind, even if it fails. -/
theorem Call.coherent_later {progress : Progress} (coherent : progress.Coherent declarations)
    (call : Call) : (call.later declarations progress).Coherent declarations := by
  obtain ⟨later, laterCoherent, ended⟩ := Settled.run call progress coherent
  rw [Call.later, ended]
  cases call.answer declarations <;> exact laterCoherent

private theorem coherent_foldl {progress : Progress} (coherent : progress.Coherent declarations)
    (calls : List Call) :
    (calls.foldl (Call.later declarations) progress).Coherent declarations := by
  induction calls generalizing progress with
  | nil => exact coherent
  | cons call rest ih => exact ih (call.coherent_later coherent)

end Calls

/-! ### Faults

The causes of a call without memory.  A response that inlines itself is not among them. -/

/-- Whether a cause can end a call: it lies in a declaration, or something is not there. -/
def Cause.isOfCall : Cause → Bool
  | .inlineUnknown _ | .inlineWithoutResolver _ | .expandUnknown _ | .expandWithoutTypes _
  | .emptyChain => true
  | cause => cause.isOfDeclaration

/-- Causes among which are all that can end a call, but perhaps for that of a field without a
name. -/
def CoversCalls (allowed : Cause → Bool) : Prop :=
  ∀ cause, cause.isOfCall = true → cause ≠ .namelessField → allowed cause = true

section Faults

open FailsWithin

variable {allowed : Cause → Bool}

/-- The causes that lie in a declaration can end a call. -/
theorem Cause.isOfCall_of_isOfDeclaration {cause : Cause}
    (ofDeclaration : cause.isOfDeclaration = true) : cause.isOfCall = true := by
  unfold Cause.isOfCall
  split <;> first | rfl | exact ofDeclaration

/-- What covers the causes of calls covers those of declarations. -/
theorem CoversCalls.declarations (covers : CoversCalls allowed) : CoversDeclarations allowed :=
  fun cause ofDeclaration => covers cause (Cause.isOfCall_of_isOfDeclaration ofDeclaration)

variable (covers : CoversCalls allowed)

include covers

private theorem responseObject_within {look : String → Except Fault Document}
    (looked : ∀ name, FailsWithin allowed (look name)) (chain : Chain) :
    FailsWithin allowed (responseObject look chain) := by
  unfold responseObject
  split
  · exact error (covers _ rfl nofun)
  · exact ok
  · exact looked _
  · exact ok

/-- Without look-ups a response to be inlined is not found. -/
theorem noResponses_within (name : String) :
    FailsWithin allowed (noResponses (m := Except Fault) name) :=
  error (covers _ rfl nofun)

variable {known : List Declaration} (described : DescribedWithin allowed known)

include described

section Declared

variable {declaration : Declaration} (schemas : declaration.SchemasWithin allowed)

include schemas

private theorem chain_within : FailsWithin allowed (declaration.chain known) :=
  (response covers.declarations schemas).bind fun _ => FailsWithin.emitResponse described _

private theorem object_within : FailsWithin allowed (declaration.object known) :=
  (chain_within covers described schemas).bind fun _ =>
    responseObject_within covers (noResponses_within covers) _

/-- Compiling a response fails over its declaration. -/
theorem toResponse_within : FailsWithin allowed (declaration.toResponse known) :=
  (chain_within covers described schemas).bind fun _ =>
    (responseObject_within covers (noResponses_within covers) _).map

end Declared

variable (turned : ∀ declaration ∈ known, declaration.SchemasWithin allowed)

include turned

private theorem lookUp_within (name : String) : FailsWithin allowed (lookUp known name) := by
  unfold lookUp
  split
  · exact error (covers _ rfl nofun)
  next declaration found =>
    exact object_within covers described (turned _ (findDeriving_eq_some found).1)

theorem responsesObject_within {lists : String → Except Fault Document}
    (expands : ∀ path, FailsWithin allowed (lists path)) (chain : Chain) :
    FailsWithin allowed (responsesObject (lookUp known) lists chain) := by
  refine bind (foldlM (fun members instruction => ?_) chain []) fun _ => ok
  unfold responsesMember
  split
  · refine (responseObject_within covers ?_ _).bind fun _ => ok
    exact lookUp_within covers described turned
  · exact (expands _).bind fun _ => ok
  · exact ok

/-- Compiling a list fails over its declaration, or over a response that it inlines. -/
theorem intoResponses_within {declaration : Declaration}
    (schemas : declaration.SchemasWithin allowed) :
    FailsWithin allowed (declaration.intoResponses known) := by
  refine (responses covers.declarations schemas).bind fun descriptors => ?_
  refine (FailsWithin.emitResponses described _).bind fun chain => bind ?_ fun _ => ok
  have unexpanded (path : String) : FailsWithin allowed (noLists (m := Except Fault) path) :=
    error (covers _ rfl nofun)
  exact responsesObject_within covers described turned unexpanded chain

/-- A list that is looked up fails over its declaration, or because there is none. -/
theorem lookUpList_within (path : String) : FailsWithin allowed (lookUpList known path) := by
  unfold lookUpList
  split
  · exact error (covers _ rfl nofun)
  next declaration found =>
    exact (intoResponses_within covers described turned
      (turned _ (findDeriving_eq_some found).1)).map

end Faults

/-- A call fails over a declaration, or over something that is not there. -/
theorem Call.answer_isOfCall (declarations : List Declaration) (call : Call) :
    FailsWithin Cause.isOfCall (call.answer declarations) := by
  have covers : CoversCalls Cause.isOfCall := fun _ ofCall _ => ofCall
  have more {α : Type} {outcome : Except Fault α} (plain : Plain outcome) :
      FailsWithin Cause.isOfCall outcome :=
    plain.mono fun _ => Cause.isOfCall_of_isOfDeclaration
  have described : DescribedWithin Cause.isOfCall declarations :=
    fun _ declaration _ => more (Plain.declarationSchema declaration)
  have schemas (declaration : Declaration) : declaration.SchemasWithin Cause.isOfCall :=
    ⟨fun _ => more (Plain.declarationSchema _), fun _ _ _ => more (Plain.recordSchema _ _)⟩
  have turned : ∀ declaration ∈ declarations, declaration.SchemasWithin Cause.isOfCall :=
    fun declaration _ => schemas declaration
  cases call with
  | toResponse declaration => exact (toResponse_within covers described (schemas declaration)).map
  | intoResponses declaration =>
    exact (intoResponses_within covers described turned (schemas declaration)).map
  | resolve name => exact (lookUp_within covers described turned name).map
  | expand path => exact (lookUpList_within covers described turned path).map

/-- **The invariant of a compilation.**  However it was called before, and whether or not those
calls failed, nothing is in progress; what is kept under a name is the object of the last
declaration with that name; and every call ends as it does when nothing has been asked for before,
which is never with a response that inlines itself. -/
theorem coherent_after_and_outcome_eq (declarations : List Declaration) (calls : List Call)
    (call : Call) :
    (after declarations calls).Coherent declarations ∧
      call.outcome declarations (after declarations calls) =
        call.outcome declarations .initial ∧
      ∀ fault name, call.outcome declarations (after declarations calls) = .error fault →
        fault.cause ≠ .inlineCycle name := by
  have coherent : (after declarations calls).Coherent declarations :=
    coherent_foldl (.initial declarations) calls
  refine ⟨coherent, ?_, ?_⟩
  · rw [call.outcome_eq coherent, call.outcome_eq (.initial declarations)]
  · intro fault name failed circle
    rw [call.outcome_eq coherent] at failed
    have allowed := call.answer_isOfCall declarations fault failed
    rw [circle] at allowed
    cases allowed

end OpenResponse
