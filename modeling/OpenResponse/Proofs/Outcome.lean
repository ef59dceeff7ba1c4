import Mathlib.Data.List.Forall2

/-!
# Outcomes

An outcome is a value or a failure.  A program of several steps, or one that takes a step for every
member of a list, has a value exactly if all its steps have.  It fails where the first of them does
that fails, so programs that make different things of the values of the same steps fail alike.

These laws are what the theory of declarations and documents is put together with.  A function that
makes a record of the parts of a declaration is a sequence of steps, and to say when it succeeds is
to say it of the steps; to say how it fails is to find the first step that does.

## Main definitions

* `FailAlike` — outcomes that differ in their values alone

## Main statements

* `outcome_bind_eq_ok`, `map_eq_ok` — when a sequence of two steps has a value
* `mapM_eq_ok`, `exists_mapM_eq_ok` — when the steps of a list have values
* `FailAlike.bind`, `FailAlike.mapM` — sequences and lists of steps that fail alike

## Design notes

`FailAlike` compares outcomes of different types.  It is an equivalence between faults rather than
an implication, so from it follows as well when both succeed.  That is what makes it enough to
compare a function with a simpler one that has the same steps.
-/

namespace OpenResponse

variable {ε α β : Type}

/-! ### Single steps

A sequence has a value if its steps have, and each value is named. -/

/-- An outcome that is not a failure has a value. -/
theorem exists_of_isOk {outcome : Except ε α} (succeeds : outcome.isOk = true) :
    ∃ value, outcome = .ok value := by
  cases outcome with
  | error fault => cases succeeds
  | ok value => exact ⟨value, rfl⟩

/-- A sequence of two steps succeeds if both do.  It takes a `do` block apart step by step, without
unfolding what a sequence is. -/
theorem outcome_bind_eq_ok {first : Except ε α} {second : α → Except ε β} {value : β} :
    first >>= second = .ok value ↔ ∃ inner, first = .ok inner ∧ second inner = .ok value := by
  cases first with
  | error fault =>
    refine ⟨fun failed => ?_, ?_⟩
    · cases failed
    · rintro ⟨_, failed, _⟩
      cases failed
  | ok inner =>
    refine ⟨fun read => ⟨inner, rfl, read⟩, ?_⟩
    rintro ⟨_, same, read⟩
    cases same
    exact read

/-- What is made of a value is there if the value is. -/
theorem map_eq_ok {first : Except ε α} {change : α → β} {value : β} :
    change <$> first = .ok value ↔ ∃ inner, first = .ok inner ∧ change inner = value := by
  cases first with
  | error fault =>
    constructor
    · intro failed
      cases failed
    · rintro ⟨_, failed, -⟩
      cases failed
  | ok inner =>
    constructor
    · intro done
      cases done
      exact ⟨inner, rfl, rfl⟩
    · rintro ⟨_, same, rfl⟩
      cases same
      rfl

/-- Making something of a value does not fail. -/
theorem map_eq_error {first : Except ε α} {change : α → β} {fault : ε} :
    change <$> first = .error fault ↔ first = .error fault := by
  cases first with
  | error other =>
    constructor <;>
    · rintro ⟨⟩
      rfl
  | ok value => exact iff_of_false nofun nofun

/-- What is made of a value is there if the value is. -/
theorem exists_bind_pure_eq_ok {first : Except ε α} {change : α → β} :
    (∃ value, (first >>= fun inner => pure (change inner)) = .ok value) ↔
      ∃ inner, first = .ok inner := by
  cases first with
  | error fault =>
    constructor
    · rintro ⟨_, failed⟩
      cases failed
    · rintro ⟨_, failed⟩
      cases failed
  | ok inner => exact ⟨fun _ => ⟨inner, rfl⟩, fun _ => ⟨change inner, rfl⟩⟩

/-! ### Lists of steps

The steps of a list are taken from the left, and the first failure ends them.  The values are
related to the inputs one by one. -/

section Lists

variable {step : α → Except ε β} {inputs : List α}

/-- A list of steps succeeds if every step does.  The values are related to the inputs one by one,
which also says that there are as many of them. -/
theorem mapM_eq_ok {values : List β} :
    inputs.mapM step = .ok values ↔
      List.Forall₂ (fun input value => step input = .ok value) inputs values := by
  induction inputs generalizing values with
  | nil =>
    rw [List.forall₂_nil_left_iff]
    constructor
    · intro done
      cases done
      rfl
    · rintro rfl
      rfl
  | cons input inputs ih =>
    rw [List.mapM_cons, outcome_bind_eq_ok, List.forall₂_cons_left_iff]
    constructor
    · rintro ⟨value, first, done⟩
      obtain ⟨others, rest, same⟩ := outcome_bind_eq_ok.mp done
      cases same
      exact ⟨value, others, first, ih.mp rest, rfl⟩
    · rintro ⟨value, others, first, rest, rfl⟩
      exact ⟨value, first, outcome_bind_eq_ok.mpr ⟨others, ih.mpr rest, rfl⟩⟩

/-- All steps of a list succeed together if they do one by one.  It forgets the values; where they
matter, `mapM_eq_ok` has them. -/
theorem exists_mapM_eq_ok :
    (∃ values, inputs.mapM step = .ok values) ↔
      ∀ input ∈ inputs, ∃ value, step input = .ok value := by
  induction inputs with
  | nil =>
    refine ⟨fun _ input listed => ?_, fun _ => ⟨[], rfl⟩⟩
    cases listed
  | cons input inputs ih =>
    rw [List.forall_mem_cons, ← ih]
    simp only [mapM_eq_ok, List.forall₂_cons_left_iff]
    constructor
    · rintro ⟨_, value, others, first, rest, rfl⟩
      exact ⟨⟨value, first⟩, others, rest⟩
    · rintro ⟨⟨value, first⟩, others, rest⟩
      exact ⟨value :: others, value, others, first, rest, rfl⟩

/-- A list of steps fails over one of them. -/
theorem exists_of_mapM_eq_error {fault : ε} (failed : inputs.mapM step = .error fault) :
    ∃ input ∈ inputs, step input = .error fault := by
  induction inputs with
  | nil => cases failed
  | cons input rest ih =>
    rw [List.mapM_cons] at failed
    cases first : step input with
    | error other =>
      rw [first] at failed
      cases failed
      exact ⟨input, List.mem_cons_self, first⟩
    | ok value =>
      rw [first] at failed
      have behind : rest.mapM step = .error fault := map_eq_error.mp failed
      obtain ⟨later, listed, isFault⟩ := ih behind
      exact ⟨later, List.mem_cons_of_mem _ listed, isFault⟩

/-- Steps that are a test and a function are so for a list. -/
theorem mapM_eq_ok_map {test : α → Prop} {change : α → β}
    (each : ∀ input value, step input = .ok value ↔ test input ∧ value = change input)
    {values : List β} :
    inputs.mapM step = .ok values ↔
      (∀ input ∈ inputs, test input) ∧ values = inputs.map change := by
  rw [mapM_eq_ok]
  simp only [each]
  induction inputs generalizing values with
  | nil => simp
  | cons input rest ih =>
    rw [List.forall₂_cons_left_iff, List.forall_mem_cons, List.map_cons]
    constructor
    · rintro ⟨value, others, ⟨first, rfl⟩, related, rfl⟩
      obtain ⟨tested, rfl⟩ := ih.mp related
      exact ⟨⟨first, tested⟩, rfl⟩
    · rintro ⟨⟨first, tested⟩, rfl⟩
      exact ⟨_, _, ⟨first, rfl⟩, ih.mpr ⟨tested, rfl⟩, rfl⟩

/-- Lists of steps with the same outcomes have the same outcome. -/
theorem mapM_congr {other : α → Except ε β} (same : ∀ input ∈ inputs, step input = other input) :
    inputs.mapM step = inputs.mapM other := by
  induction inputs with
  | nil => rfl
  | cons input rest ih =>
    rw [List.forall_mem_cons] at same
    rw [List.mapM_cons, List.mapM_cons, same.1, ih same.2]

/-- Members of related lists are related to members of each other. -/
theorem mem_of_forall₂ {R : α → β → Prop} {values : List β}
    (related : List.Forall₂ R inputs values) :
    (∀ input ∈ inputs, ∃ value ∈ values, R input value) ∧
      ∀ value ∈ values, ∃ input ∈ inputs, R input value := by
  induction related with
  | nil => exact ⟨fun _ listed => (List.not_mem_nil listed).elim,
      fun _ listed => (List.not_mem_nil listed).elim⟩
  | cons first _ ih =>
    obtain ⟨values, inputs⟩ := ih
    constructor
    · refine List.forall_mem_cons.mpr ⟨⟨_, List.mem_cons_self, first⟩, fun input listed => ?_⟩
      obtain ⟨value, valueListed, related⟩ := values input listed
      exact ⟨value, List.mem_cons_of_mem _ valueListed, related⟩
    · refine List.forall_mem_cons.mpr ⟨⟨_, List.mem_cons_self, first⟩, fun value listed => ?_⟩
      obtain ⟨input, inputListed, related⟩ := inputs value listed
      exact ⟨input, List.mem_cons_of_mem _ inputListed, related⟩

/-- A list of steps that is put together around one of them. -/
theorem mapM_append_cons (step : α → Except ε β) (front : List α) (input : α) (back : List α) :
    (front ++ input :: back).mapM step = (do
      let before ← front.mapM step
      let value ← step input
      let behind ← back.mapM step
      return before ++ value :: behind) := by
  rw [List.mapM_append, List.mapM_cons]
  simp only [bind_assoc, pure_bind]

end Lists

/-- Applying a function to every outcome of a list of steps. -/
theorem mapM_map_outcome {ε α β γ : Type} (step : α → Except ε β) (change : β → γ)
    (inputs : List α) :
    inputs.mapM (fun input => change <$> step input) = List.map change <$> inputs.mapM step := by
  induction inputs with
  | nil => rfl
  | cons input rest ih =>
    rw [List.mapM_cons, List.mapM_cons, ih]
    cases step input with
    | error fault => rfl
    | ok outcome => cases rest.mapM step <;> rfl

/-! ### Failures

What follows a step may differ between two sequences, as long as it fails alike for all values that
the step can have. -/

/-- Two outcomes of which one fails exactly if the other does, and over the same fault. -/
def FailAlike {ε α β : Type} (first : Except ε α) (second : Except ε β) : Prop :=
  ∀ fault, first = .error fault ↔ second = .error fault

namespace FailAlike

variable {ε α β γ δ : Type}

/-- Two values do not fail. -/
theorem ok {value : α} {other : β} :
    FailAlike (.ok value : Except ε α) (.ok other : Except ε β) :=
  fun _ => iff_of_false nofun nofun

/-- An outcome fails as it does itself. -/
theorem refl (outcome : Except ε α) : FailAlike outcome outcome := fun _ => .rfl

/-- Of two outcomes that fail alike one has a value if the other has one. -/
theorem exists_ok {first : Except ε α} {second : Except ε β} (alike : FailAlike first second) :
    (∃ value, first = .ok value) ↔ ∃ value, second = .ok value := by
  cases first with
  | error fault =>
    rw [(alike fault).mp rfl]
    exact iff_of_false nofun nofun
  | ok value =>
    cases second with
    | error fault => cases (alike fault).mpr rfl
    | ok other => exact iff_of_true ⟨value, rfl⟩ ⟨other, rfl⟩

/-- Sequences whose steps fail alike, whatever the values of the first ones are. -/
theorem bind {first : Except ε α} {second : Except ε β} {further : α → Except ε γ}
    {beyond : β → Except ε δ} (alike : FailAlike first second)
    (furtherAlike : ∀ value other, FailAlike (further value) (beyond other)) :
    FailAlike (first >>= further) (second >>= beyond) := by
  cases first with
  | error fault =>
    rw [(alike fault).mp rfl]
    intro other
    constructor <;>
    · rintro ⟨⟩
      rfl
  | ok value =>
    cases second with
    | error fault => cases (alike fault).mpr rfl
    | ok other => exact furtherAlike value other

/-- Making something of a value changes no failure. -/
theorem bind_pure_left {first : Except ε α} {second : Except ε β} (alike : FailAlike first second)
    (change : α → γ) : FailAlike (first >>= fun value => pure (change value)) second := by
  intro fault
  rw [← map_eq_pure_bind, map_eq_error]
  exact alike fault

section Lists

variable {step : α → Except ε β}

/-- Lists of steps that fail alike one by one fail alike.  This is how a law about one field becomes
one about all fields of a struct. -/
theorem mapM {other : α → Except ε γ} {inputs : List α}
    (each : ∀ input ∈ inputs, FailAlike (step input) (other input)) :
    FailAlike (inputs.mapM step) (inputs.mapM other) := by
  induction inputs with
  | nil => exact ok
  | cons input rest ih =>
    rw [List.forall_mem_cons] at each
    rw [List.mapM_cons, List.mapM_cons]
    exact each.1.bind fun _ _ => (ih each.2).bind fun _ _ => ok

/-- A list of a single step. -/
theorem singleton (input : α) (change : β → γ) :
    FailAlike (step input >>= fun value => pure (change value)) ([input].mapM step) := by
  rw [List.mapM_cons]
  exact (refl _).bind fun _ _ => ok

/-- Lists of steps, taken one after the other. -/
theorem flatMap (parts : γ → List α) (inputs : List γ) :
    FailAlike (inputs.mapM fun input => (parts input).mapM step)
      ((inputs.flatMap parts).mapM step) := by
  induction inputs with
  | nil => exact ok
  | cons input rest ih =>
    rw [List.mapM_cons, List.flatMap_cons, List.mapM_append]
    exact (refl _).bind fun _ _ => ih.bind fun _ _ => ok

end Lists

end FailAlike

end OpenResponse
