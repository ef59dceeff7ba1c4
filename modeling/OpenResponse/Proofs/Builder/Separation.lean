import OpenResponse.Builder.Text
import OpenResponse.Proofs.Document.Separation

/-!
# Telling chains apart by their text

A chain is written as its calls one behind the other, and a call as a method and its arguments
between parentheses.  No method has a parenthesis in its name, and an argument is a document or a
chain, which are told apart by what they begin with.  The calls of an example may be missing, but
each of them begins with another letter, so a missing one is noticed by the call behind it.

A chain that is a reference, or a response to be inlined, is written without a builder.  Inside
another chain it begins otherwise than any builder does.  A chain that stands alone may have a
builder of any name, and then it is the end of the text that differs.

Each part is shown to be told apart with anything behind it that can be behind it in a chain, and
the parts are put together in the order in which they are written.  The induction is on one of the
two chains, for a call holds other chains in its arguments: what is known of these is used for the
arguments, and what is known of the rest of the calls for what is behind.  Two chains of different
forms are told apart by their first characters, except for chains that stand alone with a builder of
any name.

## Main definitions

* `Example.FloatFree` — examples without floating point numbers
* `Legible` — chains whose text determines them
* `Unmistakable` — builders whose chains are not taken for references

## Main statements

* `callChars_append_inj` — a call is told apart by its method, and then by its arguments
* `Example.chars_append_inj` — examples are told apart, whatever is missing
* `Legible.discerned` — chains are told apart by what they begin with
* `Legible.chainText_inj` — **the text of a legible chain determines it**, whatever its builder

## Hypotheses

`Legible` lists what can be told apart: the two forms without a builder, and calls of known methods
with a document that is free of floating point numbers, perhaps with a chain behind it, or with
named examples.  A name that is inlined must be without spaces, since a space ends it.  `Legible
true` stands for the calls behind the opening one.

`Unmistakable` is what is asked of a builder.  Inside a chain the builders are fixed and begin
otherwise than a reference does; a chain that stands alone has nothing behind it, and its last
characters tell it from a reference.
-/

namespace OpenResponse

/-! ### Calls

A method ends at the first parenthesis, which no method holds. -/

/-- Texts with one mark behind each of them are told apart if they do not hold the mark. -/
theorem append_mark_inj {mark : Char} {a b x y : List Char} (notFirst : mark ∉ a)
    (notSecond : mark ∉ b) (same : a ++ mark :: x = b ++ mark :: y) : a = b ∧ x = y := by
  induction a generalizing b with
  | nil =>
    cases b with
    | nil => exact ⟨rfl, (List.cons.inj same).2⟩
    | cons d b => exact absurd ((List.cons.inj same).1 ▸ List.mem_cons_self) notSecond
  | cons c a ih =>
    cases b with
    | nil => exact absurd ((List.cons.inj same).1 ▸ List.mem_cons_self) notFirst
    | cons d b =>
      obtain ⟨rfl, rest⟩ := List.cons.inj same
      obtain ⟨rfl, behind⟩ := ih (fun listed => notFirst (List.mem_cons_of_mem _ listed))
        (fun listed => notSecond (List.mem_cons_of_mem _ listed)) rest
      exact ⟨rfl, behind⟩

/-- Calls are told apart by their methods, and then by their arguments. -/
theorem callChars_append_inj {method other : String} (plain : '(' ∉ method.toList)
    (plainToo : '(' ∉ other.toList) {x y r s : List Char}
    (same : callChars method x ++ r = callChars other y ++ s) :
    method = other ∧ x ++ ')' :: r = y ++ ')' :: s := by
  simp only [callChars, List.cons_append, List.append_assoc, List.nil_append, List.cons.injEq,
    true_and] at same
  obtain ⟨name, rest⟩ := append_mark_inj plain plainToo same
  exact ⟨String.toList_injective name, rest⟩

private theorem commaSeparated_map {α : Type} (write : α → List Char) (values : List α) :
    commaSeparated (values.map write) = listed write values := by
  induction values with
  | nil => rfl
  | cons first rest ih =>
    cases rest with
    | nil => rw [listed, List.flatMap_nil]; simp [commaSeparated]
    | cons second rest =>
      rw [commaSeparated] at ih ⊢
      rw [List.map_cons, List.map_cons, List.intercalate_cons_cons, ← List.map_cons, ih, listed,
        listed, List.flatMap_cons]
      simp only [List.cons_append, List.nil_append, List.append_assoc]

private theorem someDocumentChars_append (value : Document) (rest : List Char) :
    someDocumentChars value ++ rest =
      "Some(json!(".toList ++ (value.chars ++ ')' :: ')' :: rest) :=
  (List.append_assoc (_ ++ value.chars) _ rest).trans (List.append_assoc _ value.chars _)

/-- The documents of examples are told apart, whatever comes behind them. -/
theorem someDocumentChars_discerned {a b : Document} (free : a.FloatFree) (other : b.FloatFree) :
    Discerned someDocumentChars (fun _ => True) a b := by
  intro r s _ _ same
  rw [someDocumentChars_append, someDocumentChars_append] at same
  obtain ⟨rfl, rest⟩ := free.discerned other (noDigit_cons rfl _) (noDigit_cons rfl _)
    (List.append_cancel_left same)
  exact ⟨rfl, (List.cons.inj (List.cons.inj rest).2).2⟩

/-! ### Examples

The parts of an example are calls that may be missing.  Going from the last one to the first, the
letters with which the text can go on are collected. -/

/-- A call that is there only if there is something to call it with. -/
def optionalCall {α : Type} (method : String) (write : α → List Char) (value : Option α) :
    List Char :=
  (value.map fun value => callChars method (write value)).getD []

/-- Texts that go on with a call of a method that begins with one of some letters. -/
def CallBehind (letters : List Char) (text : List Char) : Prop :=
  ∃ letter ∈ letters, ∃ rest, text = '.' :: letter :: rest

section Optional

variable {α : Type} {method : String} {write : α → List Char} {letter : Char} {name : List Char}
  {letters : List Char}

private theorem callBehind_optionalCall (begins : method.toList = letter :: name) (value : Option α)
    {rest : List Char} (behind : CallBehind letters rest) :
    CallBehind (letter :: letters) (optionalCall method write value ++ rest) := by
  cases value with
  | none =>
    obtain ⟨first, listed, more, text⟩ := behind
    exact ⟨first, List.mem_cons_of_mem _ listed, more, text⟩
  | some value =>
    refine ⟨letter, List.mem_cons_self, name ++ '(' :: (write value ++ [')']) ++ rest, ?_⟩
    simp [optionalCall, callChars, begins]

/-- Calls that may be missing are told apart if the call behind them cannot be taken for one. -/
theorem optionalCall_discerned (begins : method.toList = letter :: name)
    (differs : letter ∉ letters) (plain : '(' ∉ method.toList) {follow : List Char → Prop}
    (ends : ∀ rest, follow (')' :: rest)) {value other : Option α}
    (each : ∀ first ∈ value, ∀ second ∈ other, Discerned write follow first second) :
    Discerned (optionalCall method write) (CallBehind letters) value other := by
  have missing (value : α) {r s : List Char} (behind : CallBehind letters s) :
      optionalCall method write (some value) ++ r ≠ s := by
    obtain ⟨first, listed, more, rfl⟩ := behind
    intro same
    simp only [optionalCall, callChars, begins, Option.map_some, Option.getD_some, List.cons_append,
      List.cons.injEq, true_and] at same
    exact differs (same.1 ▸ listed)
  intro r s first second same
  cases value with
  | none =>
    cases other with
    | none => exact ⟨rfl, same⟩
    | some other => exact absurd same.symm (missing other first)
  | some value =>
    cases other with
    | none => exact absurd same (missing value second)
    | some other =>
      obtain ⟨-, rest⟩ := callChars_append_inj plain plain same
      obtain ⟨rfl, behind⟩ := each value rfl other rfl (ends _) (ends _) rest
      exact ⟨rfl, (List.cons.inj behind).2⟩

end Optional

namespace Example

/-- An example whose value holds no floating point numbers.  Such numbers are written in a form of
their own, about which nothing is proved here. -/
def FloatFree (entry : Example) : Prop := ∀ value ∈ entry.value, value.FloatFree

instance (entry : Example) : Decidable entry.FloatFree :=
  inferInstanceAs (Decidable (∀ value ∈ entry.value, value.FloatFree))

/-- The calls of an example, with what comes behind them. -/
theorem chars_append (entry : Example) (rest : List Char) : entry.chars ++ rest =
    "ExampleBuilder::new()".toList ++ (optionalCall "summary" (quotedText true) entry.summary ++
      (optionalCall "description" (quotedText true) entry.description ++
        (optionalCall "value" someDocumentChars entry.value ++
          (optionalCall "external_value" (quotedText true) entry.externalValue ++
            (".build()".toList ++ rest))))) := by
  have assoc (a b c d e f : List Char) : a ++ b ++ c ++ d ++ e ++ f ++ rest =
      a ++ (b ++ (c ++ (d ++ (e ++ (f ++ rest))))) := by
    simp only [List.append_assoc]
  exact assoc _ _ _ _ _ _

/-- Examples are told apart, but for their names.  Their names stand in front, and are compared
where the list of examples is. -/
theorem chars_append_inj {a b : Example} (free : a.FloatFree) (other : b.FloatFree)
    (sameName : a.name = b.name) {r s : List Char} (same : a.chars ++ r = b.chars ++ s) :
    a = b ∧ r = s := by
  rw [chars_append, chars_append] at same
  have same := List.append_cancel_left same
  have strings (x y : Option String) : ∀ first ∈ x, ∀ second ∈ y,
      Discerned (quotedText true) (fun _ => True) first second :=
    fun _ _ _ _ _ _ _ _ same => quotedText_append_inj same
  -- the calls that may stand behind each call, from the last one to the first
  have build (rest : List Char) : CallBehind ['b'] (".build()".toList ++ rest) :=
    ⟨'b', List.mem_cons_self, "uild()".toList ++ rest, rfl⟩
  have external (x : Option String) (rest : List Char) :=
    @callBehind_optionalCall _ "external_value" (quotedText true) _ _ _ rfl x _ (build rest)
  have value (x : Option String) (y : Option Document) (rest : List Char) :=
    @callBehind_optionalCall _ "value" someDocumentChars _ _ _ rfl y _ (external x rest)
  have description (x z : Option String) (y : Option Document) (rest : List Char) :=
    @callBehind_optionalCall _ "description" (quotedText true) _ _ _ rfl z _ (value x y rest)
  obtain ⟨sameSummary, same⟩ := optionalCall_discerned rfl (by decide) (by decide)
    (fun _ => trivial) (strings _ _) (description _ _ _ _) (description _ _ _ _) same
  obtain ⟨sameDescription, same⟩ := optionalCall_discerned rfl (by decide) (by decide)
    (fun _ => trivial) (strings _ _) (value _ _ _) (value _ _ _) same
  obtain ⟨sameValue, same⟩ := optionalCall_discerned rfl (by decide) (by decide)
    (fun _ => trivial) (fun first isFirst second isSecond =>
      someDocumentChars_discerned (free first isFirst) (other second isSecond))
    (external _ _) (external _ _) same
  obtain ⟨sameExternal, same⟩ := optionalCall_discerned rfl (by decide) (by decide)
    (fun _ => trivial) (strings _ _) (build _) (build _) same
  refine ⟨?_, List.append_cancel_left same⟩
  obtain ⟨nameA, summaryA, descriptionA, valueA, externalA⟩ := a
  cases sameName
  cases sameSummary
  cases sameDescription
  cases sameValue
  cases sameExternal
  rfl

end Example

/-- A named example that has the name it stands under. -/
def NamedFloatFree (entry : String × Example) : Prop :=
  entry.2.name = entry.1 ∧ entry.2.FloatFree

/-- Named examples are told apart, whatever comes behind them. -/
theorem namedExampleChars_discerned {a b : String × Example} (free : NamedFloatFree a)
    (other : NamedFloatFree b) :
    Discerned (fun entry => namedExampleChars entry.1 entry.2) (fun _ => True) a b := by
  intro r s _ _ same
  simp only [namedExampleChars, List.cons_append, List.append_assoc, List.nil_append,
    List.cons.injEq, true_and] at same
  obtain ⟨sameName, same⟩ := quotedText_append_inj same
  simp only [List.cons.injEq, true_and] at same
  obtain ⟨sameExample, same⟩ := Example.chars_append_inj free.2 other.2
    (free.1.trans (sameName.trans other.1.symm)) same
  exact ⟨Prod.ext sameName sameExample, (List.cons.inj same).2⟩

/-! ### Chains

The methods are those of all calls that begin with a document.  Only the calls for named examples
begin with something else. -/

/-- The methods of calls that begin with a document. -/
def documentMethods : List String :=
  ["description", "schema", "example", "content", "header", "response",
    "responses_from_into_responses"]

/-- A chain whose text determines it.  One that is begun already goes on behind the call that opens
it. -/
inductive Legible : Bool → Chain → Prop
  | reference (name : String) : Legible false [.call "ref_from_response_name" [.string name]]
  | inlined {name : String} (isWord : ' ' ∉ name.toList) :
    Legible false [.call "inline_response" [.string name]]
  | built {opening : Instruction} {calls : Chain}
      (opens : opening = .new ∨ opening = .call "default" []) (rest : Legible true calls) :
    Legible false (opening :: calls)
  | build : Legible true [.build]
  | call {method : String} {value : Document} {inner : Option Chain} {calls : Chain}
      (known : method ∈ documentMethods) (free : value.FloatFree)
      (nested : ∀ chain ∈ inner, Legible false chain) (rest : Legible true calls) :
    Legible true (.call method (.document value :: (inner.map .chain).toList) :: calls)
  | examples {entries : List (String × Example)} {calls : Chain}
      (free : ∀ entry ∈ entries, NamedFloatFree entry) (rest : Legible true calls) :
    Legible true (.call "examples_from_iter" [.examples entries] :: calls)

namespace Legible

variable {method : String} {calls : Chain}

/-- A call with a document and nothing else. -/
theorem document (known : method ∈ documentMethods) {value : Document} (free : value.FloatFree)
    (rest : Legible true calls) : Legible true (.call method [.document value] :: calls) :=
  @call method value none calls known free (fun _ => nofun) rest

/-- A call with a document and a chain. -/
theorem nested (known : method ∈ documentMethods) {value : Document} {chain : Chain}
    (free : value.FloatFree) (inner : Legible false chain) (rest : Legible true calls) :
    Legible true (.call method [.document value, .chain chain] :: calls) := by
  refine @call method value (some chain) calls known free ?_ rest
  rintro _ ⟨⟩
  exact inner

/-- A call with a document if there is one. -/
theorem optional (known : method ∈ documentMethods) {value : Option Document}
    (free : ∀ shown ∈ value, shown.FloatFree) (rest : Legible true calls) :
    Legible true
      ((value.map fun shown => Instruction.call method [.document shown]).toList ++ calls) := by
  cases value with
  | none => exact rest
  | some shown => exact rest.document known (free shown rfl)

end Legible

/-! ### The text of a chain

The text is brought into the form in which it is compared: the name of the builder, the opening
call, and the others one by one. -/

/-- The text of a chain that is not empty. -/
def chainChars (builder : String) (chain : Chain) : List Char :=
  chainCharsWith chain (instructionsChars builder chain)

/-- The text of a chain, or of one that is begun already. -/
def partChars (builder : String) : Bool → Chain → List Char
  | false, chain => chainChars builder chain
  | true, calls => instructionsChars builder calls

/-- The text of a reference. -/
def referenceChars (name : String) : List Char :=
  "Ref::from_response_name(".toList ++ (quotedText true name ++ [')'])

/-- The text of a response that is to be inlined. -/
def inlinedChars (name : String) : List Char :=
  '<' :: (name.toList ++ " as ToResponse>::response().1".toList)

section Equations

variable (builder : String) (calls : Chain)

private theorem chainChars_reference (name : String) :
    chainChars builder [.call "ref_from_response_name" [.string name]] = referenceChars name :=
  List.append_assoc _ _ _

private theorem chainChars_inlined (name : String) :
    chainChars builder [.call "inline_response" [.string name]] = inlinedChars name := rfl

/-- The text of the call that opens a chain, behind the name of the builder. -/
def openingChars (opening : Instruction) : List Char :=
  if opening.method = "new" then "::new()".toList else "::from(Header::default())".toList

private theorem chainChars_built {opening : Instruction}
    (opens : opening = .new ∨ opening = .call "default" []) :
    chainChars builder (opening :: calls) =
      builder.toList ++ (openingChars opening ++ instructionsChars builder calls) := by
  rcases opens with rfl | rfl
  · exact List.append_assoc _ _ _
  · exact List.append_assoc _ _ _

private theorem openingChars_append_inj {opening other : Instruction}
    (opens : opening = .new ∨ opening = .call "default" [])
    (opensToo : other = .new ∨ other = .call "default" []) {x y : List Char}
    (same : openingChars opening ++ x = openingChars other ++ y) : opening = other ∧ x = y := by
  have new (rest : List Char) :
      openingChars .new ++ rest = ':' :: ':' :: 'n' :: ("ew()".toList ++ rest) := rfl
  have default (rest : List Char) : openingChars (.call "default" []) ++ rest =
      ':' :: ':' :: 'f' :: ("rom(Header::default())".toList ++ rest) := rfl
  rcases opens with rfl | rfl <;> rcases opensToo with rfl | rfl
  · exact ⟨rfl, List.append_cancel_left same⟩
  · rw [new, default] at same
    simp at same
  · rw [new, default] at same
    simp at same
  · exact ⟨rfl, List.append_cancel_left same⟩

private theorem instructionsChars_call {method : String} (known : method ∈ documentMethods)
    (args : List Argument) : instructionsChars builder (.call method args :: calls) =
      callChars method (commaSeparated (argumentsChars method args)) ++
        instructionsChars builder calls := by
  have notNew : ∀ method ∈ documentMethods, method ≠ "new" ∧ method ≠ "default" :=
    forall_mem_of_all (by decide)
  rw [instructionsChars, Instruction.chars, if_neg (notNew method known).1,
    if_neg (notNew method known).2]

private theorem instructionsChars_examples (entries : List (String × Example)) :
    instructionsChars builder (.call "examples_from_iter" [.examples entries] :: calls) =
      callChars "examples_from_iter"
        ('[' :: (listed (fun entry => namedExampleChars entry.1 entry.2) entries ++ [']'])) ++
          instructionsChars builder calls := by
  have text : commaSeparated
      (argumentsChars "examples_from_iter" [.examples entries]) =
        '[' :: (listed (fun entry => namedExampleChars entry.1 entry.2) entries ++ [']']) := by
    rw [← commaSeparated_map]
    simp [argumentsChars, commaSeparated, Argument.chars]
  rw [← text]
  rfl

end Equations

/-- The arguments of a call that begins with a document. -/
theorem argumentsChars_call (method : String) (value : Document) (inner : Option Chain) :
    commaSeparated (argumentsChars method (.document value :: (inner.map Argument.chain).toList)) =
      (Argument.document value).chars method ++
        ((inner.map fun chain =>
          ',' :: ' ' :: chainChars (nestedBuilder method) chain).getD []) := by
  cases inner with
  | none => simp [argumentsChars, commaSeparated]
  | some chain =>
    simp [argumentsChars, commaSeparated, List.intercalate_cons_cons, Argument.chars, chainChars]

/-- The document of a call is told apart in front of what is no digit. -/
theorem documentArgument_discerned (method : String) {a b : Document} (free : a.FloatFree)
    (other : b.FloatFree) :
    Discerned (fun value => (Argument.document value).chars method) NoDigit a b := by
  intro r s first second same
  simp only [Argument.chars] at same
  split at same
  · exact someDocumentChars_discerned free other trivial trivial same
  · exact free.discerned other first second same

/-- The arguments of a call are told apart, if the chains among them are. -/
theorem callArguments_append_inj {method : String} {a b : Document} (free : a.FloatFree)
    (other : b.FloatFree) {inner innerToo : Option Chain}
    (each : ∀ x ∈ inner, ∀ y ∈ innerToo,
      Discerned (chainChars (nestedBuilder method)) (fun _ => True) x y) {r s : List Char}
    (same : commaSeparated (argumentsChars method
        (.document a :: (inner.map Argument.chain).toList)) ++ ')' :: r =
      commaSeparated (argumentsChars method
        (.document b :: (innerToo.map Argument.chain).toList)) ++ ')' :: s) :
    a = b ∧ inner = innerToo ∧ r = s := by
  rw [argumentsChars_call, argumentsChars_call, List.append_assoc, List.append_assoc] at same
  have noDigit (chain : Option Chain) (text : List Char) : NoDigit
      ((chain.map fun chain => ',' :: ' ' :: chainChars (nestedBuilder method) chain).getD [] ++
        ')' :: text) := by
    cases chain <;> exact noDigit_cons rfl _
  obtain ⟨sameDocument, further⟩ := documentArgument_discerned method free other (noDigit _ _)
    (noDigit _ _) same
  refine ⟨sameDocument, ?_⟩
  cases inner with
  | none =>
    cases innerToo with
    | none => exact ⟨rfl, (List.cons.inj further).2⟩
    | some chain => cases (List.cons.inj further).1
  | some chain =>
    cases innerToo with
    | none => cases (List.cons.inj further).1
    | some chainToo =>
      simp only [Option.map_some, Option.getD_some, List.cons_append, List.cons.injEq,
        true_and] at further
      obtain ⟨rfl, closed⟩ := each chain rfl chainToo rfl trivial trivial further
      exact ⟨rfl, (List.cons.inj closed).2⟩

/-- Lists of named examples are told apart. -/
theorem examplesArgument_append_inj {entries others : List (String × Example)}
    (free : ∀ entry ∈ entries, NamedFloatFree entry)
    (freeToo : ∀ entry ∈ others, NamedFloatFree entry) {r s : List Char}
    (same : '[' :: (listed (fun entry => namedExampleChars entry.1 entry.2) entries ++ [']']) ++
        ')' :: r =
      '[' :: (listed (fun entry => namedExampleChars entry.1 entry.2) others ++ [']']) ++
        ')' :: s) :
    entries = others ∧ r = s := by
  simp only [List.cons_append, List.append_assoc, List.nil_append, List.cons.injEq,
    true_and] at same
  obtain ⟨sameEntries, rest⟩ := listed_inj ⟨by decide, fun _ => ⟨trivial, trivial⟩⟩
    (fun entry _ => ⟨'(', _, rfl, by decide⟩)
    (fun entry listed other listedToo =>
      namedExampleChars_discerned (free entry listed) (freeToo other listedToo)) same
  exact ⟨sameEntries, (List.cons.inj rest).2⟩

/-! ### Telling chains apart

Two legible chains are compared by their forms, and inside a form part by part. -/

/-- The text of a chain with a builder is not taken for a reference, nor for a response that is to
be inlined, by what follows. -/
def Unmistakable (builder : String) (follow : List Char → Prop) : Prop :=
  ∀ ⦃calls⦄, Legible true calls → ∀ ⦃r s⦄, follow r → follow s → ∀ front name,
    builder.toList ++ (front ++ instructionsChars builder calls) ++ r ≠ referenceChars name ++ s ∧
      builder.toList ++ (front ++ instructionsChars builder calls) ++ r ≠ inlinedChars name ++ s

/-- References are told apart, whatever comes behind them. -/
theorem referenceChars_append_inj {name other : String} {r s : List Char}
    (same : referenceChars name ++ r = referenceChars other ++ s) : name = other ∧ r = s := by
  have assoc (name : String) (rest : List Char) : referenceChars name ++ rest =
      "Ref::from_response_name(".toList ++ (quotedText true name ++ ')' :: rest) :=
    (List.append_assoc _ _ rest).trans
      (congrArg (_ ++ ·) (List.append_assoc (quotedText true name) [')'] rest))
  rw [assoc, assoc] at same
  obtain ⟨rfl, rest⟩ := quotedText_append_inj (List.append_cancel_left same)
  exact ⟨rfl, (List.cons.inj rest).2⟩

/-- Words to be inlined are told apart, whatever comes behind them. -/
theorem inlinedChars_append_inj {name other : String} (isWord : ' ' ∉ name.toList)
    (isWordToo : ' ' ∉ other.toList) {r s : List Char}
    (same : inlinedChars name ++ r = inlinedChars other ++ s) : name = other ∧ r = s := by
  have assoc (name : String) (rest : List Char) : inlinedChars name ++ rest =
      '<' :: (name.toList ++ ' ' :: ("as ToResponse>::response().1".toList ++ rest)) :=
    congrArg ('<' :: ·) (List.append_assoc name.toList _ rest)
  rw [assoc, assoc] at same
  obtain ⟨sameName, rest⟩ := append_mark_inj isWord isWordToo (List.cons.inj same).2
  exact ⟨String.toList_injective sameName, List.append_cancel_left rest⟩

private theorem referenceChars_ne_inlinedChars (name other : String) (r s : List Char) :
    referenceChars name ++ r ≠ inlinedChars other ++ s := by
  have first : referenceChars name ++ r =
      'R' :: ("ef::from_response_name(".toList ++ (quotedText true name ++ [')']) ++ r) := rfl
  rw [first]
  intro same
  cases (List.cons.inj same).1

/-- Chains are told apart if those that are begun are. -/
theorem Legible.discerned_of_calls {builder : String} {follow : List Char → Prop} {a b : Chain}
    (first : Legible false a) (second : Legible false b)
    (unmistakable : Unmistakable builder follow)
    (calls : ∀ opening x, a = opening :: x → Legible true x → ∀ y, Legible true y →
      Discerned (instructionsChars builder) (fun _ => True) x y) :
    Discerned (chainChars builder) follow a b := by
  intro r s firstFollows secondFollows same
  -- chains of one form are compared part by part, and no two forms have the same text
  cases first with
  | reference name =>
    rw [chainChars_reference] at same
    cases second with
    | reference other =>
      rw [chainChars_reference] at same
      obtain ⟨rfl, rest⟩ := referenceChars_append_inj same
      exact ⟨rfl, rest⟩
    | inlined isWord =>
      rw [chainChars_inlined] at same
      exact absurd same (referenceChars_ne_inlinedChars _ _ _ _)
    | built opens rest =>
      rw [chainChars_built _ _ opens] at same
      exact absurd same.symm (unmistakable rest secondFollows firstFollows _ name).1
  | @inlined name isWord =>
    rw [chainChars_inlined] at same
    cases second with
    | reference other =>
      rw [chainChars_reference] at same
      exact absurd same.symm (referenceChars_ne_inlinedChars _ _ _ _)
    | inlined isWordToo =>
      rw [chainChars_inlined] at same
      obtain ⟨rfl, rest⟩ := inlinedChars_append_inj isWord isWordToo same
      exact ⟨rfl, rest⟩
    | built opens rest =>
      rw [chainChars_built _ _ opens] at same
      exact absurd same.symm (unmistakable rest secondFollows firstFollows _ name).2
  | @built opening x opens rest =>
    rw [chainChars_built _ _ opens] at same
    cases second with
    | reference name =>
      rw [chainChars_reference] at same
      exact absurd same (unmistakable rest firstFollows secondFollows _ name).1
    | @inlined name isWord =>
      rw [chainChars_inlined] at same
      exact absurd same (unmistakable rest firstFollows secondFollows _ name).2
    | @built other y opensToo restToo =>
      rw [chainChars_built _ _ opensToo, List.append_assoc, List.append_assoc, List.append_assoc,
        List.append_assoc] at same
      obtain ⟨rfl, behind⟩ := openingChars_append_inj opens opensToo (List.append_cancel_left same)
      obtain ⟨rfl, rest⟩ := calls opening x rfl rest y restToo trivial trivial behind
      exact ⟨rfl, rest⟩

/-- A builder that begins otherwise is not taken for a reference. -/
theorem unmistakable_of_begins {builder : String} {c d e : Char} {name : List Char}
    (begins : builder.toList = c :: d :: e :: name) (notReference : [c, d, e] ≠ ['R', 'e', 'f'])
    (notInlined : c ≠ '<') (follow : List Char → Prop) : Unmistakable builder follow := by
  intro calls _ r s _ _ front other
  rw [begins]
  constructor
  · intro same
    have text : referenceChars other ++ s = 'R' :: 'e' :: 'f' ::
        ("::from_response_name(".toList ++ (quotedText true other ++ [')']) ++ s) := rfl
    rw [text] at same
    simp only [List.cons_append, List.cons.injEq] at same
    exact notReference (by rw [same.1, same.2.1, same.2.2.1])
  · intro same
    exact notInlined (List.cons.inj same).1

/-- The builders of chains that are arguments are not taken for references. -/
theorem unmistakable_nestedBuilder (method : String) :
    Unmistakable (nestedBuilder method) fun _ => True := by
  unfold nestedBuilder
  split
  · exact unmistakable_of_begins rfl (by decide) (by decide) _
  · exact unmistakable_of_begins rfl (by decide) (by decide) _
  · exact unmistakable_of_begins rfl (by decide) (by decide) _
  · exact unmistakable_of_begins rfl (by decide) (by decide) _

private theorem plain_documentMethods : ∀ method ∈ documentMethods, '(' ∉ method.toList :=
  forall_mem_of_all (by decide)

/-- The text of a chain that is begun begins with its first call. -/
theorem Legible.exists_callChars {begun : Bool} {calls : Chain} (legible : Legible begun calls)
    (isBegun : begun = true) (builder : String) :
    ∃ method argument rest, calls.head?.map Instruction.method = some method ∧
      '(' ∉ method.toList ∧
        instructionsChars builder calls = callChars method argument ++ rest := by
  cases legible with
  | reference => cases isBegun
  | inlined => cases isBegun
  | built => cases isBegun
  | build => exact ⟨"build", [], [], rfl, by decide, rfl⟩
  | call known =>
    exact ⟨_, _, _, rfl, plain_documentMethods _ known, instructionsChars_call _ _ known _⟩
  | examples =>
    exact ⟨"examples_from_iter", _, _, rfl, by decide, instructionsChars_examples _ _ _⟩

/-- Chains that are begun and have the same text begin with calls of the same method. -/
theorem Legible.method_eq {a b : Chain} (first : Legible true a) (second : Legible true b)
    {builder : String} {r s : List Char}
    (same : instructionsChars builder a ++ r = instructionsChars builder b ++ s) :
    a.head?.map Instruction.method = b.head?.map Instruction.method := by
  obtain ⟨method, argument, rest, isMethod, plain, text⟩ := first.exists_callChars rfl builder
  obtain ⟨other, argumentToo, restToo, isOther, plainToo, textToo⟩ :=
    second.exists_callChars rfl builder
  rw [text, textToo, List.append_assoc, List.append_assoc] at same
  rw [isMethod, isOther, (callChars_append_inj plain plainToo same).1]

/-- **Chains are told apart** by their texts, whatever comes behind them.  The builder is any that
cannot be mistaken, as only that of a chain in an argument is known. -/
theorem Legible.discerned {begun : Bool} {a b : Chain} (first : Legible begun a)
    (second : Legible begun b) {builder : String}
    (unmistakable : begun = false → Unmistakable builder fun _ => True) :
    Discerned (partChars builder begun) (fun _ => True) a b := by
  -- only the builder of a chain that is an argument is known, so the builder has to vary
  induction first generalizing b builder with
  | reference name =>
    refine (Legible.reference name).discerned_of_calls second (unmistakable rfl) ?_
    intro opening x split legible
    cases split
    cases legible
  | inlined isWord =>
    refine (Legible.inlined isWord).discerned_of_calls second (unmistakable rfl) ?_
    intro opening x split legible
    cases split
    cases legible
  | built opens rest ih =>
    refine (Legible.built opens rest).discerned_of_calls second (unmistakable rfl) ?_
    intro opening x split _ y legible
    cases split
    exact ih legible nofun
  | build =>
    intro r s _ _ same
    have methods := Legible.build.method_eq second same
    cases second with
    | build => exact ⟨rfl, List.append_cancel_left same⟩
    | call known =>
      cases methods
      exact absurd known (by decide)
    | examples =>
      exact absurd (Option.some.inj methods : "build" = "examples_from_iter") (by decide)
  | @call method value inner calls known free nested rest nestedIh ih =>
    intro r s _ _ same
    have methods := (Legible.call known free nested rest).method_eq second same
    cases second with
    | build =>
      cases methods
      exact absurd known (by decide)
    | @call other valueToo innerToo callsToo knownToo freeToo nestedToo restToo =>
      cases methods
      simp only [partChars] at same
      rw [instructionsChars_call _ _ known, instructionsChars_call _ _ known, List.append_assoc,
        List.append_assoc] at same
      have plain := plain_documentMethods _ known
      -- a chain that is an argument has a builder of its own, chosen by the method
      obtain ⟨rfl, rfl, behind⟩ := callArguments_append_inj free freeToo
        (fun x inside y insideToo => nestedIh x inside (nestedToo y insideToo)
          fun _ => unmistakable_nestedBuilder method) (callChars_append_inj plain plain same).2
      obtain ⟨rfl, further⟩ := ih restToo nofun trivial trivial behind
      exact ⟨rfl, further⟩
    | examples =>
      cases methods
      exact absurd known (by decide)
  | @examples entries calls free rest ih =>
    intro r s _ _ same
    have methods := (Legible.examples free rest).method_eq second same
    cases second with
    | build => exact absurd (Option.some.inj methods : "examples_from_iter" = "build") (by decide)
    | call known =>
      cases methods
      exact absurd known (by decide)
    | @examples others callsToo freeToo restToo =>
      simp only [partChars] at same
      rw [instructionsChars_examples, instructionsChars_examples, List.append_assoc,
        List.append_assoc] at same
      obtain ⟨rfl, behind⟩ := examplesArgument_append_inj free freeToo
        (callChars_append_inj (by decide) (by decide) same).2
      obtain ⟨rfl, further⟩ := ih restToo nofun trivial trivial behind
      exact ⟨rfl, further⟩

/-! ### Telling the texts of whole chains apart

Here nothing comes behind, and the builder is the same in both texts. -/

/-- A chain that is begun ends with a call without arguments. -/
theorem Legible.exists_eq_append {begun : Bool} {calls : Chain} (legible : Legible begun calls)
    (isBegun : begun = true) (builder : String) :
    ∃ front, instructionsChars builder calls = front ++ ['(', ')'] := by
  induction legible with
  | reference name => cases isBegun
  | inlined isWord => cases isBegun
  | built opens rest => cases isBegun
  | build => exact ⟨".build".toList, rfl⟩
  | call known free nested rest nestedIh ih =>
    obtain ⟨front, text⟩ := ih rfl
    exact ⟨_, by rw [instructionsChars_call _ _ known, text, ← List.append_assoc]⟩
  | examples free rest ih =>
    obtain ⟨front, text⟩ := ih rfl
    exact ⟨_, by rw [instructionsChars_examples, text, ← List.append_assoc]⟩

private theorem exists_referenceChars_eq_append (name : String) :
    ∃ front, referenceChars name = front ++ ['"', ')'] := by
  have assoc (opening text : List Char) :
      opening ++ ('"' :: (text ++ ['"']) ++ [')']) = (opening ++ '"' :: text) ++ ['"', ')'] := by
    simp
  exact ⟨_, assoc _ _⟩

private theorem exists_inlinedChars_eq_append (name : String) :
    ∃ front, inlinedChars name = front ++ ['.', '1'] := by
  have assoc (text middle : List Char) :
      '<' :: (text ++ (middle ++ ['.', '1'])) = '<' :: (text ++ middle) ++ ['.', '1'] := by
    simp
  exact ⟨_, assoc name.toList " as ToResponse>::response()".toList⟩

/-- The text of a chain with any builder does not end as a reference or a response that is to be
inlined does. -/
theorem unmistakable_alone (builder : String) : Unmistakable builder (· = []) := by
  -- nothing follows, so the texts can be compared from their ends
  rintro calls legible r s rfl rfl front name
  obtain ⟨shared, text⟩ := legible.exists_eq_append rfl builder
  have ends (mark last : Char) (differs : [mark, last] ≠ ['(', ')']) (other : List Char) :
      builder.toList ++ (front ++ instructionsChars builder calls) ++ [] ≠
        other ++ [mark, last] ++ [] := by
    rw [text, List.append_nil, List.append_nil, ← List.append_assoc, ← List.append_assoc]
    exact fun same => differs (List.append_inj_right' same rfl).symm
  obtain ⟨reference, isReference⟩ := exists_referenceChars_eq_append name
  obtain ⟨inlined, isInlined⟩ := exists_inlinedChars_eq_append name
  rw [isReference, isInlined]
  exact ⟨ends _ _ (by decide) _, ends _ _ (by decide) _⟩

private theorem Legible.chainText_eq
    {chain : Chain} (legible : Legible false chain) (builder : String) :
    chainText builder chain = .ok (String.ofList (chainChars builder chain)) := by
  cases legible <;> rfl

/-- The text of a chain with some builder determines the chain.  The builder may have any name here,
while inside of a chain its name is told by the method.
-/
theorem Legible.chainText_inj {builder : String} {a b : Chain} (first : Legible false a)
    (second : Legible false b) (same : chainText builder a = chainText builder b) : a = b := by
  rw [first.chainText_eq, second.chainText_eq] at same
  have text : chainChars builder a ++ [] = chainChars builder b ++ [] := by
    rw [String.ofList_injective (Except.ok.inj same)]
  exact (first.discerned_of_calls second (unmistakable_alone builder)
    (fun _ _ _ legible _ legibleToo => legible.discerned legibleToo nofun) rfl rfl text).1

end OpenResponse
