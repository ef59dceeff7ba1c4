import OpenResponse.Proofs.Document.Writing
import OpenResponse.Proofs.Response.Keys
import OpenResponse.Proofs.TypeRef.Writing

/-!
# Writing responses

A response descriptor is written as one list of keys between parentheses.  The style decides, at
every place apart, whether a list ends in a comma, whether the equals sign in front of a group is
there, whether a single content type stands between brackets, and whether a description, headers or
content that say nothing are written at all.  Reading the tuple gives the descriptor back, whatever
the style and however the symbols are laid out.  What is absent stays apart from what is empty.

For each part there is a function into symbols, and the form of the part is shown to be written with
them.  This goes by the rules for forms, part by part, in the order of the readers.  The keys of a
tuple need one thing more: the settings that are written, made one after the other, must come to the
value from which they were taken.  So a value is made from nothing by its own settings, and those
that are left out were to make no change.

## Main definitions

* `ResponseDescriptor.Writable` — the descriptors that a tuple can denote
* `ResponseDescriptor.symbols` — the tuples that denote them

## Main statements

* `readResponseTuple_symbols` — **every tuple that is written for a descriptor is read as it**

## Hypotheses

Types have to be made of names, a status has to be a range or a numeral, and a body must not be a
schema that was made from a declaration, because there is no syntax for one.  A descriptor without a
status cannot be written, as a tuple must give one.  Integers in documents are short enough to be
shown, and no object gives a name twice, as none does that is read.  The one thing that tuples
denote and that is left out are floating point numbers, for which no literal is chosen.

Strings are arbitrary: whatever a description, a content type or the name of a header holds, it can
be written as a literal.
-/

namespace OpenResponse

/-! ### Statuses

A numeral is written as a number and a range as a string.  That no numeral is a range is what makes
the symbol depend on the status alone. -/

/-- A status that can be written: a numeral that is not too long, or the string of a range. -/
def IsStatus (status : String) : Prop :=
  statusRanges.contains status = true ∨
    ∃ n, status = Nat.repr n ∧ (Nat.repr n).length ≤ decimalLimit

/-- The symbol of a status. -/
def statusSymbol (status : String) : Symbol :=
  if statusRanges.contains status then .text status else ⟨.integer, status⟩

/-- The string of a range does not consist of digits. -/
theorem exists_letter_of_mem_statusRanges {range : String} (listed : range ∈ statusRanges) :
    ∃ c ∈ range.toList, c ∉ asciiDigits := by
  have letter : ∀ range ∈ statusRanges, (range.toList.any fun c => c ∉ asciiDigits) = true :=
    forall_mem_of_all (by decide)
  obtain ⟨c, inRange, notDigit⟩ := List.any_eq_true.mp (letter range listed)
  exact ⟨c, inRange, of_decide_eq_true notDigit⟩

/-- No numeral is the string of a range. -/
theorem not_contains_statusRanges (n : Nat) : statusRanges.contains (Nat.repr n) = false := by
  rw [Bool.eq_false_iff]
  intro listed
  obtain ⟨c, inRange, notDigit⟩ :=
    exists_letter_of_mem_statusRanges (List.contains_iff_mem.mp listed)
  exact notDigit (mem_asciiDigits_of_mem_repr inRange)

/-- A status is written with its symbol. -/
theorem writes_status {status : String} (isStatus : IsStatus status) :
    statusForm.Writes [statusSymbol status] status := by
  rcases isStatus with range | ⟨n, rfl, short⟩
  · rw [statusSymbol, if_pos range]
    refine .right (.left (.textBind ⟨fun _ listed => (by cases listed), fun tokens same => ?_⟩))
    refine ⟨List.map_eq_nil_iff.mp same, ?_⟩
    rw [Option.filter_some, if_pos range]
  · rw [statusSymbol, if_neg (by rw [not_contains_statusRanges]; decide)]
    refine .left (.tokenBind (Symbol.spelled_numeral n)
      ⟨fun _ listed => (by cases listed), fun tokens same => ?_⟩)
    refine ⟨List.map_eq_nil_iff.mp same, ?_⟩
    have small := lt_pow_of_length_repr (by decide) short
    generalize Nat.pow 10 decimalLimit = limit at small
    rw [readInteger?_repr short, Option.filter_some, if_pos (decide_eq_true small)]
    rfl

/-! ### Groups

The style of a group is asked in three places: for the equals sign, for the comma behind the last
item, and in each item. -/

/-- A string behind an equals sign. -/
def assignedSymbols (text : String) : List Symbol := [.mark '=', .text text]

private theorem writes_assignedString (text : String) :
    assignedStringForm.Writes (assignedSymbols text) text :=
  .markBind rfl (.token (Symbol.spelled_text text))

/-- A group, in front of which an equals sign may stand. -/
def groupSymbols {α : Type} (write : Style → α → List Symbol) (style : Style) (values : List α) :
    List Symbol :=
  (if (style.part 0).here then [.mark '='] else []) ++
    .mark '(' ::
      (punctuate (style.part 1).here (writeEach write (style.part 2) values) ++ [.mark ')'])

private theorem writes_group {α : Type} {form : Form α} {write : Style → α → List Symbol}
    {values : List α} (written : ∀ value ∈ values, ∀ style, form.Writes (write style value) value)
    (style : Style) :
    Form.Writes (do let _ ← Form.optional .equals; groupForm form) (groupSymbols write style values)
      values :=
  .optionalBind (Symbol.spelled_mark (c := '=') rfl) rfl _
    (.group (forall₂_writeEach written _) _)

/-- A list in front of which an item of another sort stands. -/
theorem punctuate_cons (trailing : Bool) (item : List Symbol) (more : List (List Symbol)) :
    punctuate trailing (item :: more) =
      item ++
        ((if !more.isEmpty || trailing then [.mark ','] else []) ++ punctuate trailing more) := by
  cases more with
  | nil => cases trailing <;> simp [punctuate]
  | cons second rest => simp [punctuate]

/-! ### Bodies and content types

One content type alone may stand with brackets or without.  A list of none has brackets always. -/

/-- A body that can be written.  A schema that was made of a declaration cannot: no text stands for
it. -/
inductive Body.Writable : Body → Prop
  | reference (target : String) : Writable (.reference target)
  | typed {type : InlineType} (wellFormed : type.type.WellFormed) : Writable (.typed type)

/-- The symbols of a body.  A type is marked if its schema is to be written out. -/
def Body.symbols (style : Style) : Body → List Symbol
  | .reference target => [.word "ref", .mark '(', .text target, .mark ')']
  | .typed type => type.symbols style
  | .schema _ _ => []

private theorem Body.Writable.writes {body : Body} (writable : body.Writable) (style : Style) :
    bodyForm.Writes (body.symbols style) body := by
  cases writable with
  | reference target =>
    exact .left (.wordBind (by decide) (.markBind rfl (.textBind (.markBind rfl (.pure _)))))
  | typed wellFormed => exact .right ((InlineType.writes wellFormed style).bindPure _)

/-- String literals between brackets. -/
def bracketSymbols (trailing : Bool) (texts : List String) : List Symbol :=
  .mark '[' :: (punctuate trailing (texts.map ([.text ·])) ++ [.mark ']'])

/-- The symbols of content types.  One alone may stand without brackets. -/
def contentTypeSymbols (style : Style) : List String → List Symbol
  | [type] =>
    .mark '=' :: if (style.part 0).here then [.text type] else bracketSymbols style.here [type]
  | types => .mark '=' :: bracketSymbols style.here types

private theorem writes_contentTypes (style : Style) (types : List String) :
    contentTypesForm.Writes (contentTypeSymbols style types) types := by
  have bracketed (types : List String) : Form.Writes
      (do let _ ← Form.token .openBracket; listForm .closeBracket (Form.token .string))
      (bracketSymbols style.here types) types := by
    refine .markBind rfl (.list rfl ?_ style.here)
    refine List.forall₂_map_left_iff.mpr (List.forall₂_same.mpr fun text _ => ?_)
    exact .token (Symbol.spelled_text text)
  unfold contentTypeSymbols
  split
  next type =>
    refine .markBind rfl ?_
    split
    · exact .left (.textBind (.pure _))
    · exact .right (bracketed [type])
  next => exact .markBind rfl (.right (bracketed types))

/-! ### Headers

The comma behind a header without a description, and the one behind a description, are both asked of
the same place of the style; only one of them can be there. -/

/-- A header that can be written.  Its type, if it has one, can be written. -/
def Header.Writable (header : Header) : Prop :=
  ∀ type ∈ header.type, type.type.WellFormed

/-- A comma, if the style has it. -/
def commaSymbols (there : Bool) : List Symbol := if there then [.mark ','] else []

private theorem writes_comma {β : Type} {further : Bool → Form β} {result : β} {back : List Symbol}
    (there : Bool) (rest : (further there).Writes back result) :
    (Form.optional .comma >>= further).Writes (commaSymbols there ++ back) result :=
  .optionalBind (Symbol.spelled_mark (c := ',') rfl) rfl there rest

private theorem writes_lastComma {β : Type} (there : Bool) (result : β) :
    Form.Writes (do let _ ← Form.optional .comma; return result) (commaSymbols there) result := by
  rw [← List.append_nil (commaSymbols there)]
  exact writes_comma there (.pure result)

/-- The symbols of the description of a header, in front of which a comma stands. -/
def headerDescriptionSymbols (trailing : Bool) : Option String → List Symbol
  | none => commaSymbols trailing
  | some text => .mark ',' :: .word "description" :: (assignedSymbols text ++ commaSymbols trailing)

private theorem writes_headerDescription (trailing : Bool) (description : Option String) :
    headerDescriptionForm.Writes (headerDescriptionSymbols trailing description) description := by
  cases description with
  | none =>
    rw [headerDescriptionSymbols, ← List.append_nil (commaSymbols trailing)]
    refine writes_comma trailing ?_
    cases trailing with
    | true => exact .right (.pure none)
    | false => exact .pure none
  | some text =>
    have described : Form.Writes (do
        let description ← assignedStringForm
        let _ ← Form.optional .comma
        return some description) (assignedSymbols text ++ commaSymbols trailing) (some text) :=
      (writes_assignedString text).bind (writes_lastComma trailing _)
    exact writes_comma true (.left (.wordBind (by decide) described))

/-- The symbols of a type, if one is given. -/
def givenTypeSymbols (style : Style) : Option InlineType → List Symbol
  | none => []
  | some type => type.symbols style

/-- The symbols of a header.  What is absent is left out, and what is present is written even if it
is empty. -/
def Header.symbols (style : Style) (header : Header) : List Symbol :=
  .mark '(' :: .text header.name :: ((if header.type.isSome then [.mark '='] else []) ++
    (givenTypeSymbols (style.part 0) header.type ++
      (headerDescriptionSymbols style.here header.description ++ [.mark ')'])))

private theorem Header.Writable.writes
    {header : Header} (writable : header.Writable) (style : Style) :
    headerForm.Writes (header.symbols style) header := by
  have equals : (Symbol.mark '=').Spelled := Symbol.spelled_mark rfl
  have given : (givenTypeForm header.type.isSome).Writes
      (givenTypeSymbols (style.part 0) header.type) header.type := by
    cases typed : header.type with
    | none => exact .pure none
    | some type => exact (InlineType.writes (writable type typed) _).map some
  refine .markBind rfl (.textBind (.optionalBind equals rfl _ (given.bind ?_)))
  exact (writes_headerDescription _ _).bind (.markBind rfl (.pure _))

/-! ### Examples

An example is written with those keys that it has.  The changes that the keys make are listed in the
same order and make the example out of its name. -/

/-- A list of at most one value is related to what is made of it. -/
theorem forall₂_toList_map {α β γ : Type} {R : β → γ → Prop} {given : Option α} {f : α → β}
    {g : α → γ} (related : ∀ value ∈ given, R (f value) (g value)) :
    List.Forall₂ R (given.map f).toList (given.map g).toList := by
  cases given with
  | none => exact .nil
  | some value => exact .cons (related value rfl) .nil

/-- Changes that are made one after the other. -/
theorem applyAll_applyChange {σ : Type} {placed : List (Location × (σ → σ))}
    {changes : List (σ → σ)} (same : placed.map Prod.snd = changes) (state : σ) :
    applyAll applyChange placed state =
      some (changes.foldl (fun state change => change state) state) := by
  subst same
  induction placed generalizing state with
  | nil => rfl
  | cons entry rest ih => exact ih _

/-- A named example that can be written.  Its value, if it has one, can be written. -/
def Example.Writable (entry : Example) : Prop := ∀ value ∈ entry.value, value.Writable

/-- The keys of a named example with what is written behind them. -/
def Example.entries (style : Style) (entry : Example) : List (List Symbol) :=
  (entry.summary.map fun text => .word "summary" :: assignedSymbols text).toList ++
  (entry.description.map fun text => .word "description" :: assignedSymbols text).toList ++
  (entry.value.map fun value => .word "value" :: exampleSymbols style value).toList ++
  (entry.externalValue.map fun text => .word "external_value" :: assignedSymbols text).toList

/-- What the keys of a named example change. -/
def Example.changes (entry : Example) : List (Example → Example) :=
  (entry.summary.map fun text (entry : Example) => { entry with summary := some text }).toList ++
  (entry.description.map fun text (entry : Example) =>
    { entry with description := some text }).toList ++
  (entry.value.map fun value (entry : Example) => { entry with value := some value }).toList ++
  (entry.externalValue.map fun text (entry : Example) =>
    { entry with externalValue := some text }).toList

/-- The changes make the example of its name. -/
theorem Example.foldl_changes (entry : Example) :
    entry.changes.foldl (fun state change => change state) ⟨entry.name, none, none, none, none⟩ =
      entry := by
  obtain ⟨name, summary, description, value, externalValue⟩ := entry
  cases summary <;> cases description <;> cases value <;> cases externalValue <;> rfl

/-- The symbols of a named example.  Its keys come in a fixed order, and absent ones are left out.
-/
def Example.symbols (style : Style) (entry : Example) : List Symbol :=
  .mark '(' :: .text entry.name :: .mark '=' :: .mark '(' ::
    (punctuate (style.part 0).here (entry.entries (style.part 1)) ++
      .mark ')' :: (commaSymbols style.here ++ [.mark ')']))

private theorem Example.Writable.writes
    {entry : Example} (writable : entry.Writable) (style : Style) :
    namedExampleForm.Writes (entry.symbols style) entry := by
  have entries : List.Forall₂ (entryItem exampleTable).Writes (entry.entries (style.part 1))
      entry.changes := by
    refine List.rel_append (List.rel_append (List.rel_append ?_ ?_) ?_) ?_
    · exact forall₂_toList_map fun text _ =>
        .entry (by decide) rfl ((writes_assignedString text).map _)
    · exact forall₂_toList_map fun text _ =>
        .entry (by decide) rfl ((writes_assignedString text).map _)
    · exact forall₂_toList_map fun value given =>
        .entry (by decide) rfl ((writes_exampleValue (writable value given) _).map _)
    · exact forall₂_toList_map fun text _ =>
        .entry (by decide) rfl ((writes_assignedString text).map _)
  have keys : (keysForm exampleTable applyChange ⟨entry.name, none, none, none, none⟩).Writes
      (punctuate (style.part 0).here (entry.entries (style.part 1))) entry := by
    refine .keys entries (fun placed same => ?_) _
    rw [applyAll_applyChange same, Example.foldl_changes]
  refine .markBind rfl (.textBind (.markBind rfl (.markBind rfl (keys.bind ?_))))
  exact .markBind rfl (writes_comma _ (.markBind rfl (.pure _)))

/-! ### Content by content type

A variant is written as a list whose first item is its body, so that one comma law serves for the
comma behind the body and for those between the keys. -/

/-- A content variant that can be written.  Its body and its examples can be written. -/
structure ContentVariant.Writable (variant : ContentVariant) : Prop where
  body : variant.body.Writable
  sample : ∀ value ∈ variant.sample, value.Writable
  examples : ∀ entries ∈ variant.examples, ∀ entry ∈ entries, entry.Writable

/-- The keys of a content variant with what is written behind them. -/
def ContentVariant.entries (style : Style) (variant : ContentVariant) : List (List Symbol) :=
  (variant.sample.map fun value => .word "example" :: exampleSymbols (style.part 0) value).toList ++
  (variant.examples.map fun entries =>
    .word "examples" :: groupSymbols Example.symbols (style.part 1) entries).toList

/-- What the keys of a content variant change. -/
def ContentVariant.changes (variant : ContentVariant) : List (ContentVariant → ContentVariant) :=
  (variant.sample.map fun value (variant : ContentVariant) =>
    { variant with sample := some value }).toList ++
  (variant.examples.map fun entries (variant : ContentVariant) =>
    { variant with examples := some entries }).toList

private theorem ContentVariant.foldl_changes (variant : ContentVariant) :
    variant.changes.foldl (fun state change => change state)
      ⟨variant.contentType, variant.body, none, none⟩ = variant := by
  obtain ⟨contentType, body, sample, examples⟩ := variant
  cases sample <;> cases examples <;> rfl

/-- The symbols of a content variant.  Its examples come behind the body, each under its key. -/
def ContentVariant.symbols (style : Style) (variant : ContentVariant) : List Symbol :=
  .mark '(' :: .text variant.contentType :: .mark '=' ::
    (punctuate style.here
      (variant.body.symbols (style.part 0) :: variant.entries (style.part 1)) ++ [.mark ')'])

private theorem ContentVariant.Writable.writes
    {variant : ContentVariant} (writable : variant.Writable)
    (style : Style) : contentVariantForm.Writes (variant.symbols style) variant := by
  have entries : List.Forall₂ (entryItem variantTable).Writes (variant.entries (style.part 1))
      variant.changes := by
    refine List.rel_append ?_ ?_
    · exact forall₂_toList_map fun value given =>
        .entry (by decide) rfl ((writes_exampleValue (writable.sample value given) _).map _)
    · exact forall₂_toList_map fun listed given => .entry (by decide) rfl ((writes_group
        (fun entry isListed style => (writable.examples listed given entry isListed).writes style)
        _).map _)
  have changed := variant.foldl_changes
  -- keys stand behind a comma alone: where there is none, nothing is changed
  have keys (there : Bool) (enough : variant.entries (style.part 1) = [] ∨ there = true) :
      (variantKeysForm ⟨variant.contentType, variant.body, none, none⟩ there).Writes
        (punctuate style.here (variant.entries (style.part 1))) variant := by
    cases there with
    | true =>
      refine .keys entries (fun placed same => ?_) _
      rw [applyAll_applyChange same, changed]
    | false =>
      have none := enough.resolve_right (by decide)
      rw [none] at entries ⊢
      rw [List.forall₂_nil_left_iff.mp entries, List.foldl_nil] at changed
      rw [changed]
      exact .pure variant
  have enough : variant.entries (style.part 1) = [] ∨
      (!(variant.entries (style.part 1)).isEmpty || style.here) = true := by
    cases variant.entries (style.part 1) with
    | nil => exact .inl rfl
    | cons entry rest => exact .inr rfl
  have rest : Form.Writes (do
      let more ← Form.optional .comma
      let variant ← variantKeysForm ⟨variant.contentType, variant.body, none, none⟩ more
      let _ ← Form.token .closeParen
      return variant) _ variant :=
    writes_comma _ ((keys _ enough).bind (.markBind (c := ')') rfl (.pure variant)))
  rw [ContentVariant.symbols, punctuate_cons, List.append_assoc, List.append_assoc]
  exact .markBind rfl (.textBind (.markBind rfl ((writable.body.writes _).bind rest)))

/-! ### Values

The settings of a value are those of its parts in a fixed order.  Each fills in its part, and
whether an empty part is written is up to the style, as it makes no difference to what comes out. -/

/-- A setting that can be written.  All that it sets can be written. -/
inductive ValueSetting.Writable : ValueSetting → Prop
  | description (text : String) : Writable (.description text)
  | body {said : Body} (writable : said.Writable) : Writable (.body said)
  | contentTypes (types : List String) : Writable (.contentTypes types)
  | headers {list : List Header} (all : ∀ header ∈ list, header.Writable) : Writable (.headers list)
  | sample {shown : Document} (writable : shown.Writable) : Writable (.sample shown)
  | examples {list : List Example} (all : ∀ entry ∈ list, entry.Writable) :
      Writable (.examples list)
  | content {list : List ContentVariant} (all : ∀ variant ∈ list, variant.Writable) :
      Writable (.content list)

/-- The symbols of a setting, with its key in front.  The style says whether the optional equals
sign and last comma are there. -/
def ValueSetting.symbols (style : Style) : ValueSetting → List Symbol
  | .description text => .word "description" :: assignedSymbols text
  | .body said => .word "body" :: .mark '=' :: said.symbols style
  | .contentTypes types => .word "content_type" :: contentTypeSymbols style types
  | .headers list => .word "headers" :: groupSymbols Header.symbols style list
  | .sample shown => .word "example" :: exampleSymbols style shown
  | .examples list => .word "examples" :: groupSymbols Example.symbols style list
  | .content list => .word "content" :: groupSymbols ContentVariant.symbols style list

private theorem ValueSetting.Writable.writes {setting : ValueSetting} (writable : setting.Writable)
    (style : Style) : (entryItem tupleTable).Writes (setting.symbols style) (.value setting) := by
  cases writable with
  | description text => exact .entry (by decide) rfl ((writes_assignedString text).map _)
  | body writable =>
    have assigned : assignedBodyForm.Writes _ _ := .markBind (c := '=') rfl (writable.writes style)
    exact .entry (by decide) rfl (assigned.map _)
  | contentTypes types => exact .entry (by decide) rfl ((writes_contentTypes style types).map _)
  | headers all =>
    exact .entry (by decide) rfl ((writes_group (fun header listed style =>
      (all header listed).writes style) style).map _)
  | sample writable => exact .entry (by decide) rfl ((writes_exampleValue writable style).map _)
  | examples all =>
    exact .entry (by decide) rfl ((writes_group (fun entry listed style =>
      (all entry listed).writes style) style).map _)
  | content all =>
    exact .entry (by decide) rfl ((writes_group (fun variant listed style =>
      (all variant listed).writes style) style).map _)

/-- A value that can be written.  All of its parts can be written. -/
structure ResponseValue.Writable (value : ResponseValue) : Prop where
  body : ∀ body ∈ value.body, body.Writable
  headers : ∀ header ∈ value.headers, header.Writable
  sample : ∀ shown ∈ value.sample, shown.Writable
  examples : ∀ list ∈ value.examples, ∀ entry ∈ list, entry.Writable
  content : ∀ variant ∈ value.content, variant.Writable

/-- A setting that is left out if it says nothing and the style has it so. -/
def unlessOmitted (omitted : Bool) (setting : ValueSetting) : List ValueSetting :=
  if omitted then [] else [setting]

/-- The settings of a value. -/
def ResponseValue.settings (style : Style) (value : ResponseValue) : List ValueSetting :=
  unlessOmitted (value.description.isEmpty && (style.part 0).here)
    (.description value.description) ++
  (value.body.map .body).toList ++
  (value.contentTypes.map .contentTypes).toList ++
  unlessOmitted (value.headers.isEmpty && (style.part 1).here) (.headers value.headers) ++
  (value.sample.map .sample).toList ++
  (value.examples.map .examples).toList ++
  unlessOmitted (value.content.isEmpty && (style.part 2).here) (.content value.content)

/-- Settings make one value out of another one, whatever the status. -/
def Fills (before : ResponseValue) (settings : List ValueSetting) (after : ResponseValue) : Prop :=
  ∀ status, (settings.map Setting.value).foldl Setting.make (status, before) = (status, after)

theorem Fills.append {before m after : ResponseValue} {front back : List ValueSetting}
    (first : Fills before front m) (last : Fills m back after) :
    Fills before (front ++ back) after := by
  intro status
  rw [List.map_append, List.foldl_append, first, last]

/-- A setting that may be left out because it says nothing. -/
theorem Fills.unlessOmitted {omitted : Bool} {setting : ValueSetting} {before : ResponseValue}
    (nothing : omitted = true → before = setting.change before) :
    Fills before (unlessOmitted omitted setting) (setting.change before) := by
  intro status
  cases omitted with
  | true => rw [← nothing rfl]; rfl
  | false => rfl

/-- A setting that is made if a value is given. -/
theorem Fills.toList {α : Type} {given : Option α} {make : α → ValueSetting}
    {before after : ResponseValue} (absent : given = none → before = after)
    (made : ∀ value, given = some value → (make value).change before = after) :
    Fills before (given.map make).toList after := by
  intro status
  cases given with
  | none => rw [← absent rfl]; rfl
  | some value => rw [← made value rfl]; rfl

/-- The settings of a value make it. -/
theorem ResponseValue.fills_settings (style : Style) (value : ResponseValue) :
    Fills .empty (value.settings style) value := by
  obtain ⟨description, body, contentTypes, headers, sample, examples, content⟩ := value
  have empty {α : Type} {list : List α} {chosen : Bool}
      (omitted : (list.isEmpty && chosen) = true) : list = [] :=
    List.isEmpty_iff.mp (Bool.and_eq_true_iff.mp omitted).1
  -- every setting fills in the next part of the value
  refine .append (m := ⟨description, body, contentTypes, headers, sample, examples, []⟩)
    (.append (m := ⟨description, body, contentTypes, headers, sample, none, []⟩)
    (.append (m := ⟨description, body, contentTypes, headers, none, none, []⟩)
    (.append (m := ⟨description, body, contentTypes, [], none, none, []⟩)
    (.append (m := ⟨description, body, none, [], none, none, []⟩)
    (.append (m := ⟨description, none, none, [], none, none, []⟩)
      (.unlessOmitted fun omitted => ?_) ?_) ?_) (.unlessOmitted fun omitted => ?_)) ?_) ?_)
    (.unlessOmitted fun omitted => ?_)
  · rw [ValueSetting.change, String.isEmpty_iff.mp (Bool.and_eq_true_iff.mp omitted).1]
    rfl
  · exact .toList (fun absent => by cases absent; rfl) fun _ given => by cases given; rfl
  · exact .toList (fun absent => by cases absent; rfl) fun _ given => by cases given; rfl
  · rw [ValueSetting.change, empty omitted]
  · exact .toList (fun absent => by cases absent; rfl) fun _ given => by cases given; rfl
  · exact .toList (fun absent => by cases absent; rfl) fun _ given => by cases given; rfl
  · rw [ValueSetting.change, empty omitted]

private theorem ResponseValue.Writable.settings {value : ResponseValue} (writable : value.Writable)
    (style : Style) : ∀ setting ∈ value.settings style, setting.Writable := by
  have single {omitted : Bool} {first setting : ValueSetting} (isWritable : first.Writable)
      (listed : setting ∈ unlessOmitted omitted first) : setting.Writable := by
    cases omitted with
    | true => cases listed
    | false => rwa [List.mem_singleton.mp listed]
  have given {α : Type} {value : Option α} {make : α → ValueSetting} {setting : ValueSetting}
      (all : ∀ inner ∈ value, (make inner).Writable) (listed : setting ∈ (value.map make).toList) :
      setting.Writable := by
    obtain ⟨inner, isValue, rfl⟩ := Option.map_eq_some_iff.mp (Option.mem_toList.mp listed)
    exact all inner isValue
  intro setting listed
  simp only [ResponseValue.settings, List.mem_append] at listed
  rcases listed with (((((listed | listed) | listed) | listed) | listed) | listed) | listed
  · exact single (.description _) listed
  · exact given (fun body is => .body (writable.body body is)) listed
  · exact given (fun types _ => .contentTypes types) listed
  · exact single (.headers writable.headers) listed
  · exact given (fun shown is => .sample (writable.sample shown is)) listed
  · exact given (fun list is => .examples (writable.examples list is)) listed
  · exact single (.content writable.content) listed

/-! ### Tuples

The status comes first in what is written.  Reading does not ask for that, but one order is enough
to have a text for every descriptor. -/

/-- A response that can be written: a well-formed type that is referred to, or a value. -/
inductive Response.Writable : Response → Prop
  | reference {type : InlineType} (wellFormed : type.type.WellFormed) : Writable (.reference type)
  | value {said : ResponseValue} (writable : said.Writable) : Writable (.value said)

/-- A descriptor that can be written.  Its status is known.  A reference needs nothing else than the
type that it refers to. -/
structure ResponseDescriptor.Writable (descriptor : ResponseDescriptor) : Prop where
  status : ∃ status, descriptor.status = some status ∧ IsStatus status
  response : descriptor.response.Writable

/-- The keys of a response with what is written behind them. -/
def Response.entries (style : Style) : Response → List (List Symbol)
  | .reference type => [.word "response" :: .mark '=' :: type.symbols style]
  | .value said => writeEach ValueSetting.symbols (style.part 1) (said.settings (style.part 0))

/-- The entry of a status. -/
def statusEntry (status : String) : List Symbol :=
  [.word "status", .mark '=', statusSymbol status]

/-- The symbols of a descriptor.  It is a tuple with the status in front and the other keys behind,
as the style says. -/
def ResponseDescriptor.symbols (style : Style) (descriptor : ResponseDescriptor) : List Symbol :=
  .mark '(' :: (punctuate style.here ((descriptor.status.map statusEntry).toList ++
    descriptor.response.entries (style.part 0)) ++ [.mark ')'])

/-- A text of a descriptor, in which blanks stand between the symbols. -/
def ResponseDescriptor.text (style : Style) (descriptor : ResponseDescriptor) : String :=
  String.ofList (spaced (descriptor.symbols style))

/-- The entry of a status is written with its key. -/
theorem writes_statusEntry {status : String} (isStatus : IsStatus status) :
    (entryItem tupleTable).Writes (statusEntry status) (.status status) := by
  have assigned : assignedStatusForm.Writes _ _ := .markBind (c := '=') rfl (writes_status isStatus)
  exact .entry (by decide) rfl (assigned.map _)

/-- The settings of a response. -/
def Response.settings (style : Style) : Response → List Setting
  | .reference type => [.reference type]
  | .value said => (said.settings (style.part 0)).map .value

private theorem Response.Writable.writes {response : Response} (writable : response.Writable)
    (style : Style) : List.Forall₂ (entryItem tupleTable).Writes (response.entries style)
      (response.settings style) := by
  cases writable with
  | @reference type wellFormed =>
    have assigned : assignedTypeForm.Writes _ _ :=
      .markBind (c := '=') rfl (InlineType.writes wellFormed style)
    exact .cons (.entry (by decide) rfl (assigned.map _)) .nil
  | @value said writable =>
    refine List.forall₂_map_right_iff.mpr (forall₂_writeEach (fun setting listed style => ?_) _)
    exact (writable.settings _ setting listed).writes style

/-- Setting the status and then what the response says makes a draft of the descriptor. -/
theorem Response.exists_draft (style : Style) (status : String) (response : Response) :
    ∃ draft : TupleDraft,
      (∀ placed, placed.map Prod.snd = .status status :: response.settings style →
        applyAll Setting.onDraft placed .empty = some draft) ∧
      draft.status.isSome = true ∧ draft.descriptor = ⟨some status, response⟩ := by
  cases response with
  | reference type =>
    refine ⟨⟨some status, none, some type⟩, fun placed same => ?_, rfl, rfl⟩
    obtain ⟨⟨_, _⟩, others, rfl, rfl, sameOthers⟩ := List.map_eq_cons_iff.mp same
    obtain ⟨⟨_, _⟩, rfl, rfl⟩ := List.map_eq_singleton_iff.mp sameOthers
    rfl
  | value said =>
    refine OpenResponse.exists_draft (fun setting listed => ?_) (said.fills_settings _ _)
    rcases List.mem_cons.mp listed with rfl | isValue
    · rfl
    · obtain ⟨inner, -, rfl⟩ := List.mem_map.mp isValue
      rfl

/-- A descriptor that can be written is written with its symbols, in every style. -/
theorem ResponseDescriptor.Writable.writes {descriptor : ResponseDescriptor}
    (writable : descriptor.Writable) (style : Style) :
    tupleForm.Writes (descriptor.symbols style) descriptor := by
  obtain ⟨_, response⟩ := descriptor
  obtain ⟨⟨status, rfl, isStatus⟩, writable⟩ := writable
  obtain ⟨draft, applied, there, made⟩ := response.exists_draft (style.part 0) status
  have entries := List.Forall₂.cons (writes_statusEntry isStatus) (writable.writes (style.part 0))
  have keys := Form.Writes.keys entries applied style.here
  have ending : (draftForm draft).Writes [.mark ')'] ⟨some status, response⟩ := by
    rw [← made]
    refine .markBind rfl ⟨fun _ listed => (by cases listed), fun tokens same => ?_⟩
    exact ⟨List.map_eq_nil_iff.mp same, there, rfl⟩
  exact .markBind rfl (keys.bind ending)

/-- **Every tuple that is written for a descriptor is read as it.**  In every style the descriptor
has a text, and whatever stands between the symbols of the text, be it blanks or comments, and
wherever the text stands, the descriptor is read off it. -/
theorem readResponseTuple_symbols {descriptor : ResponseDescriptor}
    (writable : descriptor.Writable) (style : Style) :
    Laid (descriptor.symbols style) (descriptor.text style).toList ∧
      ∀ (origin : Location) (text : String), Laid (descriptor.symbols style) text.toList →
        readResponseTuple origin text = .ok descriptor := by
  have written := writable.writes style
  constructor
  · rw [ResponseDescriptor.text, String.toList_ofList]
    exact laid_spaced written.spelled
  · intro origin text laid
    obtain ⟨tokens, scanned, same⟩ := scan_laid laid origin
    exact readResponseTuple_eq_ok.mpr ⟨tokens, scanned, written.allowed tokens same⟩

/-- A response with a header and an example, read off its text. -/
theorem readResponseTuple_rateLimit :
    let header : Header := ⟨"x-rate-limit", some ⟨.path "u32" [], false⟩, some "remaining"⟩
    let said : ResponseValue := ⟨"Success", some (.typed ⟨.path "User" [], false⟩),
      some ["application/json", "text/xml"], [header], some (.object [("id", .integer 1)]), none,
      []⟩
    let descriptor : ResponseDescriptor := ⟨some "200", .value said⟩
    descriptor.Writable ∧
      readResponseTuple .start (descriptor.text fun _ => true) = .ok descriptor := by
  intro header said descriptor
  have wellFormed (name : String) (isName : isName name = true) :
      (TypeRef.path name []).WellFormed := by
    refine .path ⟨false, name, [], String.intercalate_singleton.symm, fun other listed => ?_⟩
      fun _ listed => (by cases listed)
    rwa [List.mem_singleton.mp listed]
  have writable : descriptor.Writable := by
    refine ⟨⟨"200", rfl, .inr ⟨200, by decide, by decide⟩⟩, .value ⟨?_, ?_, ?_, ?_, ?_⟩⟩
    · rintro body ⟨⟩
      exact .typed (wellFormed "User" (by decide))
    · intro _ listed type typed
      cases List.mem_singleton.mp listed
      cases typed
      exact wellFormed "u32" (by decide)
    · rintro shown ⟨⟩
      refine .object (by decide) fun member listed => ?_
      cases List.mem_singleton.mp listed
      exact .integer (by decide)
    · rintro list ⟨⟩
    · rintro variant ⟨⟩
  obtain ⟨laid, read⟩ := readResponseTuple_symbols writable fun _ => true
  exact ⟨writable, read .start _ laid⟩

/-- A tuple in a style that takes every choice. -/
example : (⟨some "404", .value ⟨"gone", none, none, [], none, none, []⟩⟩ :
    ResponseDescriptor).text (fun _ => true) = " ( status = 404 , description = \"gone\" , )" := by
  decide +kernel

end OpenResponse
