import OpenResponse.Proofs.Document.Form
import OpenResponse.Proofs.Document.Ordered
import OpenResponse.Proofs.Number.Spelling
import OpenResponse.Proofs.Token.Writing

/-!
# Writing documents

A document can be written if it holds no floating point numbers, no integers too long to be read,
and no object that gives a name twice.  As the value of an example it stands in a `json!` call.

Writing is a left inverse of reading, so what is excluded is what reading never returns, with one
exception.  Objects that are read have each name once, and integers have at most as many digits as
can be shown; floats can be read but are not written, as their literals would have to be chosen
first.

## Main definitions

* `Document.Writable` — what can be written
* `Document.symbols`, `exampleSymbols` — what is written

## Main statements

* `Document.Writable.writes` — the form of a document is written with its symbols

## Hypotheses

The condition on integers is on the digits of the number without its sign, since the sign is a token
of its own.  Objects ask for different names because members of one name would be read as one
member.

## Design notes

A document goes into a `json!` call with parentheses even where it could stand alone or between its
own brackets.  There are other texts for it; one is enough to write it.
-/

namespace OpenResponse

/-- The numeral of a number. -/
def Symbol.numeral (n : Nat) : Symbol := ⟨.integer, Nat.repr n⟩

/-- The numeral of a number is the text of an integer. -/
theorem Symbol.spelled_numeral (n : Nat) : (numeral n).Spelled := by
  have digits : ∀ c ∈ (Nat.repr n).toList, c ∈ asciiDigits := fun c => mem_asciiDigits_of_mem_repr
  cases whole : (Nat.repr n).toList with
  | nil =>
    rw [Nat.toList_repr] at whole
    exact absurd whole Nat.toDigits_ne_nil
  | cons c rest =>
    rw [whole] at digits
    have spelled : Spells (c :: rest) ⟨.integer, String.ofList (c :: rest)⟩ := .numeral digits
    rw [← whole, String.ofList_toList] at spelled
    exact ⟨_, spelled⟩

/-- A colon. -/
def Symbol.colon : Symbol := ⟨.colon, ":"⟩

/-- A document that can be written.  Numbers are limited to those that a literal can denote, and
names are assigned once. -/
inductive Document.Writable : Document → Prop
  | null : Writable .null
  | bool (value : Bool) : Writable (.bool value)
  | integer {value : Int} (short : (Nat.repr value.natAbs).length ≤ decimalLimit) :
      Writable (.integer value)
  | string (value : String) : Writable (.string value)
  | array {items : List Document} (all : ∀ item ∈ items, item.Writable) : Writable (.array items)
  | object {members : List (String × Document)} (distinct : (members.map (·.1)).Nodup)
      (all : ∀ member ∈ members, member.2.Writable) : Writable (.object members)

mutual

/-- The symbols of a document.  The style says where a last comma stands. -/
def Document.symbols (style : Style) : Document → List Symbol
  | .null => [.word "null"]
  | .bool true => [.word "true"]
  | .bool false => [.word "false"]
  | .integer value => (if value < 0 then [.mark '-'] else []) ++ [.numeral value.natAbs]
  | .float _ => []
  | .string value => [.text value]
  | .array items => .mark '[' :: (punctuate style.here (itemSymbols style items) ++ [.mark ']'])
  | .object members =>
    .mark '{' :: (punctuate style.here (memberSymbols style members) ++ [.mark '}'])

/-- The symbols of the items of an array. -/
def Document.itemSymbols (style : Style) : List Document → List (List Symbol)
  | [] => []
  | item :: rest => symbols (style.part 0) item :: itemSymbols (style.part 1) rest

/-- The symbols of the members of an object. -/
def Document.memberSymbols (style : Style) : List (String × Document) → List (List Symbol)
  | [] => []
  | (name, value) :: rest =>
    (.text name :: .colon :: symbols (style.part 0) value) :: memberSymbols (style.part 1) rest

end

namespace Document

/-- The items of an array are written one by one. -/
theorem itemSymbols_eq (style : Style) (items : List Document) :
    itemSymbols style items = writeEach symbols style items := by
  induction items generalizing style with
  | nil => rfl
  | cons item rest ih => rw [itemSymbols, writeEach, ih]

/-- The members of an object are written one by one. -/
theorem memberSymbols_eq (style : Style) (members : List (String × Document)) :
    memberSymbols style members =
      writeEach (fun style member => .text member.1 :: .colon :: symbols style member.2) style
        members := by
  induction members generalizing style with
  | nil => rfl
  | cons member rest ih => rw [memberSymbols, writeEach, ih]

/-- A number is written with its sign in front. -/
theorem writes_number {value : Int} (short : (Nat.repr value.natAbs).length ≤ decimalLimit) :
    numberForm.Writes ((if value < 0 then [.mark '-'] else []) ++ [.numeral value.natAbs])
      (.integer value) := by
  have digits (negative : Bool) : (numeralForm negative).Writes [.numeral value.natAbs]
      (.integer (if negative then -(value.natAbs : Int) else value.natAbs)) := by
    refine ⟨fun symbol listed => ?_, fun tokens same => ?_⟩
    · rw [List.mem_singleton.mp listed]
      exact Symbol.spelled_numeral _
    · obtain ⟨token, rfl, isSymbol⟩ := List.map_eq_singleton_iff.mp same
      have isText : token.value = Nat.repr value.natAbs := congrArg Symbol.value isSymbol
      refine ⟨token, rfl, .inl ⟨congrArg Symbol.kind isSymbol, value.natAbs, ?_, rfl⟩⟩
      rw [isText, readInteger?_repr short]
  have minus : (Symbol.mark '-').Spelled := Symbol.spelled_mark rfl
  by_cases negative : value < 0
  · have sign : -(value.natAbs : Int) = value := by omega
    have rest := digits true
    rw [if_pos rfl, sign] at rest
    rw [if_pos negative]
    exact .optionalBind minus rfl true rest
  · have sign : (value.natAbs : Int) = value := by omega
    have rest := digits false
    rw [if_neg (by decide), sign] at rest
    rw [if_neg negative]
    exact .optionalBind minus rfl false rest

/-- A word that stands for a document. -/
theorem writes_word {text : String} {document : Document} (name : isName text = true)
    (stands : Parser.wordDocument? text = some document) :
    documentForm.Writes [.word text] document := by
  refine ⟨fun symbol listed => ?_, fun tokens same => ?_⟩
  · rw [List.mem_singleton.mp listed]
    exact Symbol.spelled_word name
  · obtain ⟨token, rfl, isSymbol⟩ := List.map_eq_singleton_iff.mp same
    have isText : token.value = text := congrArg Symbol.value isSymbol
    exact DocumentForm.word (congrArg Symbol.kind isSymbol) (isText ▸ stands)

/-- A member is written with its name in front. -/
theorem writes_member {form : Form Document} {name : String} {symbols : List Symbol}
    {value : Document} (written : form.Writes symbols value) :
    (memberForm form).Writes (.text name :: .colon :: symbols) (name, value) := by
  have member : Form.Writes (do
      let name ← Form.token .string
      let _ ← Form.token .colon
      return (name, ← form)) (.text name :: .colon :: symbols) (name, value) :=
    .textBind (.tokenBind ⟨_, .colon⟩ (written.bindPure _))
  refine member.mono fun tokens member allowed => ?_
  obtain ⟨first, _, rfl, isName, rest⟩ := Form.token_bind_iff.mp allowed
  obtain ⟨colon, _, rfl, isColon, inner⟩ := Form.token_bind_iff.mp rest
  obtain ⟨front, _, document, rfl, isValue, rfl, rfl⟩ := inner
  rw [List.append_nil]
  exact .member isName isColon isValue

/-- **A document that can be written** is written with its symbols.  Scanning the symbols and
reading the document are two steps, and this is about the second. -/
theorem Writable.writes {document : Document} (writable : document.Writable) (style : Style) :
    documentForm.Writes (document.symbols style) document := by
  -- each part is written in a style of its own, so the style varies
  induction writable generalizing style with
  | null => exact writes_word (by decide) rfl
  | bool value =>
    cases value with
    | true => exact writes_word (by decide) rfl
    | false => exact writes_word (by decide) rfl
  | integer short => exact (writes_number short).mono fun tokens document => .number
  | string value =>
    have literal : Form.Writes (do return .string (← Form.token .string)) [.text value]
        (Document.string value) := .textBind (.pure _)
    refine literal.mono fun tokens document written => ?_
    obtain ⟨token, _, rfl, isString, rfl, rfl⟩ := Form.token_bind_iff.mp written
    exact .string isString
  | @array items _ ih =>
    have list := Form.Writes.list (c := ']') rfl (forall₂_writeEach ih style) style.here
    have array : Form.Writes (do
        let _ ← Form.token .openBracket
        let items ← listForm .closeBracket documentForm
        return .array items) _ (Document.array items) :=
      .markBind (c := '[') rfl (list.bindPure Document.array)
    rw [symbols, itemSymbols_eq]
    refine array.mono fun tokens document written => ?_
    obtain ⟨opening, back, rfl, isOpening, items⟩ := Form.token_bind_iff.mp written
    exact documentForm_cons_iff.mpr (.inr (.inl ⟨isOpening, items⟩))
  | @object members distinct _ ih =>
    have each := forall₂_writeEach
      (fun member listed style => writes_member (ih member listed style)) style
    have list := Form.Writes.list (c := '}') rfl each style.here
    have whole := list.bindPure Document.ofMembers
    rw [ofMembers, Ordered.ofList_of_nodup distinct] at whole
    have object : Form.Writes (do
        let _ ← Form.token .openBrace
        let members ← listForm .closeBrace (memberForm documentForm)
        return .ofMembers members) _ (Document.object members) :=
      .markBind (c := '{') rfl whole
    rw [symbols, memberSymbols_eq]
    refine object.mono fun tokens document written => ?_
    obtain ⟨opening, back, rfl, isOpening, members⟩ := Form.token_bind_iff.mp written
    exact documentForm_cons_iff.mpr (.inl ⟨isOpening, members⟩)

end Document

/-- The symbols of the value of an example: a call with the document.  Plain values could be written
without the call, but none has to be. -/
def exampleSymbols (style : Style) (document : Document) : List Symbol :=
  .mark '=' :: .word "json" :: .mark '!' :: .mark '(' :: (document.symbols style ++ [.mark ')'])

/-- As the value of an example, a document that can be written is written with its call. -/
theorem writes_exampleValue {document : Document} (writable : document.Writable) (style : Style) :
    exampleValueForm.Writes (exampleSymbols style document) document := by
  refine .markBind rfl (.right (.left (.wordBind (by decide) (.markBind rfl (.left ?_)))))
  exact .markBind rfl ((writable.writes style).bind (.markBind rfl (.pure _)))

end OpenResponse
