import OpenResponse.Document.Reader
import OpenResponse.Document.Text
import OpenResponse.Proofs.Number.Numeral

/-!
# Telling documents apart by their text

Where several things are written one behind the other, nothing is lost if the end of each of them
can be found.  A string ends with a quote, which is escaped inside it; an array or an object ends
with its closing mark, with which none of its parts begins; and a number ends where no digit
follows.  So a text that begins with a document determines the document and what is written behind
it, as long as that does not begin with a digit.

Strings are the one part for which this is not plain to see, since a character may be written in
several ways.  But what is written for a string is read back as it, so two strings that are written
alike are the same.

Floating point numbers are left out.  How they are written is a matter of rounding.

The notion that carries the proof is `Discerned`: two values are told apart if equal texts, with
anything allowed behind them, force the values to be equal and what stands behind them too.  The
second half is what makes it compose.  For a list of values it is applied once to each of them, and
what is left over is what the next one begins with.

## Main definitions

* `Discerned` — values that are told apart by their texts, given what may follow these
* `listed` — texts with commas between them
* `Document.FloatFree` — documents without floating point numbers

## Main statements

* `Document.readText?_quotedText` — what is written for a string is read back
* `quotedText_append_inj`, `intRepr_discerned` — strings and integers are told apart
* `listed_inj` — lists are told apart if their members are
* `Document.FloatFree.discerned` — **documents without floating point numbers are told apart**

## Hypotheses

`follow` is the condition on what comes behind.  For numbers it says that no digit follows; for
strings nothing has to be asked.  Documents take the condition of numbers, as they may be numbers,
and inside a list it holds of the comma and of the closing mark, which is `Continues`.

Both documents have to be free of floating point numbers.  For a float is written with the digits
that its rounding gives, and it may have the text of an integer up to its point.
-/

namespace OpenResponse

/-! ### Strings

The reader of strings is the one of documents as texts, which is used here only as a left inverse.
It is shown to undo each way in which a character is written: as it is, with a letter behind a
backslash, or with one unit or two of sixteen bits. -/

/-- The four digits of a number of sixteen bits. -/
theorem hexadecimal_four {n : Nat} (small : n < 0x10000) :
    (hexadecimal 4 n).toList = [Nat.digitChar (n / 4096), Nat.digitChar (n / 256 % 16),
      Nat.digitChar (n / 16 % 16), Nat.digitChar (n % 16)] := by
  have last (n : Nat) (great : 16 ≤ n) :
      Nat.toDigits 16 n = Nat.toDigits 16 (n / 16) ++ [Nat.digitChar (n % 16)] := by
    rw [← Nat.toDigits_of_lt_base (Nat.mod_lt n (by decide)),
      Nat.toDigits_append_toDigits (by decide) (by omega) (Nat.mod_lt n (by decide)),
      Nat.div_add_mod]
  have only (n : Nat) (few : n < 16) : Nat.toDigits 16 n = [Nat.digitChar n] :=
    Nat.toDigits_of_lt_base few
  have zero : Nat.digitChar 0 = '0' := rfl
  have second : n / 16 / 16 = n / 256 := Nat.div_div_eq_div_mul n 16 16
  have third : n / 256 / 16 = n / 4096 := Nat.div_div_eq_div_mul n 256 16
  rw [hexadecimal, String.toList_ofList]
  -- a number has as many digits as the powers of sixteen below it, and zeros take the other places
  rcases Nat.lt_or_ge n 16 with few | great
  · have zeros : n / 4096 = 0 ∧ n / 256 % 16 = 0 ∧ n / 16 % 16 = 0 ∧ n % 16 = n := by omega
    rw [only n few, zeros.1, zeros.2.1, zeros.2.2.1, zeros.2.2.2, zero]
    rfl
  rw [last n great]
  rcases Nat.lt_or_ge n 256 with few | great
  · have zeros : n / 4096 = 0 ∧ n / 256 % 16 = 0 ∧ n / 16 % 16 = n / 16 := by omega
    rw [only (n / 16) (by omega), zeros.1, zeros.2.1, zeros.2.2, zero]
    rfl
  rw [last (n / 16) (by omega), second]
  rcases Nat.lt_or_ge n 4096 with few | great
  · have zeros : n / 4096 = 0 ∧ n / 256 % 16 = n / 256 := by omega
    rw [only (n / 256) (by omega), zeros.1, zeros.2, zero]
    rfl
  · rw [last (n / 256) (by omega), third, only (n / 4096) (by omega)]
    rfl

namespace Document

/-- Four digits are read back as their number. -/
theorem readUnit?_hexadecimal {n : Nat} (small : n < 0x10000) (rest : List Char) :
    readUnit? ((hexadecimal 4 n).toList ++ rest) = some (n, rest) := by
  have digit : ∀ d < 16, baseDigit? 16 (Nat.digitChar d) = some d := by decide
  have value : ((n / 4096 * 16 + n / 256 % 16) * 16 + n / 16 % 16) * 16 + n % 16 = n := by omega
  rw [hexadecimal_four small]
  simp only [List.cons_append, List.nil_append, readUnit?, digit _ (show n / 4096 < 16 by omega),
    digit _ (Nat.mod_lt _ (by decide)), Option.bind_eq_bind, Option.bind_some, value]
  rfl

/-- No character is half of a pair, and all are in range. -/
theorem toNat_valid (c : Char) : c.toNat < 0xd800 ∨ 0xdfff < c.toNat ∧ c.toNat < 0x110000 :=
  c.valid

/-- A unit that is not the first half of a pair stands for a character. -/
theorem readNumbered?_single {n : Nat} (small : n < 0x10000)
    (alone : ¬ (0xd800 ≤ n ∧ n < 0xdc00)) (rest : List Char) :
    readNumbered? ((hexadecimal 4 n).toList ++ rest) = some (Char.ofNat n, rest) := by
  rw [readNumbered?, readUnit?_hexadecimal small]
  simp only [Option.bind_eq_bind, Option.bind_some]
  split
  · split
    · rw [if_neg fun pair => alone ⟨pair.1, pair.2.1⟩]
      rfl
    · rfl
  · rfl

/-- Two units that are a pair stand for a character together. -/
theorem readNumbered?_pair {high low : Nat} (isHigh : 0xd800 ≤ high ∧ high < 0xdc00)
    (isLow : 0xdc00 ≤ low ∧ low < 0xe000) (rest : List Char) :
    readNumbered? ((hexadecimal 4 high).toList ++ (unitEscape low ++ rest)) =
      some (Char.ofNat (0x10000 + (high - 0xd800) * 0x400 + (low - 0xdc00)), rest) := by
  rw [readNumbered?, readUnit?_hexadecimal (by omega), unitEscape]
  simp only [Option.bind_eq_bind, Option.bind_some, List.cons_append]
  rw [readUnit?_hexadecimal (by omega)]
  dsimp only
  rw [if_pos ⟨isHigh.1, isHigh.2, isLow.1, isLow.2⟩]
  rfl

theorem unitEscape_append (unit : Nat) (rest : List Char) :
    unitEscape unit ++ rest = '\\' :: 'u' :: ((hexadecimal 4 unit).toList ++ rest) := by
  rw [unitEscape, List.cons_append, List.cons_append]

/-- A character that is written with its number is read back. -/
theorem readNumbered?_numberedEscape (c : Char) (rest : List Char) :
    ∃ more, numberedEscape c ++ rest = '\\' :: 'u' :: more ∧
      readNumbered? more = some (c, rest) := by
  have valid := toNat_valid c
  rw [numberedEscape]
  by_cases small : c.toNat < 0x10000
  · have read := readNumbered?_single small (by omega) rest
    rw [Char.ofNat_toNat] at read
    rw [if_pos small]
    exact ⟨_, unitEscape_append _ rest, read⟩
  · have isHigh : 0xd800 ≤ 0xd800 + (c.toNat - 0x10000) / 0x400 ∧
        0xd800 + (c.toNat - 0x10000) / 0x400 < 0xdc00 := by omega
    have isLow : 0xdc00 ≤ 0xdc00 + (c.toNat - 0x10000) % 0x400 ∧
        0xdc00 + (c.toNat - 0x10000) % 0x400 < 0xe000 := by omega
    have value : 0x10000 + (0xd800 + (c.toNat - 0x10000) / 0x400 - 0xd800) * 0x400 +
        (0xdc00 + (c.toNat - 0x10000) % 0x400 - 0xdc00) = c.toNat := by omega
    have read := readNumbered?_pair isHigh isLow rest
    rw [value, Char.ofNat_toNat] at read
    rw [if_neg small, List.append_assoc]
    exact ⟨_, unitEscape_append _ _, read⟩

/-- A character of a string is read back. -/
theorem readText?_quotedTextChar (budget : Nat) (before : List Char) (c : Char) (rest : List Char) :
    readText? (budget + 1) before (quotedTextChar true c ++ rest) =
      readText? budget (c :: before) rest := by
  rw [quotedTextChar]
  split
  next isQuote => rw [isQuote]; rfl
  split
  next isBackslash => rw [isBackslash]; rfl
  split
  next isFeed => rw [isFeed]; rfl
  split
  next isReturn => rw [isReturn]; rfl
  split
  next isTab => rw [isTab]; rfl
  split
  next isBackspace =>
    have same : c = Char.ofNat 8 := by rw [← isBackspace, Char.ofNat_toNat]
    rw [same]; rfl
  split
  next isFormFeed =>
    have same : c = Char.ofNat 12 := by rw [← isFormFeed, Char.ofNat_toNat]
    rw [same]; rfl
  split
  next =>
    -- what has no letter of its own is written by its number, perhaps as a pair
    obtain ⟨more, text, read⟩ := readNumbered?_numberedEscape c rest
    rw [text, readText?, read]
  next notQuote notBackslash _ _ _ _ _ _ =>
    rw [List.singleton_append, readText?]
    · exact notQuote
    · exact fun _ same => absurd same notBackslash
    · exact fun _ _ same => absurd same notBackslash

/-- The text of a string is read back.  Each character is read back by itself, with the others still
to come. -/
theorem readText?_quotedText (text : List Char) (more : Nat) (before rest : List Char) :
    readText? (text.length + more + 1) before (text.flatMap (quotedTextChar true) ++ '"' :: rest) =
      some (String.ofList (before.reverse ++ text), rest) := by
  induction text generalizing before with
  | nil => rw [List.flatMap_nil, List.append_nil]; rfl
  | cons c text ih =>
    rw [List.flatMap_cons, List.append_assoc, List.length_cons,
      show text.length + 1 + more + 1 = text.length + more + 1 + 1 by omega,
      readText?_quotedTextChar, ih, List.reverse_cons, List.append_assoc, List.singleton_append]

end Document

/-! ### Telling apart

Strings are the first example, by reading both texts back. -/

/-- Two values are told apart by their texts, whatever comes behind these that `follow` allows:
where the texts with what comes behind are the same, so are the values and what comes behind. -/
def Discerned {α : Type} (write : α → List Char) (follow : List Char → Prop) (a b : α) : Prop :=
  ∀ ⦃r s⦄, follow r → follow s → write a ++ r = write b ++ s → a = b ∧ r = s

/-- Strings are told apart, whatever comes behind them.  The first quote that is not escaped ends
the string. -/
theorem quotedText_append_inj {a b : String} {r s : List Char}
    (same : quotedText true a ++ r = quotedText true b ++ s) : a = b ∧ r = s := by
  have inner : a.toList.flatMap (quotedTextChar true) ++ '"' :: r =
      b.toList.flatMap (quotedTextChar true) ++ '"' :: s := by
    simpa [quotedText] using same
  have first := Document.readText?_quotedText a.toList b.toList.length [] r
  have second := Document.readText?_quotedText b.toList a.toList.length [] s
  rw [Nat.add_comm b.toList.length, ← inner, first] at second
  simpa using second

/-! ### Lists

A list may be empty, so one that has members must not begin like the end of one: no member begins
with the closing mark. -/

section Lists

variable {α : Type} {write : α → List Char} {follow : List Char → Prop} {close : Char}

/-- Texts with a comma and a space between every two of them.  With the closing mark behind it, the
text of a list ends where its last item does. -/
def listed (write : α → List Char) : List α → List Char
  | [] => []
  | first :: rest => write first ++ rest.flatMap fun value => ',' :: ' ' :: write value

/-- What may come behind the members of a list that ends with a mark. -/
def Continues (close : Char) (follow : List Char → Prop) : Prop :=
  close ≠ ',' ∧ ∀ rest, follow (',' :: rest) ∧ follow (close :: rest)

/-- The members of a list behind its first one are told apart. -/
theorem tail_inj {xs ys : List α} (continues : Continues close follow)
    (each : ∀ x ∈ xs, ∀ y ∈ ys, Discerned write follow x y) {r s : List Char}
    (same : (xs.flatMap fun value => ',' :: ' ' :: write value) ++ close :: r =
      (ys.flatMap fun value => ',' :: ' ' :: write value) ++ close :: s) : xs = ys ∧ r = s := by
  have allowed (zs : List α) (t : List Char) :
      follow ((zs.flatMap fun value => ',' :: ' ' :: write value) ++ close :: t) := by
    cases zs with
    | nil => exact (continues.2 t).2
    | cons z zs => exact (continues.2 _).1
  induction xs generalizing ys with
  | nil =>
    cases ys with
    | nil => exact ⟨rfl, (List.cons.inj same).2⟩
    | cons y ys => exact absurd (List.cons.inj same).1 continues.1
  | cons x xs ih =>
    cases ys with
    | nil => exact absurd (List.cons.inj same).1.symm continues.1
    | cons y ys =>
      simp only [List.flatMap_cons, List.cons_append, List.append_assoc, List.cons.injEq,
        true_and] at same
      obtain ⟨rfl, rest⟩ := each x List.mem_cons_self y List.mem_cons_self (allowed _ _)
        (allowed _ _) same
      obtain ⟨rfl, rfl⟩ := ih (fun x xListed y yListed =>
        each x (List.mem_cons_of_mem _ xListed) y (List.mem_cons_of_mem _ yListed)) rest
      exact ⟨rfl, rfl⟩

/-- Lists are told apart if their members are and none of these begins as a list ends. -/
theorem listed_inj {xs ys : List α} (continues : Continues close follow)
    (begins : ∀ x, x ∈ xs ∨ x ∈ ys → ∃ c rest, write x = c :: rest ∧ c ≠ close)
    (each : ∀ x ∈ xs, ∀ y ∈ ys, Discerned write follow x y) {r s : List Char}
    (same : listed write xs ++ close :: r = listed write ys ++ close :: s) : xs = ys ∧ r = s := by
  cases xs with
  | nil =>
    cases ys with
    | nil => exact ⟨rfl, (List.cons.inj same).2⟩
    | cons y ys =>
      obtain ⟨c, rest, text, differs⟩ := begins y (.inr List.mem_cons_self)
      rw [listed, listed, text] at same
      exact absurd (List.cons.inj same).1.symm differs
  | cons x xs =>
    cases ys with
    | nil =>
      obtain ⟨c, rest, text, differs⟩ := begins x (.inl List.mem_cons_self)
      rw [listed, listed, text] at same
      exact absurd (List.cons.inj same).1 differs
    | cons y ys =>
      -- a list with a comma in front is the rest of a list
      refine tail_inj continues each ?_
      simp only [listed, List.append_assoc] at same
      simp only [List.flatMap_cons, List.cons_append, List.append_assoc, same]

end Lists

/-! ### Numbers

A natural number is the longest run of digits at the front of the text, given that no digit follows.
-/

/-- What does not begin with a digit. -/
def NoDigit (rest : List Char) : Prop := ∀ c ∈ rest.head?, c.isDigit = false

theorem noDigit_cons {c : Char} (other : c.isDigit = false) (rest : List Char) :
    NoDigit (c :: rest) :=
  fun d same => by rw [← Option.some.inj same]; exact other

private theorem takeWhile_isDigit_repr (n : Nat) {rest : List Char} (noDigit : NoDigit rest) :
    ((Nat.repr n).toList ++ rest).takeWhile Char.isDigit = (Nat.repr n).toList := by
  have digits : ∀ c ∈ (Nat.repr n).toList, c.isDigit = true := fun c listed => by
    rw [Nat.toList_repr] at listed
    exact Nat.isDigit_of_mem_toDigits (by decide) (by decide) listed
  have none : rest.takeWhile Char.isDigit = [] := by
    cases rest with
    | nil => rfl
    | cons c rest => rw [List.takeWhile_cons, noDigit c rfl]; rfl
  rw [List.takeWhile_append_of_pos digits, none, List.append_nil]

/-- Natural numbers are told apart in front of what is no digit. -/
theorem repr_discerned (n m : Nat) :
    Discerned (fun n => (Nat.repr n).toList) NoDigit n m := by
  intro r s first second same
  have digits : (Nat.repr n).toList = (Nat.repr m).toList := by
    rw [← takeWhile_isDigit_repr n first, same, takeWhile_isDigit_repr m second]
  have number : n = m := by
    rw [Nat.toList_repr, Nat.toList_repr] at digits
    rw [← @Nat.ofDigitChars_ten_toDigits n, digits, Nat.ofDigitChars_ten_toDigits]
  subst number
  exact ⟨rfl, List.append_cancel_left same⟩

private theorem exists_repr_eq_cons (n : Nat) :
    ∃ c rest, (Nat.repr n).toList = c :: rest ∧ c ∈ asciiDigits := by
  cases text : (Nat.repr n).toList with
  | nil =>
    rw [Nat.toList_repr] at text
    exact absurd text Nat.toDigits_ne_nil
  | cons c rest =>
    exact ⟨c, rest, rfl, mem_asciiDigits_of_mem_repr (n := n) (text ▸ List.mem_cons_self)⟩

private theorem toList_repr_negSucc (n : Nat) :
    (Int.repr (.negSucc n)).toList = '-' :: (Nat.repr (n + 1)).toList := by
  rw [Int.repr, String.toList_append]
  rfl

/-- A positive number does not begin with a sign. -/
theorem repr_append_ne_minus (n : Nat) (rest other : List Char) :
    (Nat.repr n).toList ++ rest ≠ '-' :: other := by
  obtain ⟨c, digits, text, digit⟩ := exists_repr_eq_cons n
  rw [text]
  intro same
  rw [(List.cons.inj same).1] at digit
  exact absurd digit (by decide)

/-- Integers are told apart in front of what is no digit.  A digit behind the text would be taken
for a part of the number. -/
theorem intRepr_discerned (n m : Int) : Discerned (fun n => (Int.repr n).toList) NoDigit n m := by
  intro r s first second same
  dsimp only at same
  cases n with
  | ofNat n =>
    cases m with
    | ofNat m =>
      obtain ⟨rfl, rest⟩ := repr_discerned n m first second same
      exact ⟨rfl, rest⟩
    | negSucc m =>
      rw [toList_repr_negSucc] at same
      exact absurd same (repr_append_ne_minus n r _)
  | negSucc n =>
    rw [toList_repr_negSucc] at same
    cases m with
    | ofNat m => exact absurd same.symm (repr_append_ne_minus m s _)
    | negSucc m =>
      rw [toList_repr_negSucc] at same
      obtain ⟨number, rest⟩ := repr_discerned (n + 1) (m + 1) first second (List.cons.inj same).2
      cases number
      exact ⟨rfl, rest⟩

/-! ### Documents

Two documents with one text begin with the same character and are therefore of one sort.  Inside a
sort the laws of its parts apply. -/

namespace Document

/-- A document without floating point numbers.  No item of an array and no member of an object is
one, at any depth. -/
inductive FloatFree : Document → Prop
  | null : FloatFree .null
  | bool (value : Bool) : FloatFree (.bool value)
  | integer (value : Int) : FloatFree (.integer value)
  | string (value : String) : FloatFree (.string value)
  | array {items : List Document} (all : ∀ item ∈ items, item.FloatFree) :
    FloatFree (.array items)
  | object {members : List (String × Document)} (all : ∀ member ∈ members, member.2.FloatFree) :
    FloatFree (.object members)

section FloatFree

variable {items : List Document} {members : Members}

@[simp] theorem floatFree_bool (value : Bool) : (bool value).FloatFree := .bool value

@[simp] theorem floatFree_integer (value : Int) : (integer value).FloatFree := .integer value

@[simp] theorem floatFree_string (text : String) : (string text).FloatFree := .string text

@[simp] theorem floatFree_array : (array items).FloatFree ↔ ∀ item ∈ items, item.FloatFree :=
  ⟨fun free => by cases free; assumption, .array⟩

@[simp] theorem floatFree_object :
    (object members).FloatFree ↔ ∀ member ∈ members, member.2.FloatFree :=
  ⟨fun free => by cases free; assumption, .object⟩

@[simp] theorem floatFree_strings (texts : List String) : (strings texts).FloatFree := by
  simp [strings]

end FloatFree

mutual

/-- Whether a document holds no floating point numbers. -/
def isFloatFree : Document → Bool
  | .float _ => false
  | .array items => areFloatFree items
  | .object members => membersFloatFree members
  | _ => true

/-- Whether no document of a list holds floating point numbers. -/
def areFloatFree : List Document → Bool
  | [] => true
  | item :: rest => isFloatFree item && areFloatFree rest

/-- Whether no member of an object holds floating point numbers. -/
def membersFloatFree : List (String × Document) → Bool
  | [] => true
  | (_, value) :: rest => isFloatFree value && membersFloatFree rest

end

mutual

private theorem isFloatFree_iff :
    (document : Document) → (document.isFloatFree = true ↔ document.FloatFree)
  | .null => ⟨fun _ => .null, fun _ => rfl⟩
  | .bool value => ⟨fun _ => .bool value, fun _ => rfl⟩
  | .integer value => ⟨fun _ => .integer value, fun _ => rfl⟩
  | .float _ => ⟨nofun, nofun⟩
  | .string text => ⟨fun _ => .string text, fun _ => rfl⟩
  | .array items => by rw [isFloatFree, areFloatFree_iff items, floatFree_array]
  | .object members => by rw [isFloatFree, membersFloatFree_iff members, floatFree_object]

theorem areFloatFree_iff : (items : List Document) →
    (areFloatFree items = true ↔ ∀ item ∈ items, item.FloatFree)
  | [] => by simp [areFloatFree]
  | item :: rest => by
    rw [areFloatFree, Bool.and_eq_true, isFloatFree_iff item, areFloatFree_iff rest,
      List.forall_mem_cons]

theorem membersFloatFree_iff : (members : List (String × Document)) →
    (membersFloatFree members = true ↔ ∀ member ∈ members, member.2.FloatFree)
  | [] => by simp [membersFloatFree]
  | (name, value) :: rest => by
    rw [membersFloatFree, Bool.and_eq_true, isFloatFree_iff value, membersFloatFree_iff rest,
      List.forall_mem_cons]

end

instance (document : Document) : Decidable document.FloatFree :=
  decidable_of_iff _ document.isFloatFree_iff

/-- The text of a member of an object. -/
def memberText (member : String × Document) : List Char :=
  quotedText true member.1 ++ ':' :: ' ' :: member.2.chars

private theorem itemChars_eq (items : List Document) : itemChars items = listed chars items := by
  induction items with
  | nil => rfl
  | cons first rest ih =>
    cases rest with
    | nil => rw [itemChars, listed, List.flatMap_nil, List.append_nil]
    | cons second rest =>
      rw [itemChars, ih, listed, listed, List.flatMap_cons]
      · rfl
      · simp

private theorem memberChars_eq (members : List (String × Document)) :
    memberChars members = listed memberText members := by
  induction members with
  | nil => rfl
  | cons first rest ih =>
    obtain ⟨name, value⟩ := first
    cases rest with
    | nil => rw [memberChars, listed, List.flatMap_nil, List.append_nil]; rfl
    | cons second rest =>
      rw [memberChars, ih, listed, listed, List.flatMap_cons]
      · simp only [memberText, List.append_assoc, List.cons_append]
      · simp

/-- The sort of a document: the words, numbers, strings, arrays and objects. -/
def sort : Document → Nat
  | .null => 0
  | .bool _ => 1
  | .integer _ => 2
  | .float _ => 2
  | .string _ => 3
  | .array _ => 4
  | .object _ => 5

/-- The sort of the documents that begin with a character. -/
def sortOf (c : Char) : Nat :=
  if c = 'n' then 0
  else if c = 't' ∨ c = 'f' then 1
  else if c = '"' then 3
  else if c = '[' then 4
  else if c = '{' then 5
  else 2

/-- The first character tells of which sort a document is, and ends nothing. -/
theorem FloatFree.exists_cons {document : Document} (free : document.FloatFree) :
    ∃ c rest, document.chars = c :: rest ∧ sortOf c = document.sort ∧ c ∉ [']', ')', '}'] := by
  cases free with
  | null => exact ⟨_, _, rfl, rfl, by decide⟩
  | bool value => cases value <;> exact ⟨_, _, rfl, rfl, by decide⟩
  | integer value =>
    cases value with
    | ofNat n =>
      obtain ⟨c, rest, text, digit⟩ := exists_repr_eq_cons n
      have sorted : ∀ c ∈ asciiDigits, sortOf c = 2 ∧ c ∉ [']', ')', '}'] :=
        forall_mem_of_all (by decide)
      exact ⟨c, rest, text, sorted c digit⟩
    | negSucc n => exact ⟨_, _, toList_repr_negSucc n, rfl, by decide⟩
  | string value => exact ⟨_, _, rfl, rfl, by decide⟩
  | array all => exact ⟨_, _, rfl, rfl, by decide⟩
  | object all => exact ⟨_, _, rfl, rfl, by decide⟩

/-- Documents of different sorts have different texts. -/
theorem FloatFree.sort_eq {a b : Document} (free : a.FloatFree) (other : b.FloatFree)
    {r s : List Char} (same : a.chars ++ r = b.chars ++ s) : a.sort = b.sort := by
  obtain ⟨c, _, first, isSort, -⟩ := free.exists_cons
  obtain ⟨d, _, second, isOther, -⟩ := other.exists_cons
  rw [first, second] at same
  rw [← isSort, ← isOther, (List.cons.inj same).1]

private theorem bool_append_inj {a b : Bool} {r s : List Char}
    (same : (bool a).chars ++ r = (bool b).chars ++ s) : a = b ∧ r = s := by
  cases a <;> cases b
  · exact ⟨rfl, List.append_cancel_left same⟩
  · cases (List.cons.inj same).1
  · cases (List.cons.inj same).1
  · exact ⟨rfl, List.append_cancel_left same⟩

/-- Numbers end in front of a comma, and in front of the mark that ends a list. -/
theorem continues_noDigit {close : Char} (isMark : close ∈ [']', '}']) :
    Continues close NoDigit := by
  have marks : ∀ c ∈ [']', '}'], c ≠ ',' ∧ c.isDigit = false := forall_mem_of_all (by decide)
  exact ⟨(marks close isMark).1, fun rest =>
    ⟨noDigit_cons rfl rest, noDigit_cons (marks close isMark).2 rest⟩⟩

/-- Arrays are told apart if their items are. -/
theorem array_append_inj {items others : List Document} (free : ∀ item ∈ items, item.FloatFree)
    (freeToo : ∀ item ∈ others, item.FloatFree)
    (each : ∀ x ∈ items, ∀ y ∈ others, Discerned chars NoDigit x y) {r s : List Char}
    (same : (array items).chars ++ r = (array others).chars ++ s) : items = others ∧ r = s := by
  have begins : ∀ x, x ∈ items ∨ x ∈ others → ∃ c rest, x.chars = c :: rest ∧ c ≠ ']' := by
    intro x listed
    obtain ⟨c, rest, text, -, differs⟩ := (listed.elim (free x) (freeToo x)).exists_cons
    exact ⟨c, rest, text, fun same => differs (by rw [same]; exact List.mem_cons_self)⟩
  rw [chars, chars, itemChars_eq, itemChars_eq, List.cons_append, List.cons_append,
    List.append_assoc, List.append_assoc] at same
  exact listed_inj (continues_noDigit (by decide)) begins each (List.cons.inj same).2

/-- Objects are told apart if the values of their members are. -/
theorem object_append_inj {members others : List (String × Document)}
    (each : ∀ x ∈ members, ∀ y ∈ others, Discerned chars NoDigit x.2 y.2) {r s : List Char}
    (same : (object members).chars ++ r = (object others).chars ++ s) :
    members = others ∧ r = s := by
  have eachMember : ∀ x ∈ members, ∀ y ∈ others, Discerned memberText NoDigit x y := by
    intro x listed y listedToo r s first second same
    simp only [memberText, List.append_assoc] at same
    obtain ⟨name, rest⟩ := quotedText_append_inj same
    simp only [List.cons_append, List.cons.injEq, true_and] at rest
    obtain ⟨value, behind⟩ := each x listed y listedToo first second rest
    exact ⟨Prod.ext name value, behind⟩
  rw [chars, chars, memberChars_eq, memberChars_eq, List.cons_append, List.cons_append,
    List.append_assoc, List.append_assoc] at same
  exact listed_inj (continues_noDigit (by decide)) (fun x _ => ⟨_, _, rfl, by decide⟩) eachMember
    (List.cons.inj same).2

/-- **Documents are told apart** by their texts, in front of what is no digit, if they hold no
floating point numbers. -/
theorem FloatFree.discerned {a b : Document} (free : a.FloatFree) (other : b.FloatFree) :
    Discerned chars NoDigit a b := by
  -- documents of different sorts begin with different characters
  induction free generalizing b with
  | null =>
    intro r s _ _ same
    have sorts := FloatFree.null.sort_eq other same
    cases other with
    | null => exact ⟨rfl, List.append_cancel_left same⟩
    | _ => cases sorts
  | bool value =>
    intro r s _ _ same
    have sorts := (FloatFree.bool value).sort_eq other same
    cases other with
    | bool other =>
      obtain ⟨rfl, rest⟩ := bool_append_inj same
      exact ⟨rfl, rest⟩
    | _ => cases sorts
  | integer value =>
    intro r s first second same
    have sorts := (FloatFree.integer value).sort_eq other same
    cases other with
    | integer other =>
      obtain ⟨rfl, rest⟩ := intRepr_discerned value other first second same
      exact ⟨rfl, rest⟩
    | _ => cases sorts
  | string value =>
    intro r s _ _ same
    have sorts := (FloatFree.string value).sort_eq other same
    cases other with
    | string other =>
      obtain ⟨rfl, rest⟩ := quotedText_append_inj same
      exact ⟨rfl, rest⟩
    | _ => cases sorts
  | array all ih =>
    intro r s _ _ same
    have sorts := (FloatFree.array all).sort_eq other same
    cases other with
    | array allOthers =>
      obtain ⟨rfl, rest⟩ := array_append_inj all allOthers
        (fun x listed y listedToo => ih x listed (allOthers y listedToo)) same
      exact ⟨rfl, rest⟩
    | _ => cases sorts
  | object all ih =>
    intro r s _ _ same
    have sorts := (FloatFree.object all).sort_eq other same
    cases other with
    | object allOthers =>
      obtain ⟨rfl, rest⟩ := object_append_inj
        (fun x listed y listedToo => ih x listed (allOthers y listedToo)) same
      exact ⟨rfl, rest⟩
    | _ => cases sorts

end Document

end OpenResponse
