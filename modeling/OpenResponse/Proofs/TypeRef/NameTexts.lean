import OpenResponse.Proofs.Source.DerivePaths
import OpenResponse.Proofs.Source.Grouping
import OpenResponse.Proofs.TypeRef.Reading

/-!
# Texts of names

A name stands as it is, or it is marked as raw, as names must be that are keywords.  The mark is
read away: what is left in the token is the name.  The words of a source keep their marks, and there
are words which are no names at all; but where a word is read as a type, or as the beginning of one,
it is one of the two texts of a name.

That a text of a name is read as the name is a matter of scanning it.  The converse needs more care,
because a word of a source need not be a single token: it can be cut in two where a quote, a sign or
a stray mark stands in it.  The argument is that the second token would then stand behind a name,
where a type allows only a separator, an angle bracket or what closes it, and none of these begins
inside a word.  So the first token takes the whole word, and a token that takes a whole word and is
a name has one of the two texts.

## Main definitions

* `NameText` — the texts of names

## Main statements

* `NameText.readTypeRef` — a text of a name is read as the path of that name
* `exists_nameText_of_scan` — a word that is scanned where a type should stand
* `exists_nameText` — the words that are read as types are the texts of names

## Hypotheses

`exists_nameText_of_scan` is stated for a word with any text behind it, for a word is read as a type
also inside of larger texts.  The text behind must not begin with what continues a name, nor with a
hash mark, which would make a raw name of the letter before it.  What follows the first token is
asked about by its kind only; where the tokens are those of a type, `TypeForm.followsName` gives it.

The word is not empty.  An empty text has no tokens, and no type is read of it.
-/

namespace OpenResponse

/-! ### Texts of names

One name has exactly two texts, and they differ, for no name begins with the mark.  What is read of
both is the same path. -/

/-- The only symbol of a name is its word. -/
theorem TypeRef.symbols_name {name : String} (isName : isName name = true) (style : Style) :
    (TypeRef.path name []).symbols style = [.word name] := by
  have path := @pathSymbols_joinPath false name [] (List.forall_mem_singleton.mpr isName)
  rw [joinPath, if_neg (by decide), List.nil_append, String.intercalate_singleton] at path
  exact path

/-- The texts of a name: the name itself, or the name behind the mark of raw names. -/
inductive NameText : String → String → Prop
  | plain {name : String} (isName : isName name = true) : NameText name name
  | raw {name : String} (isName : isName name = true) : NameText ("r#" ++ name) name

namespace NameText

variable {text name : String}

theorem isName (isText : NameText text name) : isName name = true := by
  cases isText with
  | plain isName => exact isName
  | raw isName => exact isName

/-- Both texts denote the name. -/
theorem denotes (isText : NameText text name) : Denotes text.toList (.word name) := by
  cases isText with
  | plain isName => exact .name isName
  | raw isName =>
    rw [String.toList_append]
    exact .rawName isName

/-- A text of a name is read as the path of that name.  The mark of a raw name is read and
forgotten. -/
theorem readTypeRef (isText : NameText text name) (here : Location) :
    readTypeRef here text = .ok (.path name []) := by
  have ends : (Symbol.word name).Apart [] := fun _ c first => by cases first
  have spaced := Spaced.cons .nil isText.denotes ends (.nil (.closed .nil))
  rw [List.nil_append, List.append_nil] at spaced
  obtain ⟨tokens, scanned, same⟩ := scan_spaced spaced here
  have written := (TypeRef.WellFormed.name isText.isName).writes .bare
  rw [TypeRef.symbols_name isText.isName] at written
  exact readTypeRef_eq_ok.mpr ⟨tokens, scanned, written.allowed tokens same⟩

end NameText

/-- The text of a token of types is scanned in front of what does not continue it. -/
theorem Denotes.scansTo {text back : List Char} {symbol : Symbol} (denotes : Denotes text symbol)
    (apart : symbol.Apart back) (plain : ∀ b ∈ back.head?, b ∉ strays) :
    ScansTo back (text ++ back) fun tokens => tokens.map Token.symbol = [symbol] := by
  intro here
  obtain ⟨c, rest, rfl, read⟩ := denotes.readLexeme apart plain
  exact ⟨[⟨symbol.kind, symbol.value, here⟩], _, rfl, scan_token read⟩

/-! ### Words

Here the characters of a word are compared with those that begin tokens.  The words come from the
readers of sources, which cut at blanks and at punctuation marks but know nothing of tokens. -/

/-- A character of a word is no blank and none of the marks of types. -/
theorem Source.IsWordText.isSolid {text : List Char} (isWord : Source.IsWordText text) {c : Char}
    (listed : c ∈ text) : Source.IsSolid c ∧ c ∉ typeMarks := by
  have marks : ∀ d ∈ typeMarks, ¬ (Source.inWord d = true ∨ d = '#' ∨ d = '\'') :=
    forall_mem_of_all (by decide)
  refine ⟨?_, fun mark => marks c mark (isWord c listed)⟩
  rcases isWord c listed with inWord | rfl | rfl
  · exact .of_inWord inWord
  · exact ⟨by decide, by decide, by decide, by decide⟩
  · exact ⟨by decide, by decide, by decide, by decide⟩

/-- The kinds of tokens that may stand behind the first name of a type, inside it or behind it. -/
def TokenKind.followsName : TokenKind → Bool
  | .pathSeparator | .less | .closeParen | .comma => true
  | _ => false

/-- What stands behind the name that a type begins with may stand there. -/
theorem TypeForm.followsName {first : Token} {others : List Token} {type : TypeRef}
    (written : TypeForm (first :: others) type) (isName : first.kind = .identifier) :
    ∀ next ∈ others.head?, next.kind.followsName = true := by
  rcases typeForm_cons_iff.mp written with ⟨other, -⟩ | ⟨other, -⟩ | ⟨other, -⟩ | ⟨-, named⟩
  · cases isName.symm.trans other
  · cases isName.symm.trans other
  · cases isName.symm.trans other
  obtain ⟨front, back, path, whole, isPath, generic⟩ := named
  rcases Form.optional_bind_iff.mp isPath with ⟨root, _, rfl, isRoot, -⟩ | isPath
  · cases whole
    cases isName.symm.trans isRoot
  obtain ⟨word, tail, rfl, -, isTail⟩ := Form.token_bind_iff.mp isPath
  obtain ⟨tail, _, names, rfl, isTail, rfl, -⟩ := isTail
  rw [List.append_nil, List.cons_append, List.cons.injEq] at whole
  obtain ⟨rfl, rfl⟩ := whole
  intro next isNext
  cases isTail with
  | cons isSeparator =>
    cases isNext
    rw [isSeparator]
    rfl
  | nil =>
    rw [List.nil_append] at isNext
    rcases Form.optional_bind_iff.mp generic with ⟨less, _, rfl, isLess, -⟩ | ⟨rfl, -⟩
    · cases isNext
      rw [isLess]
      rfl
    · cases isNext

/-- So may what stands behind the type, where the name is all of it. -/
theorem TypeForm.followsName_append {first : Token} {others more : List Token} {type : TypeRef}
    (written : TypeForm (first :: others) type) (isName : first.kind = .identifier)
    (behind : ∀ next ∈ more.head?, next.kind.followsName = true) :
    ∀ next ∈ (others ++ more).head?, next.kind.followsName = true := by
  intro next isNext
  cases others with
  | nil => exact behind next isNext
  | cons second others => exact written.followsName isName next isNext

/-- What begins like a word is a name, a lifetime or a number. -/
theorem Denotes.runsOn {c : Char} {rest : List Char} {symbol : Symbol}
    (denotes : Denotes (c :: rest) symbol) (solid : Source.IsSolid c) (noMark : c ∉ typeMarks) :
    symbol.kind.runsOn = true := by
  generalize whole : c :: rest = text at denotes
  cases denotes with
  | name | rawName | lifetime | integer => rfl
  | separator =>
    cases whole
    exact absurd rfl solid.notColon
  | mark isMark =>
    cases whole
    exact absurd isMark noMark

/-- The texts that denote a name are its texts. -/
theorem Denotes.nameText {text : List Char} {symbol : Symbol} (denotes : Denotes text symbol)
    (identifies : symbol.kind = .identifier) : NameText (String.ofList text) symbol.value := by
  cases denotes with
  | name isName =>
    rw [String.ofList_toList]
    exact .plain isName
  | @rawName name isName =>
    have marked : String.ofList ('r' :: '#' :: name.toList) = "r#" ++ name := by
      rw [← String.toList_inj, String.toList_ofList, String.toList_append]
      rfl
    rw [marked]
    exact .raw isName
  | lifetime | integer | separator => cases identifies
  | @mark c isMark =>
    have others : ∀ c ∈ typeMarks, (Symbol.mark c).kind ≠ .identifier :=
      forall_mem_of_all (by decide)
    exact absurd identifies (others c isMark)

/-- Where a character stands that begins neither a blank nor a comment, a token is scanned. -/
theorem exists_token_of_scan {here : Location} {c : Char} {rest : List Char} {tokens : List Token}
    (scanned : scan here (c :: rest) = .ok tokens) (solid : Source.IsSolid c) :
    ∃ first others more there, tokens = first :: others ∧
      scan there (rest.drop more) = .ok others ∧
      (first.kind.standsInType = true → Denotes (c :: rest.take more) first.symbol) := by
  obtain ⟨⟨more, token⟩, others, read, scannedRest, rfl⟩ := scan_cons_eq_ok.mp scanned
  have made := readLexeme_takes here c rest _ read
  have taken := readLexeme_takesText here c rest _ read
  cases token with
  | some token =>
    refine ⟨_, others, more, _, rfl, scannedRest, fun inType => ?_⟩
    exact (taken token rfl inType).1
  | none =>
    replace made : Gap (c :: rest.take more) ∨ LineComment (c :: rest.take more) _ := made
    generalize rest.take more = taken at made
    rcases made with gap | ⟨⟨comment, isComment, -⟩, -⟩
    · cases gap with
      | blank isBlank => cases isBlank.symm.trans solid.notBlank
      | line | block => exact absurd rfl solid.notSlash
    · cases isComment
      exact absurd rfl solid.notSlash

/-- A text of a name has no other characters than names, but for the mark of raw names. -/
theorem NameText.continuesName {text name : String} (isText : NameText text name) {c : Char}
    (listed : c ∈ text.toList) : continuesName c = true ∨ c = '#' := by
  have inName {name : String} (isName : OpenResponse.isName name = true)
      (inside : c ∈ name.toList) : OpenResponse.continuesName c = true := by
    obtain ⟨first, rest, whole, begins, continues⟩ := exists_cons_of_isName isName
    rw [whole] at inside
    rcases List.mem_cons.mp inside with rfl | later
    · exact continuesName_of_beginsName begins
    · exact continues c later
  cases isText with
  | plain isName => exact .inl (inName isName listed)
  | raw isName =>
    rw [String.toList_append] at listed
    rcases List.mem_append.mp listed with marked | inside
    · rcases List.mem_cons.mp marked with rfl | isHash
      · exact .inl (by decide)
      · exact .inr (List.mem_singleton.mp isHash)
    · exact .inl (inName isName inside)

/-- What is scanned at a character of a word does not stand behind a name in a type. -/
theorem not_followsName_of_scan {here : Location} {c : Char} {rest : List Char}
    {tokens : List Token} (scanned : scan here (c :: rest) = .ok tokens)
    (inWord : Source.IsSolid c ∧ c ∉ typeMarks) :
    ∃ next ∈ tokens.head?, next.kind.followsName = false := by
  obtain ⟨next, _, _, _, rfl, -, denotes⟩ := exists_token_of_scan scanned inWord.1
  refine ⟨next, rfl, Bool.eq_false_iff.mpr fun follows => ?_⟩
  have inType : next.kind.standsInType = true := by
    revert follows
    cases next.kind <;> decide
  have runs := (denotes inType).runsOn inWord.1 inWord.2
  revert follows runs
  simp only [Token.symbol]
  cases next.kind <;> decide

/-- What is taken of two texts is the first one, if it holds all of it but not what the second one
begins with. -/
theorem take_append_of_outside {text back : List Char} {n : Nat} (long : text.length ≤ n)
    (outside : ∀ b ∈ back.head?, b ∉ (text ++ back).take n) : (text ++ back).take n = text := by
  obtain ⟨extra, rfl⟩ := Nat.exists_eq_add_of_le long
  rw [List.take_length_add_append] at *
  cases back with
  | nil => rw [List.take_nil, List.append_nil]
  | cons b back =>
    cases extra with
    | zero => rw [List.take_zero, List.append_nil]
    | succ extra =>
      have inside : b ∈ text ++ (b :: back).take (extra + 1) :=
        List.mem_append_right _ List.mem_cons_self
      exact absurd inside (outside b rfl)

/-- **A word where a type should stand.**  If what is scanned there begins like a type, and what
stands behind a first name can do so in a type or closes it, the word is a text of that name. -/
theorem exists_nameText_of_scan {here : Location} {text : String} {back : List Char} {first : Token}
    {others : List Token} (isWord : Source.IsWordText text.toList) (notEmpty : text ≠ "")
    (stops : ∀ b ∈ back.head?, continuesName b = false ∧ b ≠ '#')
    (scanned : scan here (text.toList ++ back) = .ok (first :: others))
    (opens : first.kind.opensType = true)
    (follows : first.kind = .identifier → ∀ next ∈ others.head?, next.kind.followsName = true) :
    first.kind = .identifier ∧ NameText text first.value := by
  obtain ⟨c, rest, whole⟩ := List.exists_cons_of_ne_nil (mt String.toList_eq_nil_iff.mp notEmpty)
  rw [whole, List.cons_append] at scanned
  obtain ⟨solid, noMark⟩ := isWord.isSolid (whole ▸ List.mem_cons_self : c ∈ text.toList)
  obtain ⟨_, _, more, there, same, scannedRest, denotes⟩ := exists_token_of_scan scanned solid
  cases same
  have inType : first.kind.standsInType = true := by
    revert opens
    cases first.kind <;> decide
  have identifies : first.kind = .identifier := by
    have runs := (denotes inType).runsOn solid noMark
    revert opens runs
    simp only [Token.symbol]
    cases first.kind <;> decide
  have named := (denotes inType).nameText identifies
  have inside : ∀ b ∈ back.head?, b ∉ c :: (rest ++ back).take more := by
    intro b isNext listed
    rw [← String.toList_ofList (l := c :: (rest ++ back).take more)] at listed
    obtain ⟨other, noHash⟩ := stops b isNext
    rcases named.continuesName listed with continues | isHash
    · cases other.symm.trans continues
    · exact noHash isHash
  have taken : (rest ++ back).take more = rest := by
    refine take_append_of_outside ?_ fun b isNext listed => inside b isNext (.tail _ listed)
    -- else a token of the word would stand behind the name
    by_contra short
    replace short := Nat.lt_of_not_le short
    obtain ⟨d, tail, behind⟩ : ∃ d tail, rest.drop more = d :: tail :=
      List.exists_cons_of_ne_nil (mt List.drop_eq_nil_iff.mp (Nat.not_le_of_lt short))
    have listed : d ∈ text.toList := by
      rw [whole]
      exact List.mem_cons_of_mem _ (List.mem_of_mem_drop (behind ▸ List.mem_cons_self))
    rw [List.drop_append_of_le_length (Nat.le_of_lt short), behind, List.cons_append]
      at scannedRest
    obtain ⟨next, isNext, other⟩ := not_followsName_of_scan scannedRest (isWord.isSolid listed)
    cases other.symm.trans (follows identifies next isNext)
  rw [taken, ← whole, String.ofList_toList] at named
  exact ⟨identifies, named⟩

/-- The words that are read as types are the texts of names.  Other words are numbers and lifetimes,
or begin with a digit, and no type begins so. -/
theorem exists_nameText {here : Location} {text : String} {type : TypeRef}
    (isWord : Source.IsWordText text.toList) (notEmpty : text ≠ "")
    (read : readTypeRef here text = .ok type) : ∃ name, NameText text name := by
  obtain ⟨tokens, scanned, written⟩ := readTypeRef_eq_ok.mp read
  obtain ⟨first, others, rfl, opens⟩ := written.cons
  rw [← List.append_nil text.toList] at scanned
  have ends : ∀ b ∈ ([] : List Char).head?, continuesName b = false ∧ b ≠ '#' := nofun
  have isText := exists_nameText_of_scan isWord notEmpty ends scanned opens written.followsName
  exact ⟨first.value, isText.2⟩

end OpenResponse
