import OpenResponse.Proofs.Builder.Separation
import OpenResponse.Proofs.Token.Faults
import OpenResponse.Proofs.Token.Layout

/-!
# String literals in the text of a chain

The text of a chain shows strings as literals: the arguments of its calls, and the names and parts
of its examples.  They are written in the escapes of documents, while string literals are read with
escapes of their own.  A quote, a backslash, a line feed, a carriage return and a tab are escaped
alike by both.  A backspace, a form feed and every character that is written with its number have no
escape that is read, so a literal is read back exactly if its string does without them, and reading
fails at the first of them otherwise.

A literal is followed character by character.  Each one is read back and leaves the rest of the
literal to be read, or stops the reading for good.

That a literal stands in the text of its chain is one part, and what is read of it is the other.
The first goes down the text as it is written: the arguments of a call stand in the call, the call
stands in the chain, and a chain that is an argument stands between parentheses again.  For the
second each character is a piece of a literal or an escape that is unknown, so the laws for pieces
do the reading up to the first character that is lost.

## Main definitions

* `Chain.Shows` — the strings that a chain shows as literals
* `IsCarried` — the characters that are written and read alike

## Main statements

* `Chain.Shows.infix_chainChars` — the text of a chain holds the literals of the strings it shows
* `exists_piece_of_isCarried`, `readString_lost` — what is read of a literal
* `chainText_literals` — **which literals of a chain are read back**

## Hypotheses

`Chain.Shows` names the strings by where they are in the chain, and it leaves out calls that are not
written.  A chain that begins with a reference, or with a response to be inlined, is written as that
and nothing else, so `WritesCall` excludes such chains; the name of a reference is shown by itself.

A string is read from its own literal and not from the text of the whole chain, because the text
around it is not one of the language that is read here.
-/

namespace OpenResponse

/-! ### Strings that a chain shows

Occurrence in a text is stated with `List.IsInfix`, which passes through everything that is put
around a text. -/

/-- A call with its arguments in a chain that is written as its calls, which neither a reference nor
a response to be inlined is. -/
structure Chain.WritesCall (chain : Chain) (method : String) (args : List Argument) : Prop where
  listed : Instruction.call method args ∈ chain
  notNew : method ≠ "new"
  notDefault : method ≠ "default"
  built : ∀ first name others, chain.head? = some (.call first (.document name :: others)) →
    first ≠ "ref_from_response_name" ∧ first ≠ "inline_response"

/-- The strings that the text of a chain shows as literals. -/
inductive Chain.Shows : Chain → String → Prop
  | reference (name : String) (args : List Argument) (calls : Chain) :
      Shows (.call "ref_from_response_name" (.string name :: args) :: calls) name
  | argument {chain : Chain} {method text : String} {args : List Argument}
      (call : chain.WritesCall method args) (given : Argument.string text ∈ args) : Shows chain text
  | nested {chain inner : Chain} {method text : String} {args : List Argument}
      (call : chain.WritesCall method args) (given : Argument.chain inner ∈ args)
      (shows : Shows inner text) : Shows chain text
  | exampleName {chain : Chain} {method name : String} {args : List Argument}
      {entries : List (String × Example)} {entry : Example} (call : chain.WritesCall method args)
      (given : Argument.examples entries ∈ args) (listed : (name, entry) ∈ entries) :
      Shows chain name
  | examplePart {chain : Chain} {method name text : String} {args : List Argument}
      {entries : List (String × Example)} {entry : Example} (call : chain.WritesCall method args)
      (given : Argument.examples entries ∈ args) (listed : (name, entry) ∈ entries)
      (said : entry.summary = some text ∨ entry.description = some text ∨
        entry.externalValue = some text) : Shows chain text

/-- A text among others stands in the text of them all. -/
theorem infix_commaSeparated {text : List Char} {texts : List (List Char)} (listed : text ∈ texts) :
    text <:+: commaSeparated texts := by
  induction texts with
  | nil => cases listed
  | cons first rest ih =>
    cases rest with
    | nil =>
      obtain rfl := List.mem_singleton.mp listed
      have alone : commaSeparated [text] = text := List.intercalate_singleton
      exact alone.symm ▸ List.infix_rfl
    | cons second rest =>
      rw [commaSeparated, List.intercalate_cons_cons]
      rcases List.mem_cons.mp listed with rfl | behind
      · exact ((List.prefix_append _ _).trans (List.prefix_append _ _)).isInfix
      · exact (ih behind).trans (List.suffix_append _ _).isInfix

/-- The argument of a call stands in its text. -/
theorem infix_callChars (method : String) (argument : List Char) :
    argument <:+: callChars method argument :=
  ⟨'.' :: (method.toList ++ ['(']), [')'], by simp [callChars]⟩

private theorem chars_mem_argumentsChars
    {argument : Argument} {args : List Argument} {method : String}
    (given : argument ∈ args) : argument.chars method ∈ argumentsChars method args := by
  induction args with
  | nil => cases given
  | cons first rest ih =>
    rw [argumentsChars]
    rcases List.mem_cons.mp given with rfl | behind
    · exact List.mem_cons_self
    · exact List.mem_cons_of_mem _ (ih behind)

private theorem infix_instructionsChars {instruction : Instruction} {calls : Chain}
    (listed : instruction ∈ calls) (builder : String) :
    instruction.chars builder <:+: instructionsChars builder calls := by
  induction calls with
  | nil => cases listed
  | cons first calls ih =>
    rw [instructionsChars]
    rcases List.mem_cons.mp listed with rfl | behind
    · exact List.infix_append [] _ _
    · exact (ih behind).trans (List.suffix_append _ _).isInfix

/-- The parts of an example stand in its text. -/
theorem Example.infix_chars {entry : Example} {text : String}
    (said : entry.summary = some text ∨ entry.description = some text ∨
      entry.externalValue = some text) : quotedText true text <:+: entry.chars := by
  have inCall (method : String) (rest : List Char) :
      quotedText true text <:+: optionalCall method (quotedText true) (some text) ++ rest :=
    (infix_callChars method _).trans (List.prefix_append _ _).isInfix
  have later {front back : List Char} (holds : quotedText true text <:+: back) :
      quotedText true text <:+: front ++ back :=
    holds.trans (List.suffix_append front back).isInfix
  rw [← List.append_nil entry.chars, entry.chars_append]
  rcases said with isText | isText | isText
  · rw [isText]
    exact later (inCall "summary" _)
  · rw [isText]
    exact later (later (inCall "description" _))
  · rw [isText]
    exact later (later (later (later (inCall "external_value" _))))

namespace Chain

variable {chain : Chain} {method : String} {args : List Argument}

/-- A chain that begins neither with a reference nor with a response to be inlined is written as its
calls. -/
theorem chainCharsWith_of_built
    (built : ∀ first name others, chain.head? = some (.call first (.document name :: others)) →
      first ≠ "ref_from_response_name" ∧ first ≠ "inline_response")
    (calls : List Char) : chainCharsWith chain calls = calls := by
  unfold chainCharsWith
  split
  next first name others _ =>
    obtain ⟨noReference, noInlining⟩ := built first name others rfl
    rw [if_neg noReference, if_neg noInlining]
  next => rfl

/-- The arguments of the calls of a chain stand in its text. -/
theorem WritesCall.infix_chainChars (call : chain.WritesCall method args) {argument : Argument}
    (given : argument ∈ args) (builder : String) :
    argument.chars method <:+: chainChars builder chain := by
  have written : chainChars builder chain = instructionsChars builder chain :=
    chainCharsWith_of_built call.built _
  have inCall : argument.chars method <:+: (Instruction.call method args).chars builder := by
    rw [Instruction.chars, if_neg call.notNew, if_neg call.notDefault]
    exact (infix_commaSeparated (chars_mem_argumentsChars given)).trans (infix_callChars _ _)
  rw [written]
  exact inCall.trans (infix_instructionsChars call.listed builder)

/-- The examples of a chain stand in its text. -/
theorem WritesCall.infix_examples (call : chain.WritesCall method args)
    {entries : List (String × Example)} {name : String} {entry : Example}
    (given : Argument.examples entries ∈ args) (listed : (name, entry) ∈ entries)
    (builder : String) : namedExampleChars name entry <:+: chainChars builder chain := by
  have among : namedExampleChars name entry ∈
      entries.map fun named => namedExampleChars named.1 named.2 :=
    List.mem_map.mpr ⟨_, listed, rfl⟩
  have inArgument : namedExampleChars name entry <:+: (Argument.examples entries).chars method := by
    rw [Argument.chars]
    exact (infix_commaSeparated among).trans ⟨['['], [']'], rfl⟩
  exact inArgument.trans (call.infix_chainChars given builder)

/-- The text of a chain holds the literals of the strings that it shows.  The induction is on where
the string is shown.  Chains inside of chains are written as they are alone, with the name of
another builder. -/
theorem Shows.infix_chainChars {text : String} (shows : chain.Shows text) (builder : String) :
    quotedText true text <:+: chainChars builder chain := by
  induction shows generalizing builder with
  | reference name args calls => exact ⟨"Ref::from_response_name(".toList, [')'], rfl⟩
  | @argument chain method text args call given =>
    refine List.IsInfix.trans ?_ (call.infix_chainChars given builder)
    rw [Argument.string, Argument.chars]
    split
    · exact ⟨"Some(json!(".toList, "))".toList, rfl⟩
    · exact List.infix_rfl
  | @nested chain inner method text args call given _ ih =>
    exact (ih (nestedBuilder method)).trans (call.infix_chainChars given builder)
  | @exampleName chain method name args entries entry call given listed =>
    have inExample : quotedText true name <:+: namedExampleChars name entry :=
      ⟨['('], ',' :: ' ' :: (entry.chars ++ [')']), by simp [namedExampleChars]⟩
    exact inExample.trans (call.infix_examples given listed builder)
  | @examplePart chain method name text args entries entry call given listed said =>
    have inExample : entry.chars <:+: namedExampleChars name entry :=
      ⟨'(' :: (quotedText true name ++ [',', ' ']), [')'], by simp [namedExampleChars]⟩
    exact ((Example.infix_chars said).trans inExample).trans
      (call.infix_examples given listed builder)

end Chain

/-! ### Reading literals

A character is carried if the two kinds of escapes agree on it.  All others are written behind a
backslash with one of three letters, and none of these is the letter of an escape that is read. -/

/-- The characters that are written and read alike: the printable ASCII characters, the line feed,
the carriage return and the tab. -/
def IsCarried (c : Char) : Prop :=
  c = '\n' ∨ c = '\r' ∨ c = '\t' ∨ 0x20 ≤ c.toNat ∧ c.toNat ≤ 0x7e

instance (c : Char) : Decidable (IsCarried c) :=
  inferInstanceAs (Decidable (c = '\n' ∨ c = '\r' ∨ c = '\t' ∨ 0x20 ≤ c.toNat ∧ c.toNat ≤ 0x7e))

/-- What stands behind the backslash of a character that is not carried. -/
def escapeLetter (c : Char) : Char :=
  if c.toNat = 8 then 'b' else if c.toNat = 12 then 'f' else 'u'

/-- A character that is carried is written as a piece that denotes it. -/
theorem exists_piece_of_isCarried {c : Char} (carried : IsCarried c) :
    ∃ piece : LiteralPiece, piece.text = quotedTextChar true c ∧ piece.denoted = [c] := by
  by_cases isQuote : c = '"'
  · subst isQuote
    exact ⟨.simple '"' '"' (by decide), rfl, rfl⟩
  by_cases isBackslash : c = '\\'
  · subst isBackslash
    exact ⟨.simple '\\' '\\' (by decide), rfl, rfl⟩
  rcases carried with rfl | rfl | rfl | ⟨printable, ascii⟩
  · exact ⟨.simple 'n' '\n' (by decide), rfl, rfl⟩
  · exact ⟨.simple 'r' '\r' (by decide), rfl, rfl⟩
  · exact ⟨.simple 't' '\t' (by decide), rfl, rfl⟩
  · refine ⟨.plain c isQuote isBackslash, ?_, rfl⟩
    have above (low : Char) (small : low.toNat < 0x20) : c ≠ low := by
      rintro rfl
      omega
    rw [quotedTextChar, if_neg isQuote, if_neg isBackslash, if_neg (above '\n' (by decide)),
      if_neg (above '\r' (by decide)), if_neg (above '\t' (by decide)), if_neg (by omega),
      if_neg (by omega), if_neg (by omega)]
    rfl

/-- The escape of a number is unknown. -/
theorem readEscape_hexadecimal {unit : Nat} (small : unit < 0x10000) (back : List Char) :
    readEscape ('u' :: ((hexadecimal 4 unit).toList ++ back)) =
      .error (.unknownEscape (Char.toString 'u')) := by
  have digit : ∀ n < 16, Nat.digitChar n ≠ '{' := by decide
  have noBrace (rest : List Char) (same : (hexadecimal 4 unit).toList ++ back = '{' :: rest) :
      False := by
    rw [hexadecimal_four small] at same
    exact digit _ (by omega) (List.cons.inj same).1
  rw [readEscape.eq_4 'u' _ (fun rest _ => noBrace rest) (by decide) (by decide)]
  rfl

/-- A character that is not carried is written behind a backslash, in an escape that is unknown. -/
theorem quotedTextChar_of_not_isCarried {c : Char} (lost : ¬ IsCarried c) (back : List Char) :
    ∃ more, quotedTextChar true c ++ back = '\\' :: more ∧
      readEscape more = .error (.unknownEscape (escapeLetter c).toString) := by
  simp only [IsCarried, not_or, not_and_or, Nat.not_le] at lost
  obtain ⟨noFeed, noReturn, noTab, outside⟩ := lost
  have noQuote : c ≠ '"' := by
    rintro rfl
    revert outside
    decide
  have noBackslash : c ≠ '\\' := by
    rintro rfl
    revert outside
    decide
  rw [quotedTextChar, if_neg noQuote, if_neg noBackslash, if_neg noFeed, if_neg noReturn,
    if_neg noTab, escapeLetter]
  split
  next => exact ⟨_, rfl, rfl⟩
  next =>
  split
  next => exact ⟨_, rfl, rfl⟩
  next =>
  -- what is left is written by its number without braces, and no such escape is read
  rw [if_pos (by simp; omega), numberedEscape]
  split
  next small => exact ⟨_, Document.unitEscape_append _ back, readEscape_hexadecimal small back⟩
  next =>
    have valid := Document.toNat_valid c
    rw [List.append_assoc]
    exact ⟨_, Document.unitEscape_append _ _, readEscape_hexadecimal (by omega) _⟩

/-- Reading fails behind the backslash of a character that is not carried.  The letter there is none
that the reader knows, and the fault is found at its place.
-/
theorem readString_lost {start here : Location} {back : List Char} {c : Char}
    (lost : ¬ IsCarried c) :
    readString start here (quotedTextChar true c ++ back) =
      .error (.found (here.next '\\') (.unknownEscape (escapeLetter c).toString)) := by
  obtain ⟨more, text, unknown⟩ := quotedTextChar_of_not_isCarried lost back
  rw [text, readString.eq_3, unknown]
  rfl

/-- The literal of a string whose characters are all carried is the token of the string. -/
theorem tokenize_carried {text : String} (carried : ∀ c ∈ text.toList, IsCarried c)
    (origin : Location) :
    ∃ stream, tokenize origin (String.ofList (quotedText true text)) = .ok stream ∧
      stream.tokens = [⟨.string, text, origin⟩] := by
  have read : tokenize origin (String.ofList (quotedText true text)) = _ :=
    tokenize_literal fun _ _ => readString_flatMap fun c listed =>
      exists_piece_of_isCarried (carried c listed)
  rw [String.ofList_toList] at read
  exact ⟨_, read, rfl⟩

/-- The literal of another string is refused behind the backslash of the first character that is not
carried. -/
theorem tokenize_lost {text : String} {front back : List Char} {c : Char}
    (first : text.toList = front ++ c :: back) (carried : ∀ d ∈ front, IsCarried d)
    (lost : ¬ IsCarried c) (origin : Location) :
    tokenize origin (String.ofList (quotedText true text)) =
      .error (.found (origin.behind ('"' :: front.flatMap (quotedTextChar true) ++ ['\\']))
        (.unknownEscape (escapeLetter c).toString)) := by
  have literal : quotedText true text = '"' :: (front.flatMap (quotedTextChar true) ++
      (quotedTextChar true c ++ (back.flatMap (quotedTextChar true) ++ ['"']))) := by
    simp [quotedText, first]
  rw [tokenize_eq_error, String.toList_ofList, literal]
  refine scan_eq_error.mpr ⟨origin, '"', _, .here _ _, ScanStep.readLexeme_eq (.badString ?_)⟩
  rw [readString_flatMap fun d before => exists_piece_of_isCarried (carried d before),
    readString_lost lost, List.cons_append, Location.behind_cons,
    Location.behind_append]
  rfl

/-- A text holds a first character that is not carried, or none. -/
theorem exists_first_lost (text : List Char) :
    (∀ c ∈ text, IsCarried c) ∨ ∃ front c back, text = front ++ c :: back ∧
      (∀ d ∈ front, IsCarried d) ∧ ¬ IsCarried c := by
  induction text with
  | nil => exact .inl nofun
  | cons c text ih =>
    by_cases first : IsCarried c
    · rcases ih with others | ⟨front, d, back, rfl, before, lost⟩
      · exact .inl (List.forall_mem_cons.mpr ⟨first, others⟩)
      · exact .inr ⟨c :: front, d, back, rfl, List.forall_mem_cons.mpr ⟨first, before⟩, lost⟩
    · exact .inr ⟨[], c, text, rfl, nofun, first⟩

/-- **Which literals of a chain are read back.**  The text of a chain holds the literal of every
string that it shows.  The literal is read as a single token with the value of the string exactly if
all characters of the string are carried; otherwise reading fails behind the backslash of the first
one that is not, over the letter of its escape. -/
theorem chainText_literals {builder text shown : String} {chain : Chain}
    (written : chainText builder chain = .ok text) (shows : chain.Shows shown)
    (origin : Location) :
    quotedText true shown <:+: text.toList ∧
      ((∃ stream, tokenize origin (String.ofList (quotedText true shown)) = .ok stream ∧
        stream.tokens = [⟨.string, shown, origin⟩]) ↔ ∀ c ∈ shown.toList, IsCarried c) ∧
      ∀ front c back, shown.toList = front ++ c :: back → (∀ d ∈ front, IsCarried d) →
        ¬ IsCarried c → tokenize origin (String.ofList (quotedText true shown)) =
          .error (.found (origin.behind ('"' :: front.flatMap (quotedTextChar true) ++ ['\\']))
            (.unknownEscape (escapeLetter c).toString)) := by
  refine ⟨?_, ⟨fun read => ?_, fun carried => tokenize_carried carried origin⟩, ?_⟩
  · rw [chainText] at written
    split at written
    · cases written
    · cases written
      rw [String.toList_ofList]
      exact shows.infix_chainChars builder
  · obtain ⟨stream, isRead, -⟩ := read
    refine (exists_first_lost shown.toList).resolve_right ?_
    rintro ⟨front, c, back, first, carried, lost⟩
    cases isRead.symm.trans (tokenize_lost first carried lost origin)
  · intro front c back first carried lost
    exact tokenize_lost first carried lost origin

/-- A description of a header that ends in a letter which is not carried. -/
theorem chainText_literals_header :
    let header : Chain := [.new, .call "description" [.string "caf\u00e9"], .build]
    let chain : Chain := [.new, .call "header" [.string "X-Shop", .chain header], .build]
    ∃ text, chainText "ResponseBuilder" chain = .ok text ∧ chain.Shows "caf\u00e9" ∧
      "\"caf\\u00e9\"".toList <:+: text.toList ∧
      tokenize .start "\"caf\\u00e9\"" = .error (.found ⟨1, 6⟩ (.unknownEscape "u")) := by
  intro header chain
  have inner : Chain.WritesCall header "description" [.string "caf\u00e9"] :=
    ⟨by simp [header], by decide, by decide, fun _ _ _ first => by cases first⟩
  have outer : Chain.WritesCall chain "header" [.string "X-Shop", .chain header] :=
    ⟨by simp [chain], by decide, by decide, fun _ _ _ first => by cases first⟩
  have shows : chain.Shows "caf\u00e9" :=
    .nested outer (by simp) (.argument inner (by simp))
  have isLiteral : quotedText true "caf\u00e9" = "\"caf\\u00e9\"".toList := by decide
  obtain ⟨text, written⟩ : ∃ text, chainText "ResponseBuilder" chain = .ok text := ⟨_, rfl⟩
  obtain ⟨holds, -, refused⟩ := chainText_literals written shows .start
  rw [isLiteral] at holds
  rw [isLiteral, String.ofList_toList] at refused
  have carried : ∀ c ∈ ['c', 'a', 'f'], IsCarried c := by simp [IsCarried]
  have fault := refused ['c', 'a', 'f'] '\u00e9' [] (by decide) carried (by decide)
  have place : Location.start.behind
      ('"' :: ['c', 'a', 'f'].flatMap (quotedTextChar true) ++ ['\\']) = ⟨1, 6⟩ := by decide
  rw [place] at fault
  exact ⟨text, written, shows, holds, fault⟩

/-- The description of a response with a letter that is not ASCII is not read back. -/
theorem tokenize_accentedLiteral :
    ¬ ∀ (builder text shown : String) (chain : Chain), chainText builder chain = .ok text →
      chain.Shows shown → ∃ stream,
        tokenize .start (String.ofList (quotedText true shown)) = .ok stream ∧
          stream.tokens = [⟨.string, shown, .start⟩] := by
  intro reads
  let chain : Chain := [.new, .call "description" [.string "\u00e9"], .build]
  have call : chain.WritesCall "description" [.string "\u00e9"] :=
    ⟨by simp [chain], by decide, by decide, fun _ _ _ first => by cases first⟩
  obtain ⟨stream, read, -⟩ := reads "ResponseBuilder" _ "\u00e9" chain rfl
    (.argument call (by simp))
  have refused : tokenize .start (String.ofList (quotedText true "\u00e9")) =
      .error (.found ⟨1, 3⟩ (.unknownEscape "u")) := by
    decide +kernel
  cases read.symm.trans refused

end OpenResponse
