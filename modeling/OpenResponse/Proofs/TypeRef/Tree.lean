import OpenResponse.Proofs.TypeRef.Spacing

/-!
# Trees of types

A type has more in its text than is kept of it: references, lifetimes, the lengths of arrays, and a
comma behind the last type argument.  A tree keeps all of it.  It has one list of symbols and is
erased to one type, and the form of types allows just what trees have for symbols and are erased to.

One thing is not a matter of the tree alone.  A reference is mutable if the word for that stands
behind its mark, so a shared reference cannot refer to a type that begins with this word.

So the forms of types, which relate tokens to types, are taken apart in two: which symbols a tree
has, and what is kept of it.  Both are functions, and neither knows of tokens or of reading.  From a
tree to the form, the tokens are cut where the symbols of the parts end.  From the form to a tree,
the induction is along the form, and every part brings a tree of its own.

## Main definitions

* `PathTree`, `TypeTree` — paths and types as they are written
* `TypeTree.symbols`, `TypeTree.erased` — the symbols of a tree, and the type that is kept of it
* `TypeTree.Plain` — trees in which no shared reference seems to be a mutable one

## Main statements

* `TypeTree.Plain.typeForm` — the symbols of a tree are a type
* `TypeForm.exists_tree` — a type is written with the symbols of a tree

## Hypotheses

`TypeTree.Plain` excludes just the trees whose symbols would be read as those of another tree.  Only
the first symbol of a target matters, so it is stated with the symbols and not with the form of the
tree: a path that begins with the word, with or without arguments, is excluded, and nothing else.

From the form to a tree it is asked that the tokens have texts.  A kind alone does not fix a
punctuation mark, since a token may have any value; a token with a text is the symbol that its kind
says.
-/

namespace OpenResponse

/-! ### Trees

Type arguments are given as a list of lifetimes and types, so the functions on trees recurse through
it with a function of their own, and are then shown to be maps over the list. -/

/-- A path as it is written.  It differs from a path as it is kept in that its names are a list. -/
structure PathTree where
  /-- Whether a separator stands in front of the first name. -/
  isRooted : Bool
  /-- The first name. -/
  first : String
  /-- The other names. -/
  rest : List String

/-- A type as it is written.  It keeps what a type as it is read forgets: references, lengths,
lifetimes, and last commas. -/
inductive TypeTree
  /-- A reference with its lifetime, if one is given. -/
  | reference (lifetime : Option String) (isMutable : Bool) (target : TypeTree)
  | slice (item : TypeTree)
  /-- An array and the text of its length. -/
  | array (item : TypeTree) (length : String)
  | unit
  /-- A path without type arguments. -/
  | named (path : PathTree)
  /-- A path with type arguments, which are lifetimes and types.  The last of them may be followed
  by a comma. -/
  | generic (path : PathTree) (args : List (String ⊕ TypeTree)) (trailing : Bool)

/-- A lifetime. -/
def Symbol.lifetime (name : String) : Symbol := ⟨.lifetime, name⟩

/-- An integer. -/
def Symbol.integer (text : String) : Symbol := ⟨.integer, text⟩

/-- The names of a path. -/
def PathTree.names (path : PathTree) : List String := path.first :: path.rest

/-- The symbols of a path.  A separator stands between any two names, and in front if the path is
rooted. -/
def PathTree.symbols (path : PathTree) : List Symbol :=
  (if path.isRooted then [.separator] else []) ++
    .word path.first :: path.rest.flatMap fun name => [.separator, .word name]

/-- The text that is kept of a path. -/
def PathTree.text (path : PathTree) : String := joinPath path.isRooted path.names

namespace TypeTree

mutual

/-- The symbols of a type.  They are all that is written; only the gaps between them are left open.
-/
def symbols : TypeTree → List Symbol
  | .reference lifetime isMutable target =>
    .mark '&' :: ((lifetime.map Symbol.lifetime).toList ++
      ((if isMutable then [.word "mut"] else []) ++ target.symbols))
  | .slice item => .mark '[' :: (item.symbols ++ [.mark ']'])
  | .array item length =>
    .mark '[' :: (item.symbols ++ [.mark ';', .integer length, .mark ']'])
  | .unit => [.mark '(', .mark ')']
  | .named path => path.symbols
  | .generic path args trailing =>
    path.symbols ++ .mark '<' :: (punctuate trailing (argSymbols args) ++ [.mark '>'])

/-- The symbols of each of some type arguments. -/
def argSymbols : List (String ⊕ TypeTree) → List (List Symbol)
  | [] => []
  | .inl lifetime :: rest => [.lifetime lifetime] :: argSymbols rest
  | .inr type :: rest => type.symbols :: argSymbols rest

end

mutual

/-- What is kept of a type: references, lifetimes and the lengths of arrays leave no trace. -/
def erased : TypeTree → TypeRef
  | .reference _ _ target => target.erased
  | .slice item => .slice item.erased
  | .array item _ => .slice item.erased
  | .unit => .unit
  | .named path => .path path.text []
  | .generic path args _ => .path path.text (erasedArgs args)

/-- What is kept of type arguments. -/
def erasedArgs : List (String ⊕ TypeTree) → List TypeRef
  | [] => []
  | .inl _ :: rest => erasedArgs rest
  | .inr type :: rest => type.erased :: erasedArgs rest

end

/-- No shared reference refers to a type whose first token is the word of mutable ones. -/
inductive Plain : TypeTree → Prop
  | shared {lifetime : Option String} {target : TypeTree}
      (notMutable : target.symbols.head? ≠ some (.word "mut")) (plain : target.Plain) :
      Plain (.reference lifetime false target)
  | mutable {lifetime : Option String} {target : TypeTree} (plain : target.Plain) :
      Plain (.reference lifetime true target)
  | slice {item : TypeTree} (plain : item.Plain) : Plain (.slice item)
  | array {item : TypeTree} {length : String} (plain : item.Plain) : Plain (.array item length)
  | unit : Plain .unit
  | named {path : PathTree} : Plain (.named path)
  | generic {path : PathTree} {args : List (String ⊕ TypeTree)} {trailing : Bool}
      (plain : ∀ arg, .inr arg ∈ args → arg.Plain) : Plain (.generic path args trailing)

/-- The symbols of a type argument. -/
def symbolsOfArg : String ⊕ TypeTree → List Symbol
  | .inl lifetime => [.lifetime lifetime]
  | .inr type => type.symbols

/-- What is kept of a type argument. -/
def erasedArg : String ⊕ TypeTree → Option TypeRef
  | .inl _ => none
  | .inr type => some type.erased

private theorem argSymbols_eq_map (args : List (String ⊕ TypeTree)) :
    argSymbols args = args.map symbolsOfArg := by
  induction args with
  | nil => rfl
  | cons arg rest ih => cases arg <;> rw [argSymbols, ih, List.map_cons, symbolsOfArg]

private theorem erasedArgs_eq_filterMap (args : List (String ⊕ TypeTree)) :
    erasedArgs args = (args.map erasedArg).filterMap id := by
  induction args with
  | nil => rfl
  | cons arg rest ih => cases arg <;> rw [erasedArgs, ih] <;> rfl

end TypeTree

/-! ### The symbols of trees are types

The tokens are known by their symbols only.  Where a list of symbols is put together, so is the list
of tokens, and the parts have the symbols of the parts. -/

private theorem pathTail_of_symbols {names : List String} {tokens : List Token}
    (same : tokens.map Token.symbol = names.flatMap fun name => [.separator, .word name]) :
    PathTail tokens names := by
  induction names generalizing tokens with
  | nil =>
    rw [List.map_eq_nil_iff.mp same]
    exact .nil
  | cons name names ih =>
    obtain ⟨separator, _, rfl, isSeparator, sameRest⟩ := List.map_eq_cons_iff.mp same
    obtain ⟨word, rest, rfl, isWord, sameOthers⟩ := List.map_eq_cons_iff.mp sameRest
    have isText : word.value = name := congrArg Symbol.value isWord
    rw [← isText]
    exact .cons (congrArg Symbol.kind isSeparator) (congrArg Symbol.kind isWord) (ih sameOthers)

/-- The symbols of a path are a path. -/
theorem PathTree.pathForm {path : PathTree} {tokens : List Token}
    (same : tokens.map Token.symbol = path.symbols) : pathForm tokens path.text := by
  obtain ⟨isRooted, name, rest⟩ := path
  obtain ⟨front, back, rfl, frontSame, backSame⟩ := List.map_eq_append_iff.mp same
  obtain ⟨first, others, rfl, isFirst, sameOthers⟩ := List.map_eq_cons_iff.mp backSame
  have isText : first.value = name := congrArg Symbol.value isFirst
  have root : Form.optional .pathSeparator front isRooted := by
    cases isRooted with
    | true =>
      obtain ⟨separator, rfl, isSeparator⟩ := List.map_eq_singleton_iff.mp frontSame
      exact .inl ⟨separator, rfl, congrArg Symbol.kind isSeparator, rfl⟩
    | false => exact .inr ⟨List.map_eq_nil_iff.mp frontSame, rfl⟩
  refine ⟨front, first :: others, isRooted, rfl, root, ?_⟩
  refine Form.token_bind_iff.mpr ⟨first, others, rfl, congrArg Symbol.kind isFirst, ?_⟩
  refine ⟨others, [], rest, (List.append_nil _).symm, pathTail_of_symbols sameOthers, rfl, ?_⟩
  rw [isText]
  rfl

private theorem lifetime_of_symbols {lifetime : Option String} {tokens : List Token}
    (same : tokens.map Token.symbol = (lifetime.map Symbol.lifetime).toList) :
    Form.optional .lifetime tokens lifetime.isSome := by
  cases lifetime with
  | none => exact .inr ⟨List.map_eq_nil_iff.mp same, rfl⟩
  | some name =>
    obtain ⟨token, rfl, isLifetime⟩ := List.map_eq_singleton_iff.mp same
    exact .inl ⟨token, rfl, congrArg Symbol.kind isLifetime, rfl⟩

/-- A token is a word if it has the symbol of that word. -/
theorem isWord_iff {token : Token} {word : String} :
    token.isWord word = true ↔ token.symbol = .word word := by
  rw [Token.isWord_iff, Token.symbol, Symbol.word, Symbol.mk.injEq]

/-- The symbols of a tree are a type: the one that the tree is erased to. -/
theorem TypeTree.Plain.typeForm {tree : TypeTree} (plain : tree.Plain) {tokens : List Token}
    (same : tokens.map Token.symbol = tree.symbols) : TypeForm tokens tree.erased := by
  -- the tokens are cut where the symbols of the tree are, and each part is a type by itself
  induction plain generalizing tokens with
  | @shared lifetime target notMutable _ ih =>
    obtain ⟨mark, _, rfl, isMark, sameRest⟩ := List.map_eq_cons_iff.mp same
    obtain ⟨front, inner, rfl, frontSame, innerSame⟩ := List.map_eq_append_iff.mp sameRest
    refine .shared (congrArg Symbol.kind isMark) (lifetime_of_symbols frontSame) ?_ (ih innerSame)
    intro first isFirst
    refine Bool.eq_false_iff.mpr fun isWord => notMutable ?_
    have sameHead : (inner.map Token.symbol).head? = target.symbols.head? :=
      congrArg List.head? innerSame
    rw [← sameHead, List.head?_map, isFirst, Option.map_some, isWord_iff.mp isWord]
  | @mutable lifetime target _ ih =>
    obtain ⟨mark, _, rfl, isMark, sameRest⟩ := List.map_eq_cons_iff.mp same
    obtain ⟨front, _, rfl, frontSame, backSame⟩ := List.map_eq_append_iff.mp sameRest
    obtain ⟨word, inner, rfl, isWord, innerSame⟩ := List.map_eq_cons_iff.mp backSame
    exact .mutable (congrArg Symbol.kind isMark) (lifetime_of_symbols frontSame)
      (isWord_iff.mpr isWord) (ih innerSame)
  | slice _ ih =>
    obtain ⟨opening, _, rfl, isOpening, sameRest⟩ := List.map_eq_cons_iff.mp same
    obtain ⟨inner, _, rfl, innerSame, closingSame⟩ := List.map_eq_append_iff.mp sameRest
    obtain ⟨closing, rfl, isClosing⟩ := List.map_eq_singleton_iff.mp closingSame
    exact .slice (congrArg Symbol.kind isOpening) (ih innerSame) (congrArg Symbol.kind isClosing)
  | array _ ih =>
    obtain ⟨opening, _, rfl, isOpening, sameRest⟩ := List.map_eq_cons_iff.mp same
    obtain ⟨inner, _, rfl, innerSame, behind⟩ := List.map_eq_append_iff.mp sameRest
    obtain ⟨semicolon, _, rfl, isSemicolon, behind⟩ := List.map_eq_cons_iff.mp behind
    obtain ⟨length, _, rfl, isLength, behind⟩ := List.map_eq_cons_iff.mp behind
    obtain ⟨closing, rfl, isClosing⟩ := List.map_eq_singleton_iff.mp behind
    exact .array (congrArg Symbol.kind isOpening) (ih innerSame) (congrArg Symbol.kind isSemicolon)
      (congrArg Symbol.kind isLength) (congrArg Symbol.kind isClosing)
  | unit =>
    obtain ⟨opening, _, rfl, isOpening, sameRest⟩ := List.map_eq_cons_iff.mp same
    obtain ⟨closing, rfl, isClosing⟩ := List.map_eq_singleton_iff.mp sameRest
    exact .unit (congrArg Symbol.kind isOpening) (congrArg Symbol.kind isClosing)
  | named => exact .named (PathTree.pathForm same)
  | @generic path args trailing _ ih =>
    obtain ⟨front, _, rfl, frontSame, behind⟩ := List.map_eq_append_iff.mp same
    obtain ⟨less, _, rfl, isLess, behind⟩ := List.map_eq_cons_iff.mp behind
    obtain ⟨inner, _, rfl, innerSame, behind⟩ := List.map_eq_append_iff.mp behind
    obtain ⟨greater, rfl, isGreater⟩ := List.map_eq_singleton_iff.mp behind
    have each : List.Forall₂ (fun symbols arg => ∀ tokens, tokens.map Token.symbol = symbols →
        ArgumentForm TypeForm tokens arg) (args.map symbolsOfArg) (args.map erasedArg) := by
      rw [List.forall₂_map_left_iff, List.forall₂_map_right_iff, List.forall₂_same]
      intro arg listed tokens same
      cases arg with
      | inl lifetime =>
        obtain ⟨token, rfl, isLifetime⟩ := List.map_eq_singleton_iff.mp same
        exact .lifetime (congrArg Symbol.kind isLifetime)
      | inr type => exact .type (ih type listed same)
    rw [argSymbols_eq_map] at innerSame
    rw [erased, erasedArgs_eq_filterMap]
    exact .generic (PathTree.pathForm frontSame) (congrArg Symbol.kind isLess)
      (CommaList.of_punctuate each trailing inner innerSame) (congrArg Symbol.kind isGreater)

/-! ### Types are written with the symbols of trees

What is lost in a type is found again in its tokens: whether there was a lifetime and which, how
long an array is, and whether the last argument had a comma. -/

namespace Denotes

variable {text : List Char} {symbol : Symbol}

/-- A token of the kind of a punctuation mark is that mark. -/
theorem eq_mark (denotes : Denotes text symbol) {c : Char} {kind : TokenKind}
    (isMark : TokenKind.ofMark? c = some kind) (isKind : symbol.kind = kind) :
    symbol = .mark c := by
  have notOther := ne_of_ofMark? isMark
  cases denotes with
  | name | rawName => exact absurd isKind.symm (notOther .identifier (by decide))
  | lifetime => exact absurd isKind.symm (notOther .lifetime (by decide))
  | integer => exact absurd isKind.symm (notOther .integer (by decide))
  | separator => exact absurd isKind.symm (notOther .pathSeparator (by decide))
  | @mark d listed =>
    obtain ⟨other, isOther⟩ := exists_ofMark? listed
    rw [Symbol.mark, isOther] at isKind
    have same : other = kind := isKind
    rw [eq_of_ofMark? isMark (same ▸ isOther)]

/-- A token of the kind of separators is one. -/
theorem eq_separator (denotes : Denotes text symbol) (isKind : symbol.kind = .pathSeparator) :
    symbol = .separator := by
  cases denotes with
  | separator => rfl
  | @mark c listed =>
    obtain ⟨kind, isMark⟩ := exists_ofMark? listed
    rw [Symbol.mark, isMark] at isKind
    exact absurd isKind (ne_of_ofMark? isMark _ (by decide))
  | name | rawName | lifetime | integer => cases isKind

/-- A token of the kind of names has a name for its value. -/
theorem isName_value (denotes : Denotes text symbol) (isKind : symbol.kind = .identifier) :
    isName symbol.value = true := by
  cases denotes with
  | name isName => exact isName
  | rawName isName => exact isName
  | @mark c listed =>
    obtain ⟨kind, isMark⟩ := exists_ofMark? listed
    rw [Symbol.mark, isMark] at isKind
    exact absurd isKind (ne_of_ofMark? isMark _ (by decide))
  | lifetime | integer | separator => cases isKind

end Denotes

/-- All tokens have texts. -/
def Denoted (tokens : List Token) : Prop := ∀ token ∈ tokens, ∃ text, Denotes text token.symbol

namespace Denoted

variable {first : Token} {tokens front back : List Token}

theorem tail (denoted : Denoted (first :: tokens)) : Denoted tokens :=
  fun token listed => denoted token (List.mem_cons_of_mem _ listed)

theorem left (denoted : Denoted (front ++ back)) : Denoted front :=
  fun token listed => denoted token (List.mem_append_left _ listed)

theorem right (denoted : Denoted (front ++ back)) : Denoted back :=
  fun token listed => denoted token (List.mem_append_right _ listed)

/-- A punctuation mark in front of other tokens. -/
theorem mark (denoted : Denoted (first :: tokens)) (c : Char) {kind : TokenKind}
    (isMark : TokenKind.ofMark? c = some kind) (isKind : first.kind = kind) :
    first.symbol = .mark c := by
  obtain ⟨text, denotes⟩ := denoted first List.mem_cons_self
  exact denotes.eq_mark isMark isKind

private theorem separator
    (denoted : Denoted (first :: tokens)) (isKind : first.kind = .pathSeparator) :
    first.symbol = .separator := by
  obtain ⟨text, denotes⟩ := denoted first List.mem_cons_self
  exact denotes.eq_separator isKind

end Denoted

private theorem symbol_of_kind {token : Token} {kind : TokenKind} (isKind : token.kind = kind) :
    token.symbol = ⟨kind, token.value⟩ := by
  rw [Token.symbol, isKind]

/-- The names behind the first one are written each behind a separator. -/
theorem PathTail.symbols {tokens : List Token} {names : List String} (tail : PathTail tokens names)
    (denoted : Denoted tokens) :
    (names.flatMap fun name => [.separator, .word name]) = tokens.map Token.symbol := by
  induction tail with
  | nil => rfl
  | @cons separator word tokens names isSeparator isName _ ih =>
    rw [List.map_cons, List.map_cons, denoted.separator isSeparator, symbol_of_kind isName,
      ← ih denoted.tail.tail]
    rfl

/-- A path is written with the symbols of a tree.  The tree has the names of the path in the order
of the tokens. -/
theorem pathForm.exists_tree {tokens : List Token} {text : String}
    (written : OpenResponse.pathForm tokens text) (denoted : Denoted tokens) :
    ∃ path : PathTree, path.text = text ∧ path.symbols = tokens.map Token.symbol := by
  obtain ⟨front, _, isRooted, rfl, root, written⟩ := written
  obtain ⟨first, _, rfl, isName, written⟩ := Form.token_bind_iff.mp written
  obtain ⟨others, _, names, rfl, tail, rfl, rfl⟩ := written
  rw [List.append_nil] at denoted ⊢
  refine ⟨⟨isRooted, first.value, names⟩, rfl, ?_⟩
  rw [PathTree.symbols, PathTail.symbols tail denoted.right.tail, List.map_append, List.map_cons,
    symbol_of_kind isName]
  rcases root with ⟨separator, rfl, isSeparator, rfl⟩ | ⟨rfl, rfl⟩
  · rw [List.map_singleton, denoted.separator isSeparator]
    rfl
  · rfl

private theorem exists_lifetime {tokens : List Token} {there : Bool}
    (written : Form.optional .lifetime tokens there) :
    ∃ lifetime : Option String,
      (lifetime.map Symbol.lifetime).toList = tokens.map Token.symbol := by
  rcases written with ⟨token, rfl, isLifetime, -⟩ | ⟨rfl, -⟩
  · exact ⟨some token.value, by rw [List.map_singleton, symbol_of_kind isLifetime]; rfl⟩
  · exact ⟨none, rfl⟩

/-- A type that is written with the symbols of a tree. -/
def HasTree (tokens : List Token) (type : TypeRef) : Prop :=
  ∃ tree : TypeTree, tree.Plain ∧ tree.erased = type ∧ tree.symbols = tokens.map Token.symbol

/-- A type argument is written with the symbols of one. -/
theorem ArgumentForm.exists_arg {tokens : List Token} {arg : Option TypeRef}
    (written : ArgumentForm (fun tokens type => Denoted tokens → HasTree tokens type) tokens arg)
    (denoted : Denoted tokens) :
    ∃ tree : String ⊕ TypeTree, (∀ type, tree = .inr type → type.Plain) ∧
      TypeTree.erasedArg tree = arg ∧ TypeTree.symbolsOfArg tree = tokens.map Token.symbol := by
  cases written with
  | @lifetime token isLifetime =>
    refine ⟨.inl token.value, fun _ same => (by cases same), rfl, ?_⟩
    rw [List.map_singleton, symbol_of_kind isLifetime]
    rfl
  | type written =>
    obtain ⟨tree, plain, rfl, symbols⟩ := written denoted
    refine ⟨.inr tree, ?_, rfl, symbols⟩
    rintro _ ⟨⟩
    exact plain

/-- Type arguments are written one by one. -/
theorem CommaList.exists_args {inner : List Token} {args : List (Option TypeRef)}
    (list : CommaList (ArgumentForm fun tokens type => Denoted tokens → HasTree tokens type)
      inner args) (denoted : Denoted inner) :
    ∃ (trees : List (String ⊕ TypeTree)) (trailing : Bool),
      (∀ tree, .inr tree ∈ trees → tree.Plain) ∧ trees.map TypeTree.erasedArg = args ∧
      punctuate trailing (trees.map TypeTree.symbolsOfArg) = inner.map Token.symbol := by
  induction list with
  | nil => exact ⟨[], false, fun _ listed => (List.not_mem_nil listed).elim, rfl, rfl⟩
  | last written =>
    obtain ⟨tree, plain, rfl, symbols⟩ := written.exists_arg denoted
    refine ⟨[tree], false, fun type listed => ?_, rfl, ?_⟩
    · exact plain type (List.mem_singleton.mp listed).symm
    · rw [List.map_singleton, punctuate, symbols]
      exact List.append_nil _
  | @cons tokens more comma arg args written isComma _ ih =>
    obtain ⟨tree, plain, rfl, symbols⟩ := written.exists_arg denoted.left
    obtain ⟨trees, trailing, plainTrees, rfl, othersSymbols⟩ := ih denoted.right.tail
    have commaSymbol := denoted.right.mark ',' rfl isComma
    have allPlain : ∀ type, .inr type ∈ tree :: trees → type.Plain := by
      intro type listed
      rcases List.mem_cons.mp listed with same | later
      · exact plain type same.symm
      · exact plainTrees type later
    rw [List.map_append, List.map_cons, commaSymbol, ← symbols, ← othersSymbols]
    cases trees with
    | nil => exact ⟨[tree], true, allPlain, rfl, rfl⟩
    | cons second trees => exact ⟨tree :: second :: trees, trailing, allPlain, rfl, rfl⟩

/-- A type is written with the symbols of a tree that is erased to it.  The induction is on the
form.  The tokens of a part have texts because those of the whole have, and behind a reference mark
no tree begins with the word that would make the reference mutable. -/
theorem TypeForm.exists_tree {tokens : List Token} {type : TypeRef}
    (written : TypeForm tokens type) : Denoted tokens → HasTree tokens type := by
  -- the tokens of a part have texts because those of the whole have, so each part has a tree
  refine TypeForm.inductOn ?shared ?mutable ?slice ?array ?unit ?named ?generic written
  case shared =>
    intro mark lifetime inner there type isMark isLifetime notMutable ih denoted
    obtain ⟨tree, plain, rfl, symbols⟩ := ih denoted.tail.right
    obtain ⟨name, lifetimeSymbols⟩ := exists_lifetime isLifetime
    refine ⟨.reference name false tree, .shared ?_ plain, rfl, ?_⟩
    · rw [symbols, List.head?_map]
      intro isWord
      obtain ⟨first, isFirst, isSymbol⟩ := Option.map_eq_some_iff.mp isWord
      have other := notMutable first isFirst
      rw [isWord_iff.mpr isSymbol] at other
      cases other
    · rw [List.map_cons, List.map_append, denoted.mark '&' rfl isMark, ← lifetimeSymbols, ← symbols]
      rfl
  case mutable =>
    intro mark word lifetime inner there type isMark isLifetime isMutable ih denoted
    obtain ⟨tree, plain, rfl, symbols⟩ := ih denoted.tail.right.tail
    obtain ⟨name, lifetimeSymbols⟩ := exists_lifetime isLifetime
    refine ⟨.reference name true tree, .mutable plain, rfl, ?_⟩
    rw [List.map_cons, List.map_append, List.map_cons, denoted.mark '&' rfl isMark,
      isWord_iff.mp isMutable, ← lifetimeSymbols, ← symbols]
    rfl
  case slice =>
    intro opening closing inner item isOpening isClosing ih denoted
    obtain ⟨tree, plain, rfl, symbols⟩ := ih denoted.tail.left
    refine ⟨.slice tree, .slice plain, rfl, ?_⟩
    rw [List.map_cons, List.map_append, List.map_singleton, denoted.mark '[' rfl isOpening,
      denoted.tail.right.mark ']' rfl isClosing, ← symbols]
    rfl
  case array =>
    intro opening semicolon length closing inner item isOpening isSemicolon isLength isClosing ih
      denoted
    obtain ⟨tree, plain, rfl, symbols⟩ := ih denoted.tail.left
    have behind := denoted.tail.right
    refine ⟨.array tree length.value, .array plain, rfl, ?_⟩
    rw [List.map_cons, List.map_append, List.map_cons, List.map_cons, List.map_singleton,
      denoted.mark '[' rfl isOpening, behind.mark ';' rfl isSemicolon, symbol_of_kind isLength,
      behind.tail.tail.mark ']' rfl isClosing, ← symbols]
    rfl
  case unit =>
    intro opening closing isOpening isClosing denoted
    refine ⟨.unit, .unit, rfl, ?_⟩
    rw [List.map_cons, List.map_singleton, denoted.mark '(' rfl isOpening,
      denoted.tail.mark ')' rfl isClosing]
    rfl
  case named =>
    intro tokens text isPath denoted
    obtain ⟨path, rfl, symbols⟩ := pathForm.exists_tree isPath denoted
    exact ⟨.named path, .named, rfl, symbols⟩
  case generic =>
    intro front inner less greater text args isPath isLess list isGreater denoted
    obtain ⟨path, rfl, symbols⟩ := pathForm.exists_tree isPath denoted.left
    have behind := denoted.right
    obtain ⟨trees, trailing, plain, rfl, innerSymbols⟩ := list.exists_args behind.tail.left
    refine ⟨.generic path trees trailing, .generic plain, ?_, ?_⟩
    · rw [TypeTree.erased, TypeTree.erasedArgs_eq_filterMap]
    · rw [TypeTree.symbols, TypeTree.argSymbols_eq_map, innerSymbols, symbols, List.map_append,
        List.map_cons, List.map_append, List.map_singleton, behind.mark '<' rfl isLess,
        behind.tail.right.mark '>' rfl isGreater]

end OpenResponse
