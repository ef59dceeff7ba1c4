import OpenResponse.Proofs.Token.Lists
import OpenResponse.TypeRef.Parser

/-!
# The form of types

A type is written as a path with type arguments, as a slice or an array, as the unit type, or as a
reference to another type.  References, lifetimes and the lengths of arrays are written for nothing.

There are fewer readers than constructors.  A shared and a mutable reference begin with the same
mark, a slice and an array with the same bracket, and a path does not say by its first name whether
arguments follow.  So the form is given twice: as an inductive predicate, which says what types
there are, and as `typeStep`, which groups them by their first token as a parser does.
`typeForm_iff` says that these are the same, and reading is compared with the second only.

## Main definitions

* `PathTail`, `pathForm` — paths
* `TypeForm` — types
* `inlineTypeForm` — types that may be marked to be written out

## Main statements

* `Parser.Reads.typeRef`, `Parser.Reads.inlineType` — the readers of types

## Hypotheses

The type arguments are a list of types inside a type, so the induction principle that is generated
for `TypeForm` says nothing of them.  `TypeForm.inductOn` does: it carries the motive into the list.

A reader of types takes as many tokens as its budget has, and `Reads` holds for lists of tokens up
to that length.  This is no loss, because the budget is the number of tokens that are there.

What may follow a type is asked as `closing`: neither a separator nor an angle bracket, with which
the type would go on.  Only the readers of paths get by with less, since an angle bracket ends a
path.
-/

namespace OpenResponse

/-! ### Paths

The text of a path is put together from its names.  An empty part in front stands for the separator
at which a path begins that starts at the root. -/

/-- The names that continue a path.  Each is written behind a separator of its own. -/
inductive PathTail : List Token → List String → Prop
  | nil : PathTail [] []
  | cons {separator word : Token} {tokens : List Token} {names : List String}
      (isSeparator : separator.kind = .pathSeparator) (isName : word.kind = .identifier)
      (others : PathTail tokens names) :
      PathTail (separator :: word :: tokens) (word.value :: names)

/-- The names that continue a path, as a form. -/
def tailForm : Form (List String) := PathTail

/-- The path of its names, which may begin at the root. -/
def joinPath (root : Bool) (names : List String) : String :=
  "::".intercalate ((if root then [""] else []) ++ names)

/-- A path.  A separator may stand in front of its first name, and is kept in the text of the path.
-/
def pathForm : Form String := do
  let root ← Form.optional .pathSeparator
  let first ← Form.token .identifier
  let names ← tailForm
  return joinPath root (first :: names)

/-! ### Types

Nothing is said about how deep types may be nested, and arguments may be lifetimes only, or none at
all: what the reader refuses is refused here, and nothing else. -/

/-- A type argument: a lifetime, which is written for nothing, or a type. -/
inductive ArgumentForm (type : List Token → TypeRef → Prop) : List Token → Option TypeRef → Prop
  | lifetime {token : Token} (isLifetime : token.kind = .lifetime) : ArgumentForm type [token] none
  | type {tokens : List Token} {arg : TypeRef} (written : type tokens arg) :
      ArgumentForm type tokens (some arg)

/-- A type.  There is a constructor for each way to write one, references and arrays included,
although they leave no trace. -/
inductive TypeForm : List Token → TypeRef → Prop
  /-- A shared reference.  What it refers to does not begin with the word that would make it a
  mutable one. -/
  | shared {mark : Token} {lifetime inner : List Token} {there : Bool} {type : TypeRef}
      (isMark : mark.kind = .ampersand) (isLifetime : Form.optional .lifetime lifetime there)
      (notMutable : ∀ first ∈ inner.head?, first.isWord "mut" = false)
      (written : TypeForm inner type) : TypeForm (mark :: (lifetime ++ inner)) type
  /-- A mutable reference. -/
  | mutable {mark word : Token} {lifetime inner : List Token} {there : Bool} {type : TypeRef}
      (isMark : mark.kind = .ampersand) (isLifetime : Form.optional .lifetime lifetime there)
      (isMutable : word.isWord "mut" = true) (written : TypeForm inner type) :
      TypeForm (mark :: (lifetime ++ word :: inner)) type
  /-- A slice. -/
  | slice {opening closing : Token} {inner : List Token} {item : TypeRef}
      (isOpening : opening.kind = .openBracket) (written : TypeForm inner item)
      (isClosing : closing.kind = .closeBracket) :
      TypeForm (opening :: (inner ++ [closing])) (.slice item)
  /-- An array. -/
  | array {opening semicolon length closing : Token} {inner : List Token} {item : TypeRef}
      (isOpening : opening.kind = .openBracket) (written : TypeForm inner item)
      (isSemicolon : semicolon.kind = .semicolon) (isLength : length.kind = .integer)
      (isClosing : closing.kind = .closeBracket) :
      TypeForm (opening :: (inner ++ [semicolon, length, closing])) (.slice item)
  /-- The unit type. -/
  | unit {opening closing : Token} (isOpening : opening.kind = .openParen)
      (isClosing : closing.kind = .closeParen) : TypeForm [opening, closing] .unit
  /-- A path without type arguments. -/
  | named {tokens : List Token} {path : String} (written : pathForm tokens path) :
      TypeForm tokens (.path path [])
  /-- A path with type arguments. -/
  | generic {front inner : List Token} {less greater : Token} {path : String}
      {args : List (Option TypeRef)} (written : pathForm front path) (isLess : less.kind = .less)
      (list : CommaList (ArgumentForm TypeForm) inner args) (isGreater : greater.kind = .greater) :
      TypeForm (front ++ less :: (inner ++ [greater])) (.path path (args.filterMap id))

/-- What holds of a type if it holds of the types inside it holds of all types.  In a list of type
arguments it holds of every type among them. -/
@[elab_as_elim]
theorem TypeForm.inductOn {motive : List Token → TypeRef → Prop}
    (shared : ∀ {mark lifetime inner there type}, mark.kind = .ampersand →
      Form.optional .lifetime lifetime there → (∀ first ∈ inner.head?, first.isWord "mut" = false) →
      motive inner type → motive (mark :: (lifetime ++ inner)) type)
    (mutable : ∀ {mark word lifetime inner there type}, mark.kind = .ampersand →
      Form.optional .lifetime lifetime there → word.isWord "mut" = true →
      motive inner type → motive (mark :: (lifetime ++ word :: inner)) type)
    (slice : ∀ {opening closing inner item}, opening.kind = .openBracket →
      closing.kind = .closeBracket → motive inner item →
      motive (opening :: (inner ++ [closing])) (.slice item))
    (array : ∀ {opening semicolon length closing inner item}, opening.kind = .openBracket →
      semicolon.kind = .semicolon → length.kind = .integer → closing.kind = .closeBracket →
      motive inner item →
      motive (opening :: (inner ++ [semicolon, length, closing])) (.slice item))
    (unit : ∀ {opening closing}, opening.kind = .openParen → closing.kind = .closeParen →
      motive [opening, closing] .unit)
    (named : ∀ {tokens path}, pathForm tokens path → motive tokens (.path path []))
    (generic : ∀ {front inner less greater path args}, pathForm front path → less.kind = .less →
      CommaList (ArgumentForm motive) inner args → greater.kind = .greater →
      motive (front ++ less :: (inner ++ [greater])) (.path path (args.filterMap id)))
    {tokens : List Token} {type : TypeRef} (written : TypeForm tokens type) :
    motive tokens type :=
  @TypeForm.rec (fun tokens type _ => motive tokens type)
    (fun tokens args _ => CommaList (ArgumentForm motive) tokens args)
    (fun tokens arg _ => ArgumentForm motive tokens arg)
    (fun isMark isLifetime notMutable _ => shared isMark isLifetime notMutable)
    (fun isMark isLifetime isMutable _ => mutable isMark isLifetime isMutable)
    (fun isOpening _ isClosing => slice isOpening isClosing)
    (fun isOpening _ isSemicolon isLength isClosing =>
      array isOpening isSemicolon isLength isClosing)
    unit named (fun isPath isLess _ isGreater list => generic isPath isLess list isGreater)
    .nil (fun _ => .last) (fun _ isComma _ first others => .cons first isComma others)
    .lifetime (fun _ => .type) tokens type written

/-- A type, as a form. -/
def typeForm : Form TypeRef := TypeForm

/-- A type argument, as a form. -/
def argumentForm (type : Form TypeRef) : Form (Option TypeRef) := ArgumentForm type

/-- A type that may be marked to be written out.  The mark is a word with a parenthesis behind it;
the word by itself is a type. -/
def inlineTypeForm : Form InlineType :=
  Form.either
    (do
      Form.word "inline"
      let _ ← Form.token .openParen
      let type ← typeForm
      let _ ← Form.token .closeParen
      return ⟨type, true⟩)
    (do return ⟨← typeForm, false⟩)

/-! ### What types begin with

No type is empty, and a single token tells a type from what closes a list or an argument.  This is
what makes lists of types and optional parts readable with one token to look at. -/

/-- A path begins with a name or with a separator. -/
theorem pathForm_cons {tokens : List Token} {path : String} (written : pathForm tokens path) :
    ∃ first back, tokens = first :: back ∧
      (first.kind = .identifier ∨ first.kind = .pathSeparator) := by
  rcases Form.optional_bind_iff.mp written with ⟨first, back, rfl, isKind, -⟩ | written
  · exact ⟨first, back, rfl, .inr isKind⟩
  · obtain ⟨first, back, rfl, isKind, -⟩ := Form.token_bind_iff.mp written
    exact ⟨first, back, rfl, .inl isKind⟩

/-- Whether a type can begin with a token of a kind. -/
def TokenKind.opensType : TokenKind → Bool
  | .ampersand | .openBracket | .openParen | .identifier | .pathSeparator => true
  | _ => false

/-- A type begins with a token of one of five kinds; in particular it is not empty. -/
theorem TypeForm.cons {tokens : List Token} {type : TypeRef} (written : TypeForm tokens type) :
    ∃ first back, tokens = first :: back ∧ first.kind.opensType = true := by
  have ofPath {tokens : List Token} {path : String} (written : pathForm tokens path) :
      ∃ first back, tokens = first :: back ∧ first.kind.opensType = true := by
    obtain ⟨first, back, rfl, isName | isSeparator⟩ := pathForm_cons written
    · exact ⟨first, back, rfl, by rw [isName]; rfl⟩
    · exact ⟨first, back, rfl, by rw [isSeparator]; rfl⟩
  cases written with
  | shared isMark => exact ⟨_, _, rfl, by rw [isMark]; rfl⟩
  | mutable isMark => exact ⟨_, _, rfl, by rw [isMark]; rfl⟩
  | slice isOpening => exact ⟨_, _, rfl, by rw [isOpening]; rfl⟩
  | array isOpening => exact ⟨_, _, rfl, by rw [isOpening]; rfl⟩
  | unit isOpening => exact ⟨_, _, rfl, by rw [isOpening]; rfl⟩
  | named written => exact ofPath written
  | generic written =>
    obtain ⟨first, back, rfl, opens⟩ := ofPath written
    exact ⟨first, _, rfl, opens⟩

/-! ### One step of a type

Each of these forms takes the form of the inner types as a parameter, as each reader takes the
reader of the inner types.  A step of the form is then compared with a step of the reader, and the
recursion is left to one induction. -/

/-- What may stand behind the mark of a reference. -/
def targetForm (type : Form TypeRef) : Form TypeRef := do
  let _ ← Form.optional .lifetime
  Form.either (do Form.word "mut"; type) (Form.unlessWord "mut" type)

/-- What may stand behind an opening bracket. -/
def itemForm (type : Form TypeRef) : Form TypeRef := do
  let item ← type
  let long ← Form.optional .semicolon
  if long then
    let _ ← Form.token .integer
    let _ ← Form.token .closeBracket
    return .slice item
  else
    let _ ← Form.token .closeBracket
    return .slice item

/-- A path and its type arguments. -/
def namedForm (type : Form TypeRef) : Form TypeRef := do
  let path ← pathForm
  let generic ← Form.optional .less
  if generic then
    let args ← listForm .greater (argumentForm type)
    return .path path (args.filterMap id)
  else return .path path []

/-- A type whose parts have a form of their own. -/
def typeStep (type : Form TypeRef) : Form TypeRef :=
  Form.either (do let _ ← Form.token .ampersand; targetForm type)
    (Form.either (do let _ ← Form.token .openBracket; itemForm type)
      (Form.either (do
        let _ ← Form.token .openParen
        let _ ← Form.token .closeParen
        return .unit) (namedForm type)))

/-- A type is one of the four sorts that its first token tells apart. -/
theorem typeForm_iff {tokens : List Token} {type : TypeRef} :
    TypeForm tokens type ↔ typeStep typeForm tokens type := by
  -- several ways to write a type share a step: what tells them apart stands behind the first token
  constructor
  · intro written
    cases written with
    | shared isMark isLifetime notMutable written =>
      refine .inl (Form.token_bind_iff.mpr ⟨_, _, rfl, isMark, ?_⟩)
      exact ⟨_, _, _, rfl, isLifetime, .inr ⟨written, notMutable⟩⟩
    | mutable isMark isLifetime isMutable written =>
      refine .inl (Form.token_bind_iff.mpr ⟨_, _, rfl, isMark, ?_⟩)
      refine ⟨_, _, _, rfl, isLifetime, .inl ?_⟩
      exact Form.word_bind_iff.mpr ⟨_, _, rfl, isMutable, written⟩
    | slice isOpening written isClosing =>
      refine .inr (.inl (Form.token_bind_iff.mpr ⟨_, _, rfl, isOpening, ?_⟩))
      refine ⟨_, _, _, rfl, written, Form.optional_bind_iff.mpr (.inr ?_)⟩
      exact Form.token_bind_iff.mpr ⟨_, _, rfl, isClosing, rfl, rfl⟩
    | array isOpening written isSemicolon isLength isClosing =>
      refine .inr (.inl (Form.token_bind_iff.mpr ⟨_, _, rfl, isOpening, ?_⟩))
      refine ⟨_, _, _, rfl, written, Form.optional_bind_iff.mpr (.inl ⟨_, _, rfl, isSemicolon, ?_⟩)⟩
      refine Form.token_bind_iff.mpr ⟨_, _, rfl, isLength, ?_⟩
      exact Form.token_bind_iff.mpr ⟨_, _, rfl, isClosing, rfl, rfl⟩
    | unit isOpening isClosing =>
      refine .inr (.inr (.inl (Form.token_bind_iff.mpr ⟨_, _, rfl, isOpening, ?_⟩)))
      exact Form.token_bind_iff.mpr ⟨_, _, rfl, isClosing, rfl, rfl⟩
    | named written =>
      refine .inr (.inr (.inr ⟨_, [], _, (List.append_nil _).symm, written, ?_⟩))
      exact Form.optional_bind_iff.mpr (.inr ⟨rfl, rfl⟩)
    | generic written isLess list isGreater =>
      refine .inr (.inr (.inr ⟨_, _, _, rfl, written, ?_⟩))
      refine Form.optional_bind_iff.mpr (.inl ⟨_, _, rfl, isLess, ?_⟩)
      exact ⟨_, [], _, (List.append_nil _).symm, ⟨_, _, rfl, isGreater, list⟩, rfl, rfl⟩
  · rintro (written | written | written | written)
    · obtain ⟨mark, _, rfl, isMark, written⟩ := Form.token_bind_iff.mp written
      obtain ⟨lifetime, inner, there, rfl, isLifetime, written | ⟨written, notMutable⟩⟩ := written
      · obtain ⟨word, inner, rfl, isMutable, written⟩ := Form.word_bind_iff.mp written
        exact .mutable isMark isLifetime isMutable written
      · exact .shared isMark isLifetime notMutable written
    · obtain ⟨opening, _, rfl, isOpening, written⟩ := Form.token_bind_iff.mp written
      obtain ⟨inner, _, item, rfl, part, closed⟩ := written
      rcases Form.optional_bind_iff.mp closed with ⟨semicolon, _, rfl, isSemicolon, closed⟩ | closed
      · obtain ⟨length, _, rfl, isLength, closed⟩ := Form.token_bind_iff.mp closed
        obtain ⟨closing, _, rfl, isClosing, rfl, rfl⟩ := Form.token_bind_iff.mp closed
        exact .array isOpening part isSemicolon isLength isClosing
      · obtain ⟨closing, _, rfl, isClosing, rfl, rfl⟩ := Form.token_bind_iff.mp closed
        exact .slice isOpening part isClosing
    · obtain ⟨opening, _, rfl, isOpening, written⟩ := Form.token_bind_iff.mp written
      obtain ⟨closing, _, rfl, isClosing, rfl, rfl⟩ := Form.token_bind_iff.mp written
      exact .unit isOpening isClosing
    · obtain ⟨front, back, path, rfl, written, others⟩ := written
      rcases Form.optional_bind_iff.mp others with ⟨less, back, rfl, isLess, others⟩ | ⟨rfl, rfl⟩
      · obtain ⟨_, _, args, rfl, ⟨inner, greater, rfl, isGreater, list⟩, rfl, rfl⟩ := others
        rw [List.append_nil]
        exact .generic written isLess list isGreater
      · rw [List.append_nil]
        exact .named written

/-- The first token of a type decides what sort of type it is. -/
theorem typeForm_cons_iff {first : Token} {back : List Token} {type : TypeRef} :
    typeForm (first :: back) type ↔
      first.kind = .ampersand ∧ targetForm typeForm back type ∨
      first.kind = .openBracket ∧ itemForm typeForm back type ∨
      first.kind = .openParen ∧
        (do let _ ← Form.token .closeParen; return .unit : Form TypeRef) back type ∨
      (first.kind = .identifier ∨ first.kind = .pathSeparator) ∧
        namedForm typeForm (first :: back) type := by
  have opens (written : namedForm typeForm (first :: back) type) :
      first.kind = .identifier ∨ first.kind = .pathSeparator := by
    obtain ⟨front, _, path, whole, written, -⟩ := written
    obtain ⟨_, _, rfl, isKind⟩ := pathForm_cons written
    cases whole
    exact isKind
  refine typeForm_iff.trans ?_
  refine or_congr Form.cons_token_bind_iff (or_congr Form.cons_token_bind_iff
    (or_congr Form.cons_token_bind_iff ?_))
  exact ⟨fun written => ⟨opens written, written⟩, fun written => written.2⟩

namespace Parser.Reads

open TokenStream

variable {n : Nat}

/-! ### Reading types

The readers are taken in the order in which they call each other.  What a name, a mark or a bracket
decides is used where the reader decides it; behind that, each part is read by what is already known
of its own reader. -/

/-- The names that continue a path are all taken. -/
theorem pathTail_sound {tokens behind : List Token} {names : List String}
    (split : pathTail tokens = (names, behind)) :
    ∃ front, tokens = front ++ behind ∧ PathTail front names := by
  fun_induction pathTail tokens generalizing names behind with
  | case1 separator word rest isTail inner others split' ih =>
    cases split
    obtain ⟨front, rfl, tail⟩ := ih split'
    rw [Bool.and_eq_true, beq_iff_eq, beq_iff_eq] at isTail
    exact ⟨separator :: word :: front, rfl, .cons isTail.1 isTail.2 tail⟩
  | case2 separator word rest notTail =>
    cases split
    exact ⟨[], rfl, .nil⟩
  | case3 tokens short =>
    cases split
    exact ⟨[], rfl, .nil⟩

private theorem pathTail_complete
    {front : List Token} {names : List String} (tail : PathTail front names)
    {rest : TokenStream} (notSeparator : rest.front ≠ .pathSeparator) :
    pathTail (front ++ rest.tokens) = (names, rest.tokens) := by
  induction tail with
  | nil =>
    obtain ⟨tokens, finish⟩ := rest
    rcases tokens with _ | ⟨first, _ | ⟨second, tokens⟩⟩
    · rfl
    · rfl
    · have differ : (first.kind == TokenKind.pathSeparator) = false := beq_false_of_ne notSeparator
      rw [List.nil_append, pathTail, differ, Bool.false_and]
      rfl
  | @cons separator word tokens names isSeparator isName others ih =>
    rw [List.cons_append, List.cons_append, pathTail, ih, isSeparator, isName]
    rfl

/-- No name continues a path in front of such a token. -/
def endsPath (kind : TokenKind) : Prop := kind ≠ .pathSeparator

private theorem pathNames : Reads n endsPath Parser.pathNames tailForm := by
  constructor
  · intro stream names rest read
    have split : pathTail stream.tokens =
        ((pathTail stream.tokens).1, (pathTail stream.tokens).2) := rfl
    obtain ⟨front, whole, tail⟩ := pathTail_sound split
    cases read
    refine ⟨front, ?_, tail⟩
    rw [preceded, ← whole]
  · intro front names rest _ tail notSeparator
    show EStateM.Result.ok (pathTail (front ++ rest.tokens)).1
      { rest with tokens := (pathTail (front ++ rest.tokens)).2 } = _
    rw [pathTail_complete tail notSeparator]

private theorem typePath : Reads n endsPath Parser.typePath pathForm := by
  have named (root : Option Token) : Reads n endsPath (do
      let first ← expectAs .identifier "type"
      let names ← Parser.pathNames
      return "::".intercalate ((if root.isSome then [""] else []) ++ first.value :: names))
      (do
        let first ← Form.token .identifier
        let names ← tailForm
        return joinPath root.isSome (first :: names)) :=
    bindExpectAs _ (by decide) fun _ _ => pathNames.bind (fun _ => pure _) fun _ =>
      .pure fun _ suits => suits
  refine bindEat (by decide) (fun token => named (some token)) (named none) ?_
  exact .token_bind _ (by decide)

/-- A type argument. -/
theorem typeArgument {type : Parser TypeRef} (reads : Reads n closing type typeForm) :
    Reads n closing (Parser.typeArgument type)
      (argumentForm typeForm) := by
  have either : Reads n closing (Parser.typeArgument type) (do
      let lifetime ← Form.optional .lifetime
      if lifetime then return none else some <$> typeForm) := by
    refine bindEat (by decide) (fun _ => pure none) (reads.map some) ?_
    intro tokens value written rest _ same
    obtain ⟨arg, written, -⟩ := Form.map_iff.mp written
    obtain ⟨first, back, rfl, opens⟩ := TypeForm.cons written
    rw [front_preceded] at same
    rw [same] at opens
    cases opens
  refine either.congr fun tokens value => ?_
  constructor
  · intro written
    rcases Form.optional_bind_iff.mp written with ⟨token, _, rfl, isLifetime, rfl, rfl⟩ | written
    · exact .lifetime isLifetime
    · obtain ⟨arg, part, rfl⟩ := Form.map_iff.mp written
      exact .type part
  · rintro (isLifetime | written)
    · exact Form.optional_bind_iff.mpr (.inl ⟨_, [], rfl, isLifetime, rfl, rfl⟩)
    · exact Form.optional_bind_iff.mpr (.inr (Form.map_iff.mpr ⟨_, written, rfl⟩))

private theorem not_greater_of_argument {tokens : List Token} {arg : Option TypeRef}
    (written : ArgumentForm TypeForm tokens arg) :
    ∃ first back, tokens = first :: back ∧ first.kind ≠ .greater := by
  cases written with
  | lifetime isLifetime => exact ⟨_, [], rfl, by rw [isLifetime]; decide⟩
  | type written =>
    obtain ⟨first, back, rfl, opens⟩ := TypeForm.cons written
    exact ⟨first, back, rfl, fun same => by rw [same] at opens; cases opens⟩

/-- Behind the mark of a reference. -/
theorem target {type : Parser TypeRef} (reads : Reads n closing type typeForm) :
    Reads n closing
      (do
        let _ ← eat .lifetime
        if (← Parser.peek).isWord "mut" then
          let _ ← Parser.next
        type)
      (targetForm typeForm) := by
  -- what stands behind the lifetime is the same whether there is one
  have behind : Reads n closing
      (do
        if (← Parser.peek).isWord "mut" then
          let _ ← Parser.next
        type)
      (Form.either (do Form.word "mut"; typeForm) (Form.unlessWord "mut" typeForm)) := by
    refine peek (fun first => ?_) fun value written => ?_
    · by_cases isMutable : first.isWord "mut" = true
      · rw [if_pos isMutable]
        refine .next (by rw [Form.kind_of_isWord isMutable]; decide) (reads.congr ?_) (by omega)
        intro tokens value
        constructor
        · intro written
          exact .inl (Form.cons_word_bind_iff.mpr ⟨isMutable, written⟩)
        · rintro (written | ⟨-, notMutable⟩)
          · exact (Form.cons_word_bind_iff.mp written).2
          · rw [notMutable first rfl] at isMutable
            cases isMutable
      · rw [if_neg isMutable]
        refine .of_reads reads (fun tokens value head written => .inr ⟨written, ?_⟩) ?_
        · intro token isHead
          rw [head token isHead]
          exact Bool.eq_false_iff.mpr isMutable
        · rintro back value (written | ⟨written, -⟩)
          · exact absurd (Form.cons_word_bind_iff.mp written).1 isMutable
          · exact written
    · rcases written with written | ⟨written, -⟩
      · exact Form.not_word_bind_nil written
      · obtain ⟨_, _, same, -⟩ := TypeForm.cons written
        cases same
  refine bindEat (by decide) (fun _ => behind) behind (.either (.word_bind _ (by decide)) ?_)
  -- no type begins with a lifetime, so the optional one is not taken from it
  rintro tokens value ⟨written, -⟩ rest - same
  obtain ⟨first, back, rfl, opens⟩ := TypeForm.cons written
  rw [front_preceded] at same
  rw [same] at opens
  cases opens

/-- Behind an opening bracket. -/
theorem item {type : Parser TypeRef} (reads : Reads n closing type typeForm) :
    Reads n closing
      (do
        let item ← type
        if (← eat .semicolon).isSome then
          let _ ← expectAs .integer "array length"
        let _ ← expect .closeBracket
        return .slice item)
      (itemForm typeForm) := by
  have close (item : TypeRef) : Reads n closing
      (do let _ ← expect .closeBracket; return TypeRef.slice item)
      (do let _ ← Form.token .closeBracket; return .slice item) :=
    bindExpectAs _ (by decide) fun _ _ => pure _
  refine reads.bind (fun item => bindEat (by decide) (fun _ => ?_) (close item) ?_) fun item => ?_
  · exact bindExpectAs _ (by decide) fun _ _ => close item
  · exact .token_bind _ (by decide)
  · exact .optional_bind rfl (.token_bind _ rfl)

/-- A path and its type arguments. -/
theorem named {m : Nat} {type : Parser TypeRef} (reads : Reads m closing type typeForm)
    (enough : n ≤ m + 1) :
    Reads n closing
      (do
        let path ← Parser.typePath
        if (← eat .less).isSome then
          let args ← Parser.separated .greater "`,` or `>`" (Parser.typeArgument type)
          return .path path (args.filterMap id)
        else return .path path [])
      (namedForm typeForm) := by
  have args (path : String) : Reads m closing
      (do
        let args ← Parser.separated .greater "`,` or `>`" (Parser.typeArgument type)
        return TypeRef.path path (args.filterMap id))
      (do
        let args ← listForm .greater (argumentForm typeForm)
        return .path path (args.filterMap id)) :=
    (separated _ (typeArgument reads) (rfl : closing .greater) (by decide) (by decide)
      fun _ _ => not_greater_of_argument).bindPure _
  refine typePath.bindBehind (fun path => bindEat (by decide) (fun _ => args path) (pure _) ?_)
    (fun front path written => ?_) fun path => ?_
  · refine .pure fun kind follows same => ?_
    rw [same] at follows
    cases follows
  · obtain ⟨_, _, rfl, -⟩ := pathForm_cons written
    rw [List.length_cons]
    omega
  · refine .optional_bind (fun same => by cases same) (.pure fun kind follows same => ?_)
    rw [same] at follows
    cases follows

/-- Behind an opening parenthesis. -/
theorem unitTail : Reads n closing
    (do
      let closing ← Parser.peek
      unless closing.kind == .closeParen do failAt closing .tupleType
      let _ ← Parser.next
      return TypeRef.unit)
    (do let _ ← Form.token .closeParen; return .unit) := by
  refine peek (fun first => ?_) fun value => Form.not_token_bind_nil
  by_cases isClosing : first.kind = .closeParen
  · rw [if_pos (beq_iff_eq.mpr isClosing)]
    refine .next (m := n) (by rw [isClosing]; decide)
      ((pure TypeRef.unit).congr fun back type => ?_) (Nat.le_succ n)
    exact (Form.cons_token_bind_iff.trans (by simp [isClosing])).symm
  · rw [if_neg (fun same => isClosing (beq_iff_eq.mp same))]
    refine .refuse (fun stream value rest read => ?_) fun back value written => ?_
    · cases read
    · exact isClosing (Form.cons_token_bind_iff.mp written).1

/-- A type is read up to as many tokens as its budget, in front of anything that does not continue
it. -/
theorem typeRefWithin (budget : Nat) :
    Reads budget closing (Parser.typeRefWithin budget) typeForm := by
  induction budget with
  | zero =>
    constructor
    · intro stream value rest read
      cases read
    · intro tokens value rest short written
      obtain ⟨first, back, rfl, -⟩ := TypeForm.cons written
      simp at short
  | succ budget ih =>
    -- the first token tells the sorts of types apart, and the budget pays for those behind it
    refine peek (fun first => ?_) fun value written => ?_
    · have byName (isName : first.kind = .identifier ∨ first.kind = .pathSeparator) :
          At first (budget + 1) closing _ typeForm :=
        .of_reads (named ih (Nat.le_refl _))
          (fun tokens type _ written => typeForm_iff.mpr (.inr (.inr (.inr written))))
          fun back type written => by
            rcases typeForm_cons_iff.mp written with
              ⟨isKind, -⟩ | ⟨isKind, -⟩ | ⟨isKind, -⟩ | ⟨-, written⟩
            · simp [isKind] at isName
            · simp [isKind] at isName
            · simp [isKind] at isName
            · exact written
      split
      next isMark =>
        refine .next (by rw [isMark]; decide) ((target ih).congr fun back type => ?_)
          (Nat.le_refl _)
        exact (typeForm_cons_iff.trans (by simp [isMark])).symm
      next isOpening =>
        refine .next (by rw [isOpening]; decide) ((item ih).congr fun back type => ?_)
          (Nat.le_refl _)
        exact (typeForm_cons_iff.trans (by simp [isOpening])).symm
      next isOpening =>
        refine .next (by rw [isOpening]; decide) (unitTail.congr fun back type => ?_)
          (Nat.le_refl _)
        exact (typeForm_cons_iff.trans (by simp [isOpening])).symm
      next isName => exact byName (.inl isName)
      next isSeparator => exact byName (.inr isSeparator)
      next other =>
        refine .refuse (failAt_ne_ok _ _) fun back type written => ?_
        rcases typeForm_cons_iff.mp written with
          ⟨isKind, -⟩ | ⟨isKind, -⟩ | ⟨isKind, -⟩ | ⟨isKind | isKind, -⟩ <;> simp_all
    · obtain ⟨_, _, same, -⟩ := TypeForm.cons written
      cases same

/-- A type is read whatever its length: its budget is the number of the tokens that are there. -/
theorem typeRef : Reads n closing Parser.typeRef typeForm := remaining typeRefWithin

/-- Behind a name that begins a type stands a separator or a list of arguments, if anything. -/
theorem not_openParen_behind_name {tokens : List Token} {type : TypeRef}
    (written : typeForm tokens type) {rest : TokenStream} (follows : closing rest.front)
    {text : String} (isWord : ((rest.preceded tokens).lookahead 0).isWord text = true) :
    ((rest.preceded tokens).lookahead 1).kind ≠ .openParen := by
  obtain ⟨name, back, rfl, -⟩ := TypeForm.cons written
  have isName : name.kind = .identifier := Form.kind_of_isWord isWord
  rcases typeForm_cons_iff.mp written with ⟨isKind, -⟩ | ⟨isKind, -⟩ | ⟨isKind, -⟩ | ⟨-, named⟩
  · simp [isKind] at isName
  · simp [isKind] at isName
  · simp [isKind] at isName
  obtain ⟨front, others, path, whole, inPath, generic⟩ := named
  rcases Form.optional_bind_iff.mp inPath with ⟨_, _, rfl, isKind, -⟩ | inPath
  · cases whole
    simp [isKind] at isName
  obtain ⟨_, _, rfl, -, tail, _, names, rfl, inTail, rfl, -⟩ := Form.token_bind_iff.mp inPath
  rw [List.append_nil] at whole
  cases whole
  cases inTail with
  | cons isSeparator =>
    intro same
    cases isSeparator.symm.trans same
  | nil =>
    rcases Form.optional_bind_iff.mp generic with ⟨less, _, rfl, isLess, -⟩ | ⟨rfl, -⟩
    · intro same
      cases isLess.symm.trans same
    · intro same
      have front : rest.front = .openParen := same
      rw [front] at follows
      cases follows

private theorem not_typeForm_nil {type : TypeRef} : ¬ typeForm [] type := by
  intro written
  obtain ⟨_, _, same, -⟩ := TypeForm.cons written
  cases same

/-- A type that may be marked is read.  The word is a mark only in front of a parenthesis, so a type
of that name is still a type. -/
theorem inlineType : Reads n closing Parser.inlineType inlineTypeForm := by
  refine beforeWord (by decide) ?_
    (typeRef.bindPure _) ?_ ?_
  · refine typeRef.bind (fun type => ?_) fun type => .token_bind _ rfl
    exact bindExpectAs _ (by decide) fun _ _ => pure _
  · rintro value ⟨front, back, type, whole, inType, -⟩
    rw [(List.append_eq_nil_iff.mp whole.symm).1] at inType
    exact not_typeForm_nil inType
  · intro tokens value written rest follows isWord
    obtain ⟨front, _, type, rfl, inType, rfl, -⟩ := written
    rw [List.append_nil] at isWord ⊢
    exact not_openParen_behind_name inType follows isWord

/-- No such type is empty. -/
theorem not_inlineTypeForm_nil {type : InlineType} : ¬ inlineTypeForm [] type := by
  rintro (written | ⟨front, back, inner, whole, inType, -⟩)
  · exact Form.not_word_bind_nil written
  · rw [(List.append_eq_nil_iff.mp whole.symm).1] at inType
    exact not_typeForm_nil inType

/-- Only the word that marks a type to be written out stands in front of a parenthesis. -/
theorem not_openParen_behind_word {tokens : List Token} {type : InlineType}
    (written : inlineTypeForm tokens type) {rest : TokenStream} (follows : closing rest.front)
    {text : String} (isWord : ((rest.preceded tokens).lookahead 0).isWord text = true)
    (differ : text ≠ "inline") : ((rest.preceded tokens).lookahead 1).kind ≠ .openParen := by
  rcases written with written | ⟨front, _, inner, rfl, inType, rfl, -⟩
  · obtain ⟨word, back, rfl, isInline, -⟩ := Form.word_bind_iff.mp written
    rw [lookahead_zero_preceded] at isWord
    have isText := (Token.isWord_iff.mp isWord).2
    exact absurd (isText.symm.trans (Token.isWord_iff.mp isInline).2) differ
  · rw [List.append_nil] at isWord ⊢
    exact not_openParen_behind_name inType follows isWord

end Parser.Reads

end OpenResponse
