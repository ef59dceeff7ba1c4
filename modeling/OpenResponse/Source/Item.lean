import OpenResponse.Source.Tree

/-!
# Items of a source

The items of a source and of its modules are read from its trees, as are the fields and variants of
the types it declares.  Details and comments are kept among them, each at its place, because what
they belong to depends on what stands next to them.

Bodies of functions, implementations and macros are passed over.

No more of the language is read than tells declarations, their fields and variants, and the
attributes and comments in front of them.  A declaration is found by its keyword and its name, and
its body is the first group behind them that can be one.  Fields and variants are what commas
separate, so the one thing to be settled is which commas do.

## Main definitions

* `SourceAttribute`: an attribute as it is written.
* `Sibling`: an attribute, a comment, an entry, or anything else, in a list of siblings.
* `SourceField`, `SourceVariant`, `SourceDeclaration`: what is declared, with the siblings inside.
* `Item`: a declaration, or a module with its own siblings.
* `items`: the siblings of a source.

## Limits

The reader is meant for sources that are Rust.  Of texts that are not it also finds declarations,
but which ones is then an accident of the reader.

Angle brackets are no brackets of the language: whether one of them opens anything depends on what
it stands in.  In types every one does.  In an expression, which among these lists only the
discriminant of a variant can be, it compares or shifts unless it begins a type, and it begins one
behind the path of a type that the word `as` introduces, behind two colons, and where an operand has
to begin.  A closure in a discriminant that states a type with arguments is not recognised.

A source may begin with the line of an interpreter.  It is passed over, unless the first mark behind
`#!` is a bracket, as it is in an inner attribute.
-/

namespace OpenResponse

namespace Source

/-! ### Siblings -/

/-- What an attribute has besides its name. -/
inductive AttributeContent
  | arguments (text : String)
  | value (text : String)
  | bare
deriving DecidableEq, Repr, Inhabited

/-- An attribute as it is written. -/
structure SourceAttribute where
  /-- The name, with its path. -/
  name : String
  /-- Its arguments or its value. -/
  content : AttributeContent
  /-- Where its arguments begin, or else its value, or else its name. -/
  location : Location
deriving DecidableEq, Repr, Inhabited

/-- One of several things that follow one another in a source. -/
inductive Sibling (α : Type)
  | attr (attr : SourceAttribute)
  | comment (piece : Piece)
  | entry (value : α)
  | other
deriving Repr, Inhabited

/-- A field as it is written. -/
structure SourceField where
  /-- The name, if it has one. -/
  name : Option String
  /-- The type. -/
  typeText : String
  /-- Where the type begins. -/
  location : Location
deriving DecidableEq, Repr, Inhabited

/-- The fields of a struct or variant: none, those of a tuple, or named ones. -/
inductive SourceFields
  | none
  | tuple (fields : List (Sibling SourceField))
  | named (fields : List (Sibling SourceField))
deriving Repr, Inhabited

/-- A variant as it is written. -/
structure SourceVariant where
  /-- The name. -/
  name : String
  /-- Where the name begins. -/
  location : Location
  /-- Its fields. -/
  fields : SourceFields
deriving Repr, Inhabited

/-- What a declaration declares.  The fields of a union are not looked at. -/
inductive SourceBody
  | struct (fields : SourceFields)
  | enum (variants : List (Sibling SourceVariant))
  | union
deriving Repr, Inhabited

/-- A declaration as it is written. -/
structure SourceDeclaration where
  /-- The name. -/
  name : String
  /-- Where the name begins. -/
  location : Location
  /-- What it declares. -/
  body : SourceBody
deriving Repr, Inhabited

/-- A declaration, or a module with what is in it. -/
inductive Item
  | declaration (declaration : SourceDeclaration)
  | module (siblings : List (Sibling Item))
deriving Inhabited

/-! ### Details -/

/-- The text of trees. -/
def textOf (trees : List Tree) : String := String.ofList (Tree.texts trees)

/-- The attribute between brackets. -/
def readAttribute? (inner : List Tree) : Option SourceAttribute :=
  let body := core inner
  let isPath (tree : Tree) : Bool := tree.piece?.isSome && !tree.isMark '='
  let path := dropTrailingTrivia (body.takeWhile isPath)
  match path, body.dropWhile isPath with
  | [], _ => none
  | _, .group opening arguments _ :: _ =>
    some ⟨textOf path, .arguments (textOf arguments), opening.location.behindBytes opening.text⟩
  | first :: _, _ :: rest =>
    match core rest with
    | [] => some ⟨textOf path, .bare, first.location⟩
    | value :: more => some ⟨textOf path, .value (textOf (value :: more)), value.location⟩
  | first :: _, [] => some ⟨textOf path, .bare, first.location⟩

/-- The number of blanks and comments that trees begin with. -/
def triviaRun (trees : List Tree) : Nat := (trees.takeWhile Tree.isTrivia).length

/--
What a hash mark begins: the attribute, if it is an outer one, and the number of trees behind the
mark.  An inner attribute belongs to what it stands in.
-/
def afterHash? {α : Type} (rest : List Tree) : Option (Option (Sibling α) × Nat) :=
  let gap := triviaRun rest
  match rest.drop gap with
  | first :: behind =>
    if first.isGroup '[' then some ((readAttribute? first.inner).map .attr, gap + 1)
    else if first.isMark '!' then
      let second := triviaRun behind
      match behind.drop second with
      | third :: _ =>
        if third.isGroup '[' then some (some .other, gap + 1 + second + 1) else none
      | [] => none
    else none
  | [] => none

/--
The attributes and comments that trees begin with, and the trees behind them.  The first argument is
the number of trees that are already read.
-/
def leading {α : Type} : Nat → List Tree → List (Sibling α) × List Tree
  | _, [] => ([], [])
  | skip + 1, _ :: rest => leading skip rest
  | 0, tree :: rest =>
    if tree.isMark '#' then
      match afterHash? rest with
      | some (sibling, more) =>
        let (siblings, behind) := leading more rest
        (sibling.toList ++ siblings, behind)
      | none => ([], tree :: rest)
    else
      match tree.piece? with
      | some piece =>
        if piece.isComment then
          let (siblings, behind) := leading 0 rest
          (.comment piece :: siblings, behind)
        else if piece.isTrivia then leading 0 rest
        else ([], tree :: rest)
      | none => ([], tree :: rest)

/-- The comments at the end of trees. -/
def trailing {α : Type} (trees : List Tree) : List (Sibling α) :=
  (trees.drop (dropTrailingTrivia trees).length).filterMap fun tree =>
    (tree.piece?.filter Piece.isComment).map .comment

/-! ### Fields and variants -/

/-- Whether the group behind the word for visibility restricts it, and is not the type of a field.
-/
def isRestriction (inner : List Tree) : Bool :=
  match solid inner with
  | [word] => word.isWord "crate" || word.isWord "self" || word.isWord "super"
  | word :: _ => word.isWord "in"
  | [] => false

/-- The number of trees that say how visible something is, with the blanks and comments behind the
word if a group follows. -/
def visibilityRun (trees : List Tree) : Nat :=
  match trees with
  | word :: rest =>
    let gap := triviaRun rest
    if word.isWord "pub" then
      match rest.drop gap with
      | group :: _ => if group.isGroup '(' && isRestriction group.inner then gap + 2 else 1
      | [] => 1
    else if word.isWord "crate" then
      match rest.drop gap with
      | next :: _ => if next.isMark ':' then 0 else 1
      | [] => 0
    else 0
  | [] => 0

/-- The mark that a tree is, or a blank. -/
def markOf (tree : Tree) : Char :=
  match tree.piece? with
  | some piece => if piece.kind == .mark then piece.text.headD ' ' else ' '
  | none => ' '

/-- Types without arguments of their own, behind which an angle bracket compares. -/
def plainTypes : List String :=
  ["bool", "char", "str", "u8", "u16", "u32", "u64", "u128", "usize", "i8", "i16", "i32", "i64",
    "i128", "isize", "f32", "f64"]

/-- What stands in front of a tree, as far as an angle bracket means something else behind it. -/
inductive Front
  /-- A mark, or nothing yet, for which a comma stands. -/
  | mark (c : Char)
  /-- The path of a type that the word `as` begins. -/
  | cast
  /-- The end of an operand. -/
  | operand
deriving DecidableEq, Repr

namespace Front

/-- What stands in front of the next tree.  Blanks and comments change nothing. -/
def behind (front : Front) (tree : Tree) : Front :=
  if tree.isTrivia then front
  else if tree.isWord "as" then .cast
  else if markOf tree ≠ ' ' then
    if front = .cast ∧ markOf tree = ':' then .cast else .mark (markOf tree)
  else if front = .cast ∧ tree.isAnyWord ∧ !plainTypes.any (tree.isWord ·) then .cast
  else .operand

/-- Whether an angle bracket in an expression opens the arguments of a type, or a path that begins
with a type, and does not compare or shift. -/
def opensType : Front → Bool
  | .mark c => c != '<' && c != '>' && c != '.' && c != '?'
  | .cast => true
  | .operand => false

/-- Whether an angle bracket is the head of an arrow. -/
def isArrowShaft (front : Front) : Bool := front == .mark '-' || front == .mark '='

end Front

/--
Split trees at their commas.  Commas between angle brackets do not count, and the head of an arrow
never closes one.  Every angle bracket opens one in types; in an expression only those do that begin
a type.  `depth` angle brackets are open, and `current` holds the trees since the last comma, last
first.
-/
def splitCommasFrom (inTypes : Bool) (depth : Nat) (front : Front) (current : List Tree) :
    List Tree → List (List Tree)
  | [] => [current.reverse]
  | tree :: rest =>
    let mark := markOf tree
    if mark = ',' ∧ depth = 0 then
      current.reverse :: splitCommasFrom inTypes 0 (.mark ',') [] rest
    else
      let opens := mark = '<' ∧ (inTypes ∨ depth > 0 ∨ front.opensType)
      let closes := mark = '>' ∧ !front.isArrowShaft
      let depth := if opens then depth + 1 else if closes then depth - 1 else depth
      splitCommasFrom inTypes depth (front.behind tree) (tree :: current) rest

/-- Split trees at their commas. -/
def splitCommas (inTypes : Bool) (trees : List Tree) : List (List Tree) :=
  splitCommasFrom inTypes 0 (.mark ',') [] trees

/-- The siblings of one element of a list of named fields. -/
def namedField (element : List Tree) : List (Sibling SourceField) :=
  let (before, rest) := leading 0 element
  let name := dropTrivia (rest.drop (visibilityRun rest))
  match name, core ((name.dropWhile (!·.isMark ':')).drop 1) with
  | word :: _, type :: more =>
    let text := textOf (type :: more)
    before ++ .entry ⟨some (textOf [word]), text, type.location⟩ :: trailing rest
  | _, _ => before ++ trailing rest

/-- The siblings of one element of a list of tuple fields.  A comment behind the visibility is a
sibling too. -/
def tupleField (element : List Tree) : List (Sibling SourceField) :=
  let (before, rest) := leading 0 element
  let (behind, rest) := leading 0 (rest.drop (visibilityRun rest))
  match dropTrailingTrivia rest with
  | [] => before ++ behind
  | type :: more =>
    before ++ behind ++ .entry ⟨none, textOf (type :: more), type.location⟩ :: trailing rest

/-- The fields between the brackets of a group. -/
def readFields (group : Tree) : SourceFields :=
  if group.isGroup '(' then .tuple ((splitCommas true group.inner).flatMap tupleField)
  else if group.isGroup '{' then .named ((splitCommas true group.inner).flatMap namedField)
  else .none

/-- The siblings of one element of a list of variants. -/
def variantOf (element : List Tree) : List (Sibling SourceVariant) :=
  let (before, rest) := leading 0 element
  match solid (rest.drop (visibilityRun rest)) with
  | name :: next :: _ =>
    before ++ .entry ⟨textOf [name], name.location, readFields next⟩ :: trailing rest
  | [name] => before ++ .entry ⟨textOf [name], name.location, .none⟩ :: trailing rest
  | [] => before

/-! ### Items -/

/--
The trees up to the body of a declaration or to its semicolon, and the body.  Brackets between angle
brackets and parentheses behind the word `where` are no body.
-/
def findBody (depth : Nat) (before : Char) (inWhere : Bool) : List Tree → Nat × Option Tree
  | [] => (0, none)
  | tree :: rest =>
    let mark := markOf tree
    if depth = 0 ∧ mark = ';' then (1, none)
    else if depth = 0 ∧ (tree.isGroup '{' ∨ (tree.isGroup '(' ∧ !inWhere)) then (1, some tree)
    else
      let closes := mark = '>' ∧ before ≠ '-' ∧ before ≠ '='
      let depth := if mark = '<' then depth + 1 else if closes then depth - 1 else depth
      let (count, body) := findBody depth mark (inWhere || tree.isWord "where") rest
      (count + 1, body)

/-- The kind of declaration that a word begins. -/
def keyword? (tree : Tree) : Option (Option Tree → SourceBody) :=
  if tree.isWord "struct" then
    some fun body => .struct ((body.map readFields).getD .none)
  else if tree.isWord "enum" then
    some fun body => .enum ((body.map fun group =>
      (splitCommas false group.inner).flatMap variantOf).getD [])
  else if tree.isWord "union" then some fun _ => .union
  else none

/-- Words that can follow the name of a union where it does not begin a declaration. -/
def notNames : List String :=
  ["as", "where", "for", "in", "if", "else", "is", "match", "const", "mut", "dyn"]

/-- The declaration that trees begin with, and the number of trees that it takes. -/
def readDeclaration? (trees : List Tree) : Option (SourceDeclaration × Nat) :=
  let visibility := visibilityRun trees
  let gap := triviaRun (trees.drop visibility)
  match trees.drop (visibility + gap) with
  | word :: rest =>
    match keyword? word with
    | none => none
    | some make =>
      let second := triviaRun rest
      match rest.drop second with
      | name :: behind =>
        if name.isAnyWord && !notNames.any (name.isWord ·) then
          let (count, body) := findBody 0 ' ' false behind
          some (⟨textOf [name], name.location, make body⟩,
            visibility + gap + 1 + second + 1 + count)
        else none
      | [] => none
  | [] => none

/-- The trees of a module with a body that trees begin with, and the number of trees that the module
takes. -/
def readModule? (trees : List Tree) : Option (List Tree × Nat) :=
  match trees with
  | word :: rest =>
    if word.isWord "mod" then
      let gap := triviaRun rest
      match rest.drop gap with
      | name :: behind =>
        let second := triviaRun behind
        match behind.drop second with
        | group :: _ =>
          if name.isAnyWord && group.isGroup '{' then
            some (group.inner, 1 + gap + 1 + second + 1)
          else none
        | [] => none
      | [] => none
    else none
  | [] => none

/-- An entry of a list of items whose module, if it is one, is not read yet. -/
inductive Entry
  | declaration (declaration : SourceDeclaration)
  | module (trees : List Tree)

/-- The sibling that a tree begins, if it is not blank, and the number of trees that it takes behind
the first one. -/
def readSibling (tree : Tree) (rest : List Tree) : Option (Sibling Entry) × Nat :=
  match tree.piece? with
  | none => (some .other, 0)
  | some piece =>
    if piece.isComment then (some (.comment piece), 0)
    else if piece.isTrivia then (none, 0)
    else if piece.isMark '#' then (afterHash? rest).getD (some .other, 0)
    else
      match readDeclaration? (tree :: rest), readModule? (tree :: rest) with
      | some (declaration, count), _ => (some (.entry (.declaration declaration)), count - 1)
      | none, some (inner, count) => (some (.entry (.module inner)), count - 1)
      | none, none => (some .other, 0)

/-- The siblings of a list of trees.  The first argument is the number of trees that are already
read. -/
def siblings : Nat → List Tree → List (Sibling Entry)
  | _, [] => []
  | skip + 1, _ :: rest => siblings skip rest
  | 0, tree :: rest =>
    let (sibling, more) := readSibling tree rest
    sibling.toList ++ siblings more rest

/-- A sibling with its module, if it is one, read in some way. -/
def readInner (read : List Tree → List (Sibling Item)) : Sibling Entry → Sibling Item
  | .attr attr => .attr attr
  | .comment piece => .comment piece
  | .entry (.declaration declaration) => .entry (.declaration declaration)
  | .entry (.module inner) => .entry (.module (read inner))
  | .other => .other

/-- The siblings of a list of trees with their modules read.  Groups are nested no deeper than the
budget, so a module can only be met while some of it is left. -/
def itemsWithin : Nat → List Tree → List (Sibling Item)
  | 0, trees => (siblings 0 trees).map (readInner fun _ => [])
  | budget + 1, trees => (siblings 0 trees).map (readInner fun inner => itemsWithin budget inner)

/-- The siblings of a text that begins at some location. -/
def itemsFrom (here : Location) (text : List Char) : List (Sibling Item) :=
  let trees := trees (pieces here text)
  itemsWithin (Tree.depths trees) trees

/-- The line that names the interpreter of a script, if a source begins with one.  Inner attributes
begin with the same two marks. -/
def interpreterLine (text : List Char) : List Char :=
  match text with
  | '#' :: '!' :: rest =>
    if (rest.dropWhile isGap).head? = some '[' then [] else text.takeWhile (· != '\n')
  | _ => []

/-- The siblings of a source.  The line of an interpreter is passed over. -/
def items (text : String) : List (Sibling Item) :=
  let line := interpreterLine text.toList
  itemsFrom (Location.start.behindBytes line) (text.toList.drop line.length)

end Source

end OpenResponse
