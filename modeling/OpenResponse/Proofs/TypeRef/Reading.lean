import OpenResponse.Proofs.Response.Keys
import OpenResponse.Proofs.TypeRef.Tree

/-!
# Reading types from texts

A text is read as a type exactly if it is a text of the symbols of a tree, and what is read is what
is kept of the tree.  What is kept can be written again: it is shown as a path of names, as a slice
or as the unit type, and reading what is shown gives it back.  So a type stays what it is when its
text is passed on, and nothing that was erased can come back in.

Both directions meet in the middle, at the tokens.  From the text they are reached by scanning, and
`spaced_of_scan` says that a text whose tokens all stand in types is one of their texts.  From the
type they are reached through its form.  What links the two is that all tokens of a type are such as
stand in types and have texts, so that nothing of a text that is read as a type is left out.

For the text of a type the way is shorter: it is one layout of the symbols of the type, the one with
a blank behind each comma, and the rule for layouts reads it.

## Main statements

* `TypeForm.wellFormed` — what is kept of a type is well formed
* `TypeRef.WellFormed.laidBefore` — the text of a type is one of its symbols
* `readTypeRef_text` — what is kept of a type is read from its own text
* `readTypeRef_iff_tree` — **types are read exactly**

## Hypotheses

The layout of a type is given in front of any tail that does not continue a name, because types are
laid out inside of types.  The condition is needed only where a type ends with a name, and it is
asked of all types alike, since what stands behind a type inside another is a bracket or a comma.
-/

namespace OpenResponse

/-! ### The tokens of types

Every kind of token that a form of types names is one of those that stand in types.  The statement
is proved with the form, one case for each way to write a type. -/

section Kinds

variable {tokens : List Token}

/-- Whether all tokens are such as stand in types. -/
def InType (tokens : List Token) : Prop := ∀ token ∈ tokens, token.kind.standsInType = true

/-- A token of such a kind in front of such tokens. -/
theorem InType.cons {first : Token} {kind : TokenKind} (isKind : first.kind = kind)
    (stands : kind.standsInType = true) (others : InType tokens) : InType (first :: tokens) :=
  List.forall_mem_cons.mpr ⟨by rw [isKind, stands], others⟩

/-- There is nothing to ask of no tokens. -/
theorem InType.nil : InType [] := fun _ listed => (List.not_mem_nil listed).elim

/-- Lists of such tokens can be put side by side. -/
theorem InType.append {front back : List Token} (first : InType front) (second : InType back) :
    InType (front ++ back) :=
  List.forall_mem_append.mpr ⟨first, second⟩

private theorem InType.optional
    {kind : TokenKind} {there : Bool} (stands : kind.standsInType = true)
    (written : Form.optional kind tokens there) : InType tokens := by
  rcases written with ⟨token, rfl, isKind, -⟩ | ⟨rfl, -⟩
  · exact .cons isKind stands .nil
  · exact .nil

private theorem InType.pathTail {names : List String} (tail : PathTail tokens names) :
    InType tokens := by
  induction tail with
  | nil => exact .nil
  | cons isSeparator isName _ ih => exact .cons isSeparator rfl (.cons isName rfl ih)

private theorem InType.pathForm {path : String} (written : OpenResponse.pathForm tokens path) :
    InType tokens := by
  obtain ⟨front, _, isRooted, rfl, root, written⟩ := written
  obtain ⟨first, _, rfl, isName, written⟩ := Form.token_bind_iff.mp written
  obtain ⟨others, _, names, rfl, tail, rfl, rfl⟩ := written
  exact (InType.optional rfl root).append (.cons isName rfl ((InType.pathTail tail).append .nil))

private theorem InType.commaList {args : List (Option TypeRef)}
    (list : CommaList (ArgumentForm fun tokens _ => InType tokens) tokens args) :
    InType tokens := by
  have ofArg {tokens : List Token} {arg : Option TypeRef}
      (written : ArgumentForm (fun tokens _ => InType tokens) tokens arg) : InType tokens := by
    cases written with
    | lifetime isLifetime => exact .cons isLifetime rfl .nil
    | type inType => exact inType
  induction list with
  | nil => exact .nil
  | last written => exact ofArg written
  | cons written isComma _ ih => exact (ofArg written).append (.cons isComma rfl ih)

/-- All tokens of a type are such as stand in types. -/
theorem TypeForm.inType {type : TypeRef} (written : TypeForm tokens type) : InType tokens := by
  refine TypeForm.inductOn ?shared ?mutable ?slice ?array ?unit ?named ?generic written
  case shared =>
    intro _ _ _ _ _ isMark isLifetime _ inner
    exact .cons isMark rfl ((InType.optional rfl isLifetime).append inner)
  case mutable =>
    intro _ _ _ _ _ _ isMark isLifetime isMutable inner
    exact .cons isMark rfl ((InType.optional rfl isLifetime).append
      (.cons (Form.kind_of_isWord isMutable) rfl inner))
  case slice =>
    intro _ _ _ _ isOpening isClosing inner
    exact .cons isOpening rfl (inner.append (.cons isClosing rfl .nil))
  case array =>
    intro _ _ _ _ _ _ isOpening isSemicolon isLength isClosing inner
    exact .cons isOpening rfl (inner.append
      (.cons isSemicolon rfl (.cons isLength rfl (.cons isClosing rfl .nil))))
  case unit =>
    intro _ _ isOpening isClosing
    exact .cons isOpening rfl (.cons isClosing rfl .nil)
  case named =>
    intro _ _ isPath
    exact .pathForm isPath
  case generic =>
    intro _ _ _ _ _ _ isPath isLess list isGreater
    exact (InType.pathForm isPath).append
      (.cons isLess rfl ((InType.commaList list).append (.cons isGreater rfl .nil)))

end Kinds

/-! ### What is kept of types

The names of a type come from its tokens, and a token that has a text and is a name has a name for
its value.  So paths are made of names again when they are put together. -/

section Kept

variable {tokens : List Token}

private theorem Denoted.isName {first : Token} (denoted : Denoted (first :: tokens))
    (isKind : first.kind = .identifier) : isName first.value = true := by
  obtain ⟨text, denotes⟩ := denoted first List.mem_cons_self
  exact denotes.isName_value isKind

private theorem PathTail.areNames {names : List String} (tail : PathTail tokens names)
    (denoted : Denoted tokens) : ∀ name ∈ names, isName name = true := by
  induction tail with
  | nil => exact fun _ listed => (List.not_mem_nil listed).elim
  | cons _ isName _ ih =>
    exact List.forall_mem_cons.mpr ⟨denoted.tail.isName isName, ih denoted.tail.tail⟩

/-- A path is made of names. -/
theorem isPath_of_pathForm {path : String} (written : pathForm tokens path)
    (denoted : Denoted tokens) : IsPath path := by
  obtain ⟨front, _, isRooted, rfl, -, written⟩ := written
  obtain ⟨first, _, rfl, isName, written⟩ := Form.token_bind_iff.mp written
  obtain ⟨others, _, names, rfl, tail, rfl, rfl⟩ := written
  have behind := denoted.right
  exact ⟨isRooted, first.value, names, rfl,
    List.forall_mem_cons.mpr ⟨behind.isName isName, PathTail.areNames tail behind.tail.left⟩⟩

/-- What is read of type arguments is well formed.  It is the case of lists in the induction over
types. -/
theorem CommaList.wellFormed {args : List (Option TypeRef)}
    (list : CommaList (ArgumentForm fun tokens type => Denoted tokens → type.WellFormed)
      tokens args) (denoted : Denoted tokens) : ∀ type, some type ∈ args → type.WellFormed := by
  have ofArg {tokens : List Token} {arg : Option TypeRef}
      (written : ArgumentForm (fun tokens type => Denoted tokens → type.WellFormed) tokens arg)
      (denoted : Denoted tokens) {type : TypeRef} (same : some type = arg) : type.WellFormed := by
    cases written with
    | lifetime => cases same
    | type written =>
      cases same
      exact written denoted
  induction list with
  | nil => exact fun _ listed => (List.not_mem_nil listed).elim
  | last written => exact fun _ listed => ofArg written denoted (List.mem_singleton.mp listed)
  | cons written _ _ ih =>
    intro type listed
    rcases List.mem_cons.mp listed with same | later
    · exact ofArg written denoted.left same
    · exact ih denoted.right.tail type later

/-- What is kept of a type is well formed.  All its paths are made of names, for their tokens come
from a text. -/
theorem TypeForm.wellFormed {type : TypeRef} (written : TypeForm tokens type) :
    Denoted tokens → type.WellFormed := by
  -- that all tokens are denoted is passed on to the tokens of the parts
  refine TypeForm.inductOn ?shared ?mutable ?slice ?array ?unit ?named ?generic written
  case shared =>
    intro _ _ _ _ _ _ _ _ ih denoted
    exact ih denoted.tail.right
  case mutable =>
    intro _ _ _ _ _ _ _ _ _ ih denoted
    exact ih denoted.tail.right.tail
  case slice =>
    intro _ _ _ _ _ _ ih denoted
    exact .slice (ih denoted.tail.left)
  case array =>
    intro _ _ _ _ _ _ _ _ _ _ ih denoted
    exact .slice (ih denoted.tail.left)
  case unit =>
    intro _ _ _ _ _
    exact .unit
  case named =>
    intro _ _ isPath denoted
    exact .path (isPath_of_pathForm isPath denoted) fun _ listed => (List.not_mem_nil listed).elim
  case generic =>
    intro _ _ _ _ _ _ isPath _ list _ denoted
    refine .path (isPath_of_pathForm isPath denoted.left) fun type listed => ?_
    obtain ⟨arg, isArg, rfl⟩ := List.mem_filterMap.mp listed
    exact list.wellFormed denoted.right.tail.left type isArg

end Kept

/-! ### Texts of types

A type has one text in which it is shown.  It has no trailing commas, which is the style asked for,
and no blanks but those behind commas. -/

section Texts

variable {tail : List Char}

/-- A style without commas behind the last item. -/
def Style.bare : Style := fun _ => false

private theorem LaidBefore.separator {symbols : List Symbol} {text : List Char}
    (laid : LaidBefore tail symbols text) :
    LaidBefore tail (.separator :: symbols) ("::".toList ++ text) :=
  .cons .nil .separator (fun _ _ => rfl) laid

/-- A name is laid out in front of a text that does not continue it. -/
theorem LaidBefore.name {name : String} {symbols : List Symbol} {text : List Char}
    (isName : isName name = true) (ends : ∀ b ∈ text.head?, endsBefore .identifier b = true)
    (laid : LaidBefore tail symbols text) :
    LaidBefore tail (.word name :: symbols) (name.toList ++ text) :=
  .cons .nil (Symbol.spells_word isName) ends laid

/-- A character that ends names does so in front of any text. -/
theorem endsNames {c : Char} (isEnd : endsBefore .identifier c = true) (back : List Char) :
    ∀ b ∈ (c :: back).head?, endsBefore .identifier b = true := by
  rintro _ ⟨⟩
  exact isEnd

/-- The names of a path are laid out with separators between them. -/
theorem laidBefore_names {first : String} {rest : List String}
    (names : ∀ name ∈ first :: rest, isName name = true)
    (ends : ∀ b ∈ tail.head?, endsBefore .identifier b = true) :
    LaidBefore tail (.word first :: rest.flatMap fun name => [.separator, .word name])
      (("::".intercalate (first :: rest)).toList ++ tail) := by
  have isFirst := names first List.mem_cons_self
  induction rest generalizing first with
  | nil =>
    rw [String.intercalate_singleton]
    exact .name isFirst ends (.nil .nil)
  | cons second rest ih =>
    have others : ∀ name ∈ second :: rest, isName name = true :=
      fun name listed => names name (List.mem_cons_of_mem _ listed)
    have laid := (ih others (others second List.mem_cons_self)).separator
    rw [String.intercalate_cons_cons, String.toList_append, String.toList_append, List.append_assoc,
      List.append_assoc]
    exact .name isFirst (endsNames (by decide) _) laid

/-- A path is laid out as it is.  There are no gaps between its names and separators. -/
theorem IsPath.laidBefore {path : String} (isPath : IsPath path)
    (ends : ∀ b ∈ tail.head?, endsBefore .identifier b = true) :
    LaidBefore tail (pathSymbols path) (path.toList ++ tail) := by
  obtain ⟨root, first, rest, rfl, names⟩ := isPath
  have laid := laidBefore_names names ends
  rw [pathSymbols_joinPath names]
  cases root with
  | true =>
    have rooted : joinPath true (first :: rest) = "::" ++ "::".intercalate (first :: rest) := by
      rw [joinPath, if_pos rfl, List.singleton_append, String.intercalate_cons_cons,
        String.empty_append]
    rw [rooted, String.toList_append, List.append_assoc]
    exact laid.separator
  | false => exact laid

/-- Type arguments are laid out with commas and blanks between them. -/
theorem laidBefore_args {args : List TypeRef}
    (each : ∀ arg ∈ args, ∀ tail : List Char,
      (∀ b ∈ tail.head?, endsBefore .identifier b = true) →
        LaidBefore tail (arg.symbols .bare) (arg.chars ++ tail)) (tail : List Char) :
    LaidBefore ('>' :: tail) (punctuate false (TypeRef.argSymbols .bare args))
      (TypeRef.argChars args ++ '>' :: tail) := by
  induction args with
  | nil => exact .nil .nil
  | cons arg rest ih =>
    have first := each arg List.mem_cons_self
    have others := ih fun other listed => each other (List.mem_cons_of_mem _ listed)
    cases rest with
    | nil =>
      have alone := first ('>' :: tail) (endsNames (by decide) _)
      rw [← List.append_nil (TypeRef.symbols .bare arg)] at alone
      exact alone
    | cons second more =>
      have space : Gap [' '] := .blank (by decide) .nil
      have behind := LaidBefore.mark (c := ',') rfl (others.behindGap space)
      have whole := (first _ (endsNames (by decide) _)).append behind
      rw [TypeRef.argChars, List.append_assoc]
      · exact whole
      · exact List.cons_ne_nil _ _

/-- The text of a type is one of its symbols.  They are those of the style without any choices. -/
theorem TypeRef.WellFormed.laidBefore {type : TypeRef} (wellFormed : type.WellFormed)
    (tail : List Char) (ends : ∀ b ∈ tail.head?, endsBefore .identifier b = true) :
    LaidBefore tail (type.symbols .bare) (type.chars ++ tail) := by
  induction wellFormed generalizing tail with
  | unit => exact .mark rfl (.mark rfl (.nil .nil))
  | @slice item _ ih =>
    have closing : LaidBefore tail [.mark ']'] (']' :: tail) := .mark rfl (.nil .nil)
    have inner := (ih (']' :: tail) (endsNames (by decide) _)).append closing
    rw [TypeRef.chars, List.cons_append, List.append_assoc]
    exact .mark rfl inner
  | @path full args isPath _ ih =>
    cases args with
    | nil => exact isPath.laidBefore ends
    | cons arg rest =>
      have closing : LaidBefore tail [.mark '>'] ('>' :: tail) := .mark rfl (.nil .nil)
      have inner := (laidBefore_args ih tail).append closing
      have behind := (isPath.laidBefore (endsNames (c := '<') (by decide) _)).append
        (.mark rfl inner)
      rw [TypeRef.chars, List.append_assoc, List.cons_append, List.append_assoc]
      · exact behind
      · exact List.cons_ne_nil _ _

end Texts

/-! ### Reading

In the statement below, nothing of the parser stands on the right: trees, their symbols and the
spacings of symbols are defined without it. -/

section Reading

variable {origin : Location} {text : String} {type : TypeRef}

/-- What is read as a type is written with tokens that have texts, in one of their spacings. -/
theorem exists_spaced (read : readTypeRef origin text = .ok type) :
    ∃ tokens, TypeForm tokens type ∧ Denoted tokens ∧
      Spaced (tokens.map Token.symbol) text.toList := by
  obtain ⟨tokens, scanned, written⟩ := readTypeRef_eq_ok.mp read
  have spaced := spaced_of_scan scanned (TypeForm.inType written)
  refine ⟨tokens, written, fun token listed => ?_, spaced⟩
  exact spaced.exists_denotes token.symbol (List.mem_map_of_mem listed)

/-- A type that is read is read again from its own text.  What reading forgets, references and
lifetimes, is not in the text. -/
theorem readTypeRef_text (wellFormed : type.WellFormed) (here : Location) :
    readTypeRef here type.text = .ok type := by
  have laid : Laid (type.symbols .bare) type.text.toList := by
    have whole := wellFormed.laidBefore [] fun b isHead => by cases isHead
    rwa [List.append_nil, ← String.toList_ofList (l := type.chars)] at whole
  obtain ⟨tokens, scanned, same⟩ := scan_laid laid here
  exact readTypeRef_eq_ok.mpr ⟨tokens, scanned, (wellFormed.writes .bare).allowed tokens same⟩

end Reading

/-- **Types are read exactly.**  A text is read as a type if and only if it is a text of the symbols
of a tree of which that type is kept, however these are spaced; and the text of a type that is read
is read as the same type. -/
theorem readTypeRef_iff_tree (origin : Location) (text : String) (type : TypeRef) :
    (readTypeRef origin text = .ok type ↔
      ∃ tree : TypeTree, tree.Plain ∧ tree.erased = type ∧ Spaced tree.symbols text.toList) ∧
    (readTypeRef origin text = .ok type → ∀ here, readTypeRef here type.text = .ok type) := by
  refine ⟨⟨fun read => ?_, ?_⟩, fun read here => ?_⟩
  · obtain ⟨tokens, written, denoted, spaced⟩ := exists_spaced read
    obtain ⟨tree, plain, erased, symbols⟩ := written.exists_tree denoted
    exact ⟨tree, plain, erased, symbols ▸ spaced⟩
  · rintro ⟨tree, plain, rfl, spaced⟩
    obtain ⟨tokens, scanned, same⟩ := scan_spaced spaced origin
    exact readTypeRef_eq_ok.mpr ⟨tokens, scanned, plain.typeForm same⟩
  · obtain ⟨tokens, written, denoted, -⟩ := exists_spaced read
    exact readTypeRef_text (written.wellFormed denoted) here

/-- A mutable reference to a generic type, of which only names and a slice are kept, and a shared
reference that is put together from its tree. -/
theorem readTypeRef_iff_tree_references :
    (∃ type, readTypeRef ⟨1, 0⟩ "& 'a mut r#Map <'b, [T; 0x10],> // c" = .ok type ∧
      (∃ tree : TypeTree, tree.Plain ∧ tree.erased = type ∧
        Spaced tree.symbols "& 'a mut r#Map <'b, [T; 0x10],> // c".toList) ∧
      ∀ here, readTypeRef here "Map<[T]>" = .ok type) ∧
    readTypeRef ⟨1, 0⟩ "& u8" = .ok (.path "u8" []) := by
  refine ⟨?_, ?_⟩
  · have shown : TypeRef.text <$> readTypeRef ⟨1, 0⟩ "& 'a mut r#Map <'b, [T; 0x10],> // c" =
        .ok "Map<[T]>" := by decide +kernel
    obtain ⟨type, read, isText⟩ := map_eq_ok.mp shown
    have exactly := readTypeRef_iff_tree ⟨1, 0⟩ "& 'a mut r#Map <'b, [T; 0x10],> // c" type
    exact ⟨type, read, exactly.1.mp read, isText ▸ exactly.2 read⟩
  · have name : Spaced [.word "u8"] " u8".toList :=
      .cons (.blank (by decide) .nil) (@Denotes.name "u8" (by decide))
        (fun _ b isHead => by cases isHead) (.nil (.closed .nil))
    have spaced : Spaced [.mark '&', .word "u8"] "& u8".toList :=
      .cons .nil (.mark (by decide)) (fun runs => by cases runs) name
    exact (readTypeRef_iff_tree ⟨1, 0⟩ "& u8" (.path "u8" [])).1.mpr
      ⟨.reference none false (.named ⟨false, "u8", []⟩), .shared (by decide) .named, rfl, spaced⟩

end OpenResponse
