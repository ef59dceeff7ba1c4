import Mathlib.Data.List.Forall2
import OpenResponse.Proofs.Token.Form

/-!
# Forms of lists

Items and keys are separated by commas, and the last of them may be followed by one too.  The
parsers of both look for the closing mark in front of every item, so they read the form of a list as
long as no item begins with that mark.

A list of keys is read twice over here: first as the list of its entries, each with the place of its
key, and then as what the entries do to a state one after the other.  That keeps apart what is
written and what it means when keys are repeated or exclude each other.

Completeness asks of an item that it does not begin with the closing mark, or else the list would be
taken to end in front of it, and of the mark that it ends items and is no comma.  All of this
concerns forms and kinds of tokens.  The parser of the items enters with the one fact that it reads
its form.

## Main definitions

* `CommaList` — items with commas between them
* `listForm`, `groupForm` — items up to a closing mark, items between parentheses
* `KeyList` — keys with their values
* `applyAll`, `keysForm` — what the entries of a list of keys do to a state
* `RefusedAt` — the first entry that is refused

## Main statements

* `Parser.Reads.separated`, `Parser.Reads.group` — lists of items
* `Parser.Reads.keyed` — lists of keys
* `Parser.Reads.keyed_refused` — lists of keys with an entry that is refused

## Design notes

The meaning of a list of keys is a fold over its entries that may stop.  `apply` is given the place
of the key, because what is kept of a key can be where it stands, and says with `none` that the key
is refused in that state, as a second value that excludes a first one.  What was written before the
refused entry is still known then, which is how `keyed_refused` can name the place at which reading
fails.

The table of handlers and the table of forms have to agree line by line.  That a key is unknown is
then the same for both, and the order of the lines does not matter to anything that is proved.
-/

namespace OpenResponse

variable {α β ε σ : Type}

/-- Items with commas between them, the last of which may be followed by one too. -/
inductive CommaList (item : List Token → α → Prop) : List Token → List α → Prop
  | nil : CommaList item [] []
  | last {tokens : List Token} {value : α} (written : item tokens value) :
      CommaList item tokens [value]
  | cons {tokens more : List Token} {comma : Token} {value : α} {values : List α}
      (written : item tokens value) (isComma : comma.kind = .comma)
      (others : CommaList item more values) :
      CommaList item (tokens ++ comma :: more) (value :: values)

/-- Items up to a closing mark.  They are separated by commas, and the last one may have a comma
behind it. -/
def listForm (close : TokenKind) (item : Form α) : Form (List α) := fun tokens values =>
  ∃ inner closing, tokens = inner ++ [closing] ∧ closing.kind = close ∧
    CommaList item inner values

/-- Items between parentheses.  The group may be empty.  The closing parenthesis belongs to the form
of the list. -/
def groupForm (item : Form α) : Form (List α) := do
  let _ ← Form.token .openParen
  listForm .closeParen item

/-- A form that is never written with a given mark in front, nor with nothing at all. -/
def Form.Avoids (form : Form α) (kind : TokenKind) : Prop :=
  ∀ tokens value, form tokens value → ∃ first back, tokens = first :: back ∧ first.kind ≠ kind

theorem Form.Avoids.token_bind {kind other : TokenKind} (second : String → Form β)
    (differ : other ≠ kind) : (Form.token other >>= second).Avoids kind := by
  intro tokens value written
  obtain ⟨opening, back, rfl, isKind, -⟩ := Form.token_bind_iff.mp written
  exact ⟨opening, back, rfl, isKind ▸ differ⟩

/-- Keys with their values, with commas between them and perhaps one behind the last.  Every entry
is listed with the place of its key. -/
inductive KeyList (value : String → Form ε) : List Token → List (Location × ε) → Prop
  | nil : KeyList value [] []
  | last {key : Token} {tokens : List Token} {entry : ε} (isKey : key.kind = .identifier)
      (written : value key.value tokens entry) :
      KeyList value (key :: tokens) [(key.location, entry)]
  | cons {key comma : Token} {tokens more : List Token} {entry : ε}
      {entries : List (Location × ε)} (isKey : key.kind = .identifier)
      (written : value key.value tokens entry) (isComma : comma.kind = .comma)
      (others : KeyList value more entries) :
      KeyList value (key :: (tokens ++ comma :: more)) ((key.location, entry) :: entries)

/-- What the entries of a list of keys do to a state, one after the other.  An entry that is refused
ends the list. -/
def applyAll (apply : Location → ε → σ → Option σ) : List (Location × ε) → σ → Option σ
  | [], state => some state
  | (here, entry) :: rest, state => (apply here entry state).bind (applyAll apply rest)

/-- The entries of a list of keys are taken one after the other up to the one at a place, which is
refused. -/
inductive RefusedAt (apply : Location → ε → σ → Option σ) :
    List (Location × ε) → σ → Location → Prop
  | here {here : Location} {entry : ε} {rest : List (Location × ε)} {state : σ}
      (refused : apply here entry state = none) : RefusedAt apply ((here, entry) :: rest) state here
  | behind {here there : Location} {entry : ε} {rest : List (Location × ε)} {state later : σ}
      (applied : apply there entry state = some later) (others : RefusedAt apply rest later here) :
      RefusedAt apply ((there, entry) :: rest) state here

/-- An entry is refused behind others that are not. -/
theorem RefusedAt.of_applyAll {apply : Location → ε → σ → Option σ}
    {front back : List (Location × ε)} {here : Location} {entry : ε} {state middle : σ}
    (applied : applyAll apply front state = some middle)
    (refused : apply here entry middle = none) :
    RefusedAt apply (front ++ (here, entry) :: back) state here := by
  induction front generalizing state with
  | nil =>
    cases applied
    exact .here refused
  | cons first front ih =>
    obtain ⟨later, firstApplied, othersApplied⟩ := Option.bind_eq_some_iff.mp applied
    exact .behind firstApplied (ih othersApplied)

/-- In tables that belong together line by line a key has a line in both, or in neither. -/
theorem lookup_of_forall₂ {R : α → β → Prop} {table : List (String × α)}
    {other : List (String × β)}
    (related : List.Forall₂ (fun line line' => line.1 = line'.1 ∧ R line.2 line'.2) table other)
    (key : String) :
    (table.lookup key = none ∧ other.lookup key = none) ∨
      ∃ value value', table.lookup key = some value ∧ other.lookup key = some value' ∧
        R value value' := by
  induction related with
  | nil => exact .inl ⟨rfl, rfl⟩
  | @cons line line' table other first _ ih =>
    obtain ⟨name, value⟩ := line
    obtain ⟨_, value'⟩ := line'
    obtain ⟨rfl, first⟩ := first
    by_cases here : key = name
    · subst here
      exact .inr ⟨value, value', List.lookup_cons_self, List.lookup_cons_self, first⟩
    · rw [List.lookup_cons, List.lookup_cons, beq_false_of_ne here]
      exact ih

/-- The form of the value of a key, in a table of the keys there are. -/
def keyForm (table : List (String × Form ε)) (key : String) : Form ε := fun tokens entry =>
  ∃ form, table.lookup key = some form ∧ form tokens entry

/-- A value that is applied to a state. -/
def entryForm (form : Form ε) (apply : Location → ε → σ → Option σ) (here : Location) (state : σ) :
    Form σ := fun tokens later =>
  ∃ entry, form tokens entry ∧ apply here entry state = some later

/-- A list of keys that is applied to a state.  The entries are applied in their order, so that of a
repeated key the last one counts. -/
def keysForm (table : List (String × Form ε)) (apply : Location → ε → σ → Option σ) (state : σ) :
    Form σ := fun tokens later =>
  ∃ entries, KeyList (keyForm table) tokens entries ∧ applyAll apply entries state = some later

theorem Form.Avoids.token {kind other : TokenKind} (differ : other ≠ kind) :
    (Form.token other).Avoids kind := by
  rintro _ _ ⟨token, rfl, isKind, -⟩
  exact ⟨token, [], rfl, isKind ▸ differ⟩

namespace Parser.Reads

open TokenStream

variable {n : Nat} {follow : TokenKind → Prop}

/-! ### Items

Both directions are inductions on the list as the parser takes it: item, comma, and the rest of the
list, or item and closing mark.  The budget is larger than the number of tokens left, so it is never
what ends a list. -/

section Items

variable {item : Parser α} {form : Form α} {close : TokenKind} (what : String)

private theorem separatedWithin_sound
    (reads : Reads n closing item form) (notEnd : close ≠ .endOfInput)
    (budget : Nat) {stream rest : TokenStream} {values : List α}
    (read : Parser.separatedWithin close what item budget stream = .ok values rest) :
    ∃ tokens, stream = rest.preceded tokens ∧ listForm close form tokens values := by
  -- the last item of a list, with the closing mark behind it
  have single {stream : TokenStream} {values : List α}
      (read : (item >>= fun first => expectAs close what >>= fun _ => Pure.pure [first]) stream =
        .ok values rest) :
      ∃ tokens, stream = rest.preceded tokens ∧ listForm close form tokens values := by
    obtain ⟨first, middle, itemRead, read⟩ := bind_eq_ok.mp read
    obtain ⟨mark, _, markRead, read⟩ := bind_eq_ok.mp read
    cases read
    obtain ⟨tokens, rfl, written⟩ := reads.sound _ _ _ itemRead
    obtain ⟨rfl, isClose⟩ := expectAs_eq_ok markRead notEnd
    exact ⟨tokens ++ [mark], preceded_preceded .., tokens, mark, rfl, isClose, .last written⟩
  induction budget generalizing stream values with
  | zero => exact single read
  | succ budget ih =>
    obtain ⟨eaten, _, eatRead, itemsRead⟩ := bind_eq_ok.mp read
    clear read
    rcases eat_eq_ok eatRead notEnd with ⟨mark, rfl, rfl, isClose⟩ | ⟨rfl, rfl, -⟩
    · cases itemsRead
      exact ⟨[mark], rfl, [], mark, rfl, isClose, .nil⟩
    obtain ⟨first, middle, itemRead, commaRead⟩ := bind_eq_ok.mp itemsRead
    obtain ⟨eaten, _, eatRead, moreRead⟩ := bind_eq_ok.mp commaRead
    rcases eat_eq_ok eatRead (by decide) with ⟨comma, rfl, rfl, isComma⟩ | ⟨rfl, rfl, -⟩
    · obtain ⟨others, _, othersRead, read⟩ := bind_eq_ok.mp moreRead
      cases read
      obtain ⟨tokens, rfl, written⟩ := reads.sound _ _ _ itemRead
      obtain ⟨_, rfl, inner, mark, rfl, isClose, list⟩ := ih othersRead
      refine ⟨(tokens ++ comma :: inner) ++ [mark], ?_, tokens ++ comma :: inner, mark, rfl,
        isClose, .cons written isComma list⟩
      simp
    · refine single ?_
      rw [bind_of_ok itemRead]
      exact moreRead

private theorem separatedWithin_complete
    (reads : Reads n closing item form) (closes : closing close)
    (notComma : close ≠ .comma) (avoids : form.Avoids close) {inner : List Token}
    {values : List α} (list : CommaList form inner values) {mark : Token}
    (isClose : mark.kind = close) (short : inner.length ≤ n) {budget : Nat}
    (enough : inner.length < budget) (rest : TokenStream) :
    Parser.separatedWithin close what item budget (rest.preceded (inner ++ [mark])) =
      .ok values rest := by
  have front (more : List Token) : closing (rest.preceded (mark :: more)).front := by
    rw [front_preceded, isClose]
    exact closes
  -- the induction is on the list as it is written; the budget is that of the tokens still to come
  induction list generalizing budget with
  | nil =>
    obtain ⟨budget, rfl⟩ := Nat.exists_eq_succ_of_ne_zero (Nat.ne_zero_of_lt enough)
    exact bind_of_ok (eat_of_kind rest isClose [])
  | @last tokens value written =>
    obtain ⟨budget, rfl⟩ := Nat.exists_eq_succ_of_ne_zero (Nat.ne_zero_of_lt enough)
    obtain ⟨first, back, rfl, differ⟩ := avoids _ _ written
    have notClose : (rest.preceded (first :: back ++ [mark])).front ≠ close := differ
    have itemRead := reads.complete _ _ (rest.preceded [mark]) short written (front [])
    rw [preceded_preceded] at itemRead
    rw [Parser.separatedWithin, bind_of_ok (eat_of_ne _ notClose)]
    show (item >>= _) _ = _
    rw [bind_of_ok itemRead,
      bind_of_ok (eat_of_ne _ (by rw [front_preceded, isClose]; exact notComma))]
    exact bind_of_ok (expectAs_of_kind rest isClose what [])
  | @cons tokens more comma value values written isComma others ih =>
    obtain ⟨budget, rfl⟩ := Nat.exists_eq_succ_of_ne_zero (Nat.ne_zero_of_lt enough)
    obtain ⟨first, back, rfl, differ⟩ := avoids _ _ written
    have notClose :
        (rest.preceded (first :: back ++ comma :: (more ++ [mark]))).front ≠ close := differ
    simp only [List.length_append, List.length_cons] at short enough
    have itemRead := reads.complete _ _ (rest.preceded (comma :: (more ++ [mark])))
      (by simp only [List.length_cons]; omega) written (by rw [front_preceded, isComma]; rfl)
    rw [preceded_preceded] at itemRead
    rw [List.append_assoc, List.cons_append (a := comma), Parser.separatedWithin,
      bind_of_ok (eat_of_ne _ notClose)]
    show (item >>= _) _ = _
    rw [bind_of_ok itemRead, bind_of_ok (eat_of_kind _ isComma _)]
    show (Parser.separatedWithin close what item budget >>= _) _ = _
    rw [bind_of_ok (ih (by omega) (by omega))]
    rfl

/-- Items up to a closing mark with which no item begins.  An item that began with the mark could
not be told from the end of the list. -/
theorem separated (reads : Reads n closing item form) (closes : closing close)
    (notComma : close ≠ .comma) (notEnd : close ≠ .endOfInput) (avoids : form.Avoids close) :
    Reads n follow (Parser.separated close what item) (listForm close form) where
  sound stream values rest read := separatedWithin_sound what reads notEnd _ read
  complete := by
    rintro _ values rest short ⟨inner, mark, rfl, isClose, list⟩ -
    rw [List.length_append] at short
    rw [Parser.separated, bind_of_ok (remaining_apply _)]
    refine
      separatedWithin_complete what reads closes notComma avoids list isClose (by omega) ?_ rest
    rw [length_tokens_preceded, List.length_append, List.length_singleton]
    omega

/-- Items between parentheses.  It is a list whose closing mark is a parenthesis, with the opening
one in front. -/
theorem group (reads : Reads n closing item form) (avoids : form.Avoids .closeParen) :
    Reads n follow (Parser.group item) (groupForm form) :=
  bindExpectAs _ (by decide) fun _ _ => separated _ reads rfl (by decide) (by decide) avoids

end Items

/-! ### Keys -/

section Keys

variable {handlers : List (String × KeyHandler σ)} {table : List (String × Form ε)}
  {apply : Location → ε → σ → Option σ} {close : TokenKind}

/-- The handlers of a list of keys read the forms of a table, key by key. -/
def HandlersRead (n : Nat) (handlers : List (String × KeyHandler σ))
    (table : List (String × Form ε)) (apply : Location → ε → σ → Option σ) : Prop :=
  List.Forall₂ (fun handler rule => handler.1 = rule.1 ∧ ∀ here state,
    Reads n closing (handler.2 here state) (entryForm rule.2 apply here state)) handlers table

/-- A key has a handler and a form, or neither. -/
theorem HandlersRead.lookup (reads : HandlersRead n handlers table apply) (key : String) :
    (handlers.lookup key = none ∧ table.lookup key = none) ∨
      ∃ handler form, handlers.lookup key = some handler ∧ table.lookup key = some form ∧
        ∀ here state, Reads n closing (handler here state) (entryForm form apply here state) :=
  lookup_of_forall₂ (R := fun (handler : KeyHandler σ) (form : Form ε) => ∀ here state,
    Reads n closing (handler here state) (entryForm form apply here state)) reads key

/-- A list of keys ends where its closing mark stands. -/
theorem keyedWithin_close (budget : Nat) (state : σ) {stream : TokenStream}
    (atClose : stream.front = close) :
    Parser.keyedWithin close handlers budget state stream = .ok state stream := by
  have ended : ((stream.lookahead 0).kind == close) = true := beq_iff_eq.mpr atClose
  cases budget with
  | zero => rw [Parser.keyedWithin, bind_of_ok (peek_apply _), if_pos ended, pure_apply]
  | succ budget => rw [keyedWithin_succ, bind_of_ok (peek_apply _), if_pos ended, pure_apply]

/-- What ends the value of a key: the closing mark, which stays, or a comma, which is taken. -/
inductive EndsValue (close : TokenKind) : TokenStream → TokenStream → Prop
  | closing {rest : TokenStream} (atClose : rest.front = close) : EndsValue close rest rest
  | comma {comma : Token} (isComma : comma.kind = .comma) (rest : TokenStream) :
    EndsValue close (rest.preceded [comma]) rest

private theorem keyValue_sound (reads : HandlersRead n handlers table apply) {key : Token}
    {stream rest : TokenStream} {state later : σ}
    (read : Parser.keyValue close handlers key state stream = .ok later rest) :
    ∃ tokens entry behind, stream = behind.preceded tokens ∧
      keyForm table key.value tokens entry ∧ apply key.location entry state = some later ∧
      EndsValue close behind rest := by
  rw [keyValue] at read
  rcases reads.lookup key.value with ⟨unknown, -⟩ | ⟨handler, form, found, known, handles⟩
  · rw [unknown] at read
    cases read
  rw [found] at read
  obtain ⟨middle, behind, handled, endRead⟩ := bind_eq_ok.mp read
  obtain ⟨tokens, advanced, entry, written, applied⟩ := (handles _ _).sound _ _ _ handled
  have isKey : keyForm table key.value tokens entry := ⟨form, known, written⟩
  rw [bind_of_ok (peek_apply _)] at endRead
  split at endRead
  next ended =>
    cases endRead
    exact ⟨tokens, entry, _, advanced, isKey, applied, .closing (beq_iff_eq.mp ended)⟩
  next =>
    obtain ⟨comma, _, commaRead, done⟩ := bind_eq_ok.mp endRead
    cases done
    obtain ⟨rfl, isComma⟩ := expectAs_eq_ok commaRead (by decide)
    exact ⟨tokens, entry, _, advanced, isKey, applied, .comma isComma _⟩

private theorem keyValue_complete
    (reads : HandlersRead n handlers table apply) (closes : closing close)
    (notComma : close ≠ .comma) {key : Token} {tokens : List Token} {entry : ε} {state later : σ}
    (written : keyForm table key.value tokens entry)
    (applied : apply key.location entry state = some later) (short : tokens.length ≤ n)
    {behind rest : TokenStream} (ends : EndsValue close behind rest) :
    Parser.keyValue close handlers key state (behind.preceded tokens) = .ok later rest := by
  obtain ⟨form, known, written⟩ := written
  rcases reads.lookup key.value with ⟨-, unknown⟩ | ⟨handler, _, found, known', handles⟩
  · rw [unknown] at known
    cases known
  rw [known] at known'
  cases known'
  have handled (follows : closing behind.front) :
      handler key.location state (behind.preceded tokens) = .ok later behind :=
    (handles _ _).complete _ _ _ short ⟨entry, written, applied⟩ follows
  rw [keyValue, found]
  dsimp only
  cases ends with
  | closing atClose =>
    have ended : ((behind.lookahead 0).kind == close) = true := beq_iff_eq.mpr atClose
    rw [bind_of_ok (handled (atClose ▸ closes)), bind_of_ok (peek_apply _), if_pos ended]
    rfl
  | @comma comma isComma rest =>
    have follows : closing (rest.preceded [comma]).front := by
      rw [front_preceded, isComma]
      rfl
    have going : ¬ (comma.kind == close) = true := by
      rw [isComma, beq_iff_eq]
      exact notComma.symm
    rw [bind_of_ok (handled follows), bind_of_ok (peek_apply _), lookahead_zero_preceded,
      if_neg going, bind_of_ok (expectAs_of_kind _ isComma _ _), preceded_nil]
    rfl

/-- A list of keys goes on behind its first key. -/
theorem keyedWithin_preceded (budget : Nat) (closes : closing close) {key : Token}
    (isKey : key.kind = .identifier) (state : σ) (stream : TokenStream) :
    Parser.keyedWithin close handlers (budget + 1) state (stream.preceded [key]) =
      (Parser.keyValue close handlers key state >>=
        Parser.keyedWithin close handlers budget) stream := by
  have notClose : ¬ (key.kind == close) = true := by
    intro same
    rw [← beq_iff_eq.mp same, isKey] at closes
    cases closes
  rw [keyedWithin_succ, bind_of_ok (peek_apply _), lookahead_zero_preceded, if_neg notClose,
    if_pos (beq_iff_eq.mpr isKey), bind_of_ok (next_apply _), advance_preceded, preceded_nil]

/-- A list of keys goes on behind the value of its first key. -/
theorem keyedWithin_key (budget : Nat) (closes : closing close) {key : Token}
    (isKey : key.kind = .identifier) {state middle : σ} {stream rest : TokenStream}
    (valueRead : Parser.keyValue close handlers key state stream = .ok middle rest) :
    Parser.keyedWithin close handlers (budget + 1) state (stream.preceded [key]) =
      Parser.keyedWithin close handlers budget middle rest := by
  rw [keyedWithin_preceded budget closes isKey, bind_of_ok valueRead]

private theorem keyedWithin_sound (reads : HandlersRead n handlers table apply) (budget : Nat)
    {stream rest : TokenStream} {state later : σ}
    (read : Parser.keyedWithin close handlers budget state stream = .ok later rest) :
    rest.front = close ∧ ∃ tokens, stream = rest.preceded tokens ∧
      keysForm table apply state tokens later := by
  -- a list may end where the budget does, so both cases begin with the closing mark
  induction budget generalizing stream state with
  | zero =>
    rw [Parser.keyedWithin, bind_of_ok (peek_apply _)] at read
    split at read
    next atClose =>
      cases read
      exact ⟨beq_iff_eq.mp atClose, [], rfl, [], .nil, rfl⟩
    next => cases read
  | succ budget ih =>
    rw [keyedWithin_succ, bind_of_ok (peek_apply _)] at read
    split at read
    next atClose =>
      cases read
      exact ⟨beq_iff_eq.mp atClose, [], rfl, [], .nil, rfl⟩
    split at read
    next isKey =>
      rw [bind_of_ok (next_apply _)] at read
      obtain ⟨middle, _, valueRead, keysRead⟩ := bind_eq_ok.mp read
      have first := eq_preceded_of_front (beq_iff_eq.mp isKey) (by decide)
      generalize stream.lookahead 0 = key at *
      obtain ⟨tokens, entry, behind, advanced, written, entryApplied, ends⟩ :=
        keyValue_sound reads valueRead
      cases ends with
      | closing atClose =>
        rw [keyedWithin_close budget _ atClose] at keysRead
        cases keysRead
        refine ⟨atClose, key :: tokens, ?_, [(key.location, entry)], ?_, ?_⟩
        · rw [first, advanced]
          simp
        · exact .last (beq_iff_eq.mp isKey) written
        · rw [applyAll, entryApplied]
          rfl
      | @comma comma isComma =>
        obtain ⟨atClose, others, rfl, entries, list, applied⟩ := ih keysRead
        refine ⟨atClose, key :: (tokens ++ comma :: others), ?_,
          (key.location, entry) :: entries, ?_, ?_⟩
        · rw [first, advanced]
          simp
        · exact .cons (beq_iff_eq.mp isKey) written isComma list
        · rw [applyAll, entryApplied]
          exact applied
    next => cases read

private theorem keyedWithin_complete (reads : HandlersRead n handlers table apply)
    (closes : closing close) (notComma : close ≠ .comma) {tokens : List Token}
    {entries : List (Location × ε)} (list : KeyList (keyForm table) tokens entries)
    {state later : σ} (applied : applyAll apply entries state = some later)
    (short : tokens.length ≤ n) {budget : Nat} (enough : tokens.length ≤ budget)
    {rest : TokenStream} (atClose : rest.front = close) :
    Parser.keyedWithin close handlers budget state (rest.preceded tokens) = .ok later rest := by
  -- the state is that which the keys in front have made, so it varies with the budget
  induction list generalizing budget state with
  | nil =>
    cases applied
    exact keyedWithin_close budget _ atClose
  | @last key tokens entry isKey written =>
    obtain ⟨middle, entryApplied, done⟩ := Option.bind_eq_some_iff.mp applied
    cases done
    rw [List.length_cons] at short enough
    obtain ⟨budget, rfl⟩ := Nat.exists_eq_succ_of_ne_zero (Nat.ne_zero_of_lt enough)
    have valueRead := keyValue_complete reads closes notComma written entryApplied (by omega)
      (.closing atClose)
    have behindKey := keyedWithin_key budget closes isKey valueRead
    rw [preceded_preceded] at behindKey
    exact behindKey.trans (keyedWithin_close budget _ atClose)
  | @cons key comma tokens more entry entries isKey written isComma others ih =>
    obtain ⟨middle, entryApplied, applied⟩ := Option.bind_eq_some_iff.mp applied
    simp only [List.length_cons, List.length_append] at short enough
    obtain ⟨budget, rfl⟩ := Nat.exists_eq_succ_of_ne_zero (Nat.ne_zero_of_lt enough)
    have valueRead := keyValue_complete reads closes notComma written entryApplied (by omega)
      (.comma isComma (rest.preceded more))
    have behindKey := keyedWithin_key budget closes isKey valueRead
    simp only [preceded_preceded, List.cons_append, List.nil_append] at behindKey
    rw [behindKey]
    exact ih applied (by omega) (by omega)

/-- A list of keys up to, and not including, its closing mark.  The mark is left for what comes
behind, since keys may end with their text as well. -/
theorem keyed (reads : HandlersRead n handlers table apply) (closes : closing close)
    (notComma : close ≠ .comma) (state : σ) :
    Reads n (· = close) (Parser.keyed close handlers state) (keysForm table apply state) where
  sound stream later rest read := (keyedWithin_sound reads _ read).2
  complete := by
    rintro tokens later rest short ⟨entries, list, applied⟩ atClose
    rw [Parser.keyed, bind_of_ok (remaining_apply _)]
    refine keyedWithin_complete reads closes notComma list applied short ?_ atClose
    rw [length_tokens_preceded]
    omega

/-- Keys between parentheses, of which the first is read. -/
theorem keyedInParens (reads : HandlersRead n handlers table apply) (state : σ) :
    Reads n beforeParen (Parser.keyed .closeParen handlers state) (keysForm table apply state) :=
  keyed reads (rfl : closing .closeParen) (by decide) state

/-- A handler reports an entry that is refused at the place of its key. -/
def Refuses (n : Nat) (handler : KeyHandler σ) (form : Form ε)
    (apply : Location → ε → σ → Option σ) (fault : Location → Fault) : Prop :=
  ∀ here state tokens entry, tokens.length ≤ n → form tokens entry →
    apply here entry state = none → ∀ rest : TokenStream, closing rest.front →
      ∃ left, handler here state (rest.preceded tokens) = .error (fault here) left

/-- The handlers of a list of keys report what is refused of the forms of a table, key by key. -/
def HandlersRefuse (n : Nat) (handlers : List (String × KeyHandler σ))
    (table : List (String × Form ε)) (apply : Location → ε → σ → Option σ)
    (fault : Location → Fault) : Prop :=
  List.Forall₂ (fun handler rule => handler.1 = rule.1 ∧ Refuses n handler.2 rule.2 apply fault)
    handlers table

private theorem keyValue_refused {fault : Location → Fault}
    (refuse : HandlersRefuse n handlers table apply fault) {key : Token} {tokens : List Token}
    {entry : ε} {state : σ} (written : keyForm table key.value tokens entry)
    (refused : apply key.location entry state = none) (short : tokens.length ≤ n)
    {rest : TokenStream} (follows : closing rest.front) :
    ∃ left, Parser.keyValue close handlers key state (rest.preceded tokens) =
      .error (fault key.location) left := by
  obtain ⟨form, known, written⟩ := written
  rcases lookup_of_forall₂ (R := fun handler form => Refuses n handler form apply fault) refuse
    key.value with ⟨-, unknown⟩ | ⟨handler, _, found, known', fails⟩
  · rw [unknown] at known
    cases known
  rw [known] at known'
  cases known'
  obtain ⟨left, failed⟩ := fails _ _ _ _ short written refused rest follows
  refine ⟨left, ?_⟩
  rw [keyValue, found]
  exact bind_of_error failed

/-- Reading a list of keys ends at the first entry that is refused. -/
theorem keyedWithin_refused {fault : Location → Fault}
    (reads : HandlersRead n handlers table apply)
    (refuse : HandlersRefuse n handlers table apply fault) (closes : closing close)
    (notComma : close ≠ .comma) {tokens : List Token} {entries : List (Location × ε)}
    (list : KeyList (keyForm table) tokens entries) {state : σ} {here : Location}
    (refused : RefusedAt apply entries state here) (short : tokens.length ≤ n) {budget : Nat}
    (enough : tokens.length ≤ budget) {rest : TokenStream} (atClose : rest.front = close) :
    ∃ left, Parser.keyedWithin close handlers budget state (rest.preceded tokens) =
      .error (fault here) left := by
  -- the entries in front of the refused one are applied, so the state varies
  induction list generalizing budget state with
  | nil => cases refused
  | @last key tokens entry isKey written =>
    rw [List.length_cons] at short enough
    obtain ⟨budget, rfl⟩ := Nat.exists_eq_succ_of_ne_zero (Nat.ne_zero_of_lt enough)
    have behindKey := @keyedWithin_preceded _ handlers close budget closes key isKey state
      (rest.preceded tokens)
    rw [preceded_preceded] at behindKey
    rw [List.singleton_append] at behindKey
    rw [behindKey]
    cases refused with
    | here entryRefused =>
      have follows : closing rest.front := atClose ▸ closes
      obtain ⟨left, failed⟩ := keyValue_refused refuse written entryRefused (by omega) follows
      exact ⟨left, bind_of_error failed⟩
    | behind _ others => cases others
  | @cons key comma tokens more entry entries isKey written isComma others ih =>
    simp only [List.length_cons, List.length_append] at short enough
    obtain ⟨budget, rfl⟩ := Nat.exists_eq_succ_of_ne_zero (Nat.ne_zero_of_lt enough)
    have behindKey := @keyedWithin_preceded _ handlers close budget closes key isKey state
      ((rest.preceded (comma :: more)).preceded tokens)
    simp only [preceded_preceded, List.cons_append, List.nil_append] at behindKey
    rw [behindKey]
    cases refused with
    | here entryRefused =>
      have follows : closing (rest.preceded (comma :: more)).front := by
        rw [front_preceded, isComma]
        rfl
      obtain ⟨left, failed⟩ := keyValue_refused refuse written entryRefused (by omega) follows
      rw [preceded_preceded] at failed
      exact ⟨left, bind_of_error failed⟩
    | behind applied refusedBehind =>
      have valueRead := keyValue_complete reads closes notComma written applied (by omega)
        (.comma isComma (rest.preceded more))
      simp only [preceded_preceded, List.cons_append, List.nil_append] at valueRead
      rw [bind_of_ok valueRead]
      exact ih refusedBehind (by omega) (by omega)

/-- A list of keys up to its closing mark, one of which is refused.  The handlers in front of the
refused key read as they do in a list that is accepted, so the fault is that of the first refused
key. -/
theorem keyed_refused {fault : Location → Fault} (reads : HandlersRead n handlers table apply)
    (refuse : HandlersRefuse n handlers table apply fault) (closes : closing close)
    (notComma : close ≠ .comma) {tokens : List Token} {entries : List (Location × ε)}
    (list : KeyList (keyForm table) tokens entries) {state : σ} {here : Location}
    (refused : RefusedAt apply entries state here) (short : tokens.length ≤ n)
    {rest : TokenStream} (atClose : rest.front = close) :
    ∃ left, Parser.keyed close handlers state (rest.preceded tokens) =
      .error (fault here) left := by
  rw [Parser.keyed, bind_of_ok (remaining_apply _)]
  refine keyedWithin_refused reads refuse closes notComma list refused short ?_ atClose
  rw [length_tokens_preceded]
  omega

/-- A list of keys ends at its closing mark. -/
theorem front_of_keyed (reads : HandlersRead n handlers table apply) {state later : σ}
    {stream rest : TokenStream}
    (read : Parser.keyed close handlers state stream = .ok later rest) : rest.front = close :=
  (keyedWithin_sound reads _ read).1

/-- A key that reads its value and then applies it. -/
theorem entryBind {read : Parser α} {second : α → Parser σ} {form : Form α} {make : α → ε}
    {here : Location} {state : σ} (reads : Reads n closing read form)
    (decided : ∀ value, Reads n closing (second value) fun tokens later =>
      tokens = [] ∧ apply here (make value) state = some later) :
    Reads n closing (read >>= second) (entryForm (make <$> form) apply here state) := by
  refine Reads.congr (reads.bind decided fun value => ?_) fun tokens later => ?_
  · rintro _ later ⟨rfl, -⟩ rest suits
    exact suits
  constructor
  · rintro ⟨front, _, value, rfl, written, rfl, applied⟩
    rw [List.append_nil]
    exact ⟨make value, Form.map_iff.mpr ⟨value, written, rfl⟩, applied⟩
  · rintro ⟨_, written, applied⟩
    obtain ⟨value, inner, rfl⟩ := Form.map_iff.mp written
    exact ⟨tokens, [], value, (List.append_nil _).symm, inner, rfl, applied⟩

/-- A key that sets its value whatever the state. -/
theorem entry {read : Parser α} {form : Form α} {make : α → ε} {set : α → σ}
    {here : Location} {state : σ} (reads : Reads n closing read form)
    (applies : ∀ value, apply here (make value) state = some (set value)) :
    Reads n closing (read >>= fun value => Pure.pure (set value))
      (entryForm (make <$> form) apply here state) := by
  refine entryBind reads fun value => ?_
  rw [applies value]
  exact gives _

end Keys

end Parser.Reads

end OpenResponse
