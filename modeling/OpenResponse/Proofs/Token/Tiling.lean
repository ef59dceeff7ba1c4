import OpenResponse.Proofs.Token.Layout

/-!
# Tokens tile their text

Scanning loses no character.  Every token stands for a part of the text, the parts follow one
another without overlapping, and what lies between them is blank or a comment.  The location of a
token is the one that is reached by reading the text in front of its part, however many characters
the steps of scanning took at a time.

Two things are followed through the recursion of `scan`: which part of the text the next step takes,
and that the location it starts from is that of the text in front.  The first is a property of
single steps, proved form by form: what a step takes is a gap, or it is the text of its token.  The
second holds because a location behind two texts is reached by reading one behind the other, so that
it does not matter how many characters a step takes at a time.

## Main definitions

* `Shows` — the texts of tokens, as they are written
* `LastGap` — blanks and comments up to the end of a text
* `Span`, `Tiled` — the parts of a text that the tokens stand for

## Main statements

* `readLexeme_takes` — what one step of scanning takes
* `scan_tiles` — what scanning takes from any place on
* `tokenize_tiles` — **the tokens of a text tile it**

## Design notes

A gap between two tokens consists of blanks and closed comments.  A line comment has no end of its
own: it belongs to a gap only together with the line feed behind it, which the next step takes, and
at the end of a text it may stand without one.  Hence `LastGap`, and the two cases of
`Lexeme.MadeOf`.

For a string literal the part shows the quotes, and of its body nothing but that it stands between
them; what a body denotes is a matter of its escapes.  All other tokens show their value.
-/

namespace OpenResponse

/-! ### What tokens look like -/

/-- The texts of tokens.  A name may be marked as raw, a lifetime stands behind its mark, a string
stands between quotes, and every other token is its own text.  A raw string is verbatim. -/
inductive Shows : List Char → TokenKind → String → Prop
  | plain {kind : TokenKind} (value : String) (notString : kind ≠ .string)
      (notLifetime : kind ≠ .lifetime) (notRaw : ¬ ['r', '#'] <+: value.toList) :
      Shows value.toList kind value
  | rawName (value : String) : Shows ('r' :: '#' :: value.toList) .identifier value
  | lifetime (value : String) : Shows ('\'' :: value.toList) .lifetime value
  | string (value : String) (body : List Char) : Shows ('"' :: (body ++ ['"'])) .string value
  | rawString (value : String) (hashes : Nat) :
      Shows ('r' :: (List.replicate hashes '#' ++
        '"' :: (value.toList ++ '"' :: List.replicate hashes '#'))) .string value

/-- Blanks and comments up to the end of a text, which may end inside a line comment. -/
inductive LastGap : List Char → Prop
  | closed {gap : List Char} (isGap : Gap gap) : LastGap gap
  | comment {gap comment : List Char} (isGap : Gap gap) (inLine : '\n' ∉ comment) :
      LastGap (gap ++ '/' :: '/' :: comment)

/-- A gap in front of the last one belongs to it. -/
theorem LastGap.append {front back : List Char} (first : Gap front) (last : LastGap back) :
    LastGap (front ++ back) := by
  cases last with
  | closed second => exact .closed (first.append second)
  | comment second inLine =>
    rw [← List.append_assoc]
    exact .comment (first.append second) inLine

/-! ### What literals take -/

section Literals

variable {p : Char → Bool}

/-- A run of characters is what is taken of the text up to its length. -/
theorem take_length_takeWhile (text : List Char) :
    text.take (text.takeWhile p).length = text.takeWhile p :=
  (List.prefix_iff_eq_take.mp (List.takeWhile_prefix p)).symm

/-- Behind a run of characters another character stands, or nothing. -/
theorem head?_drop_takeWhile (text : List Char) :
    ∀ b ∈ (text.drop (text.takeWhile p).length).head?, p b = false := by
  induction text with
  | nil =>
    intro b first
    cases first
  | cons c rest ih =>
    rw [List.takeWhile_cons]
    split
    · exact ih
    · next other =>
      intro b first
      cases first
      exact Bool.eq_false_iff.mpr other

/-- A string literal takes the text up to a quote. -/
theorem take_readString {start here : Location} {text value : List Char} {used : Nat}
    (read : readString start here text = .ok (value, used)) :
    ∃ body, text.take used = body ++ ['"'] := by
  fun_induction readString start here text generalizing value used with
  | case1 => cases read
  | case2 here rest =>
    cases read
    exact ⟨[], rfl⟩
  | case3 => cases read
  | case4 => cases read
  | case5 here rest behind denoted taken escape others more readRest =>
    rename_i ih
    cases read
    obtain ⟨body, same⟩ := ih readRest
    refine ⟨'\\' :: (rest.take taken ++ body), ?_⟩
    have count : 1 + taken + more = (taken + more) + 1 := by omega
    rw [count, List.take_succ_cons, List.take_add, same]
    simp
  | case6 => cases read
  | case7 here c rest notQuote notBackslash others more readRest ih =>
    cases read
    obtain ⟨body, same⟩ := ih readRest
    refine ⟨c :: body, ?_⟩
    rw [Nat.add_comm, List.take_succ_cons, same]
    rfl

/-- The value of a raw string literal stands in front of its closing quote and hash marks. -/
theorem take_rawValue? {text value : List Char} {hashes : Nat}
    (found : rawValue? hashes text = some value) :
    text.take (value.length + 1 + hashes) = value ++ '"' :: List.replicate hashes '#' := by
  obtain ⟨-, back, rfl⟩ := rawValue?_eq_some_iff.mp found
  rw [← List.append_assoc]
  refine List.take_left' ?_
  simp only [rawClosing, List.length_append, List.length_cons, List.length_replicate]
  omega

/-- A raw string literal takes its value with quotes and as many hash marks on either side. -/
theorem take_readRawString {start : Location} {text value : List Char} {used : Nat}
    (read : readRawString start text = .ok (value, used)) :
    ∃ hashes, text.take used = List.replicate hashes '#' ++
      '"' :: (value ++ '"' :: List.replicate hashes '#') := by
  have marks : text.takeWhile (· == '#') =
      List.replicate (text.takeWhile (· == '#')).length '#' := by
    refine List.eq_replicate_of_mem fun c listed => ?_
    exact beq_iff_eq.mp (List.all_eq_true.mp List.all_takeWhile c listed)
  have front : text.take (text.takeWhile (· == '#')).length = text.takeWhile (· == '#') :=
    take_length_takeWhile text
  rw [readRawString] at read
  generalize (text.takeWhile (· == '#')).length = hashes at *
  refine ⟨hashes, ?_⟩
  split at read
  next rest behind =>
    split at read
    next value found =>
      cases read
      have count : hashes + 1 + value.length + 1 + hashes =
          hashes + ((value.length + 1 + hashes) + 1) := by omega
      rw [count, List.take_add, front, marks, behind, List.take_succ_cons, take_rawValue? found]
    next => cases read
  next => cases read

/-- A block comment takes the text up to its closing mark, which does not stand inside it. -/
theorem take_commentExtent? {text : List Char} {extent : Nat}
    (closed : commentExtent? text = some extent) :
    ∃ comment, text.take extent = comment ++ ['*', '/'] ∧ ¬ ['*', '/'] <:+: comment ++ ['*'] := by
  obtain ⟨comment, back, unclosed, rfl, rfl⟩ := commentExtent?_eq_some_iff.mp closed
  have whole : comment ++ '*' :: '/' :: back = comment ++ ['*', '/'] ++ back := by simp
  rw [whole]
  exact ⟨comment, List.take_left' (by simp), unclosed⟩

/-- A number takes at least the digit that it begins with. -/
theorem numberExtent_pos {c : Char} (digit : isDigit c = true) (rest : List Char) :
    0 < (numberExtent (c :: rest)).2 := by
  by_cases based : BeginsBase (c :: rest)
  · obtain ⟨letter, isLetter, tail, same⟩ := based
    rw [same, numberExtent_of_base isLetter]
    dsimp only
    omega
  · have whole : 0 < digitRun (c :: rest) := by
      rw [digitRun, List.takeWhile_cons, digit, Bool.or_true, if_pos rfl]
      exact Nat.succ_pos _
    rw [numberExtent_of_not based]
    dsimp only
    omega

end Literals

/-! ### What one step takes

Each form of a step is looked at once.  Whatever it takes is the front of the text that it reads, so
the literals above only have to say what that front looks like. -/

/-- A line comment in front of a line feed or of the end of the text. -/
structure LineComment (taken back : List Char) : Prop where
  begins : ∃ comment, taken = '/' :: '/' :: comment ∧ '\n' ∉ comment
  ends : ∀ b ∈ back.head?, b = '\n'

/-- What a lexeme is made of: a token of that text, or else blanks or a comment. -/
def Lexeme.MadeOf (lexeme : Lexeme) (taken back : List Char) : Prop :=
  match lexeme.token with
  | some (kind, value) => Shows taken kind value
  | none => Gap taken ∨ LineComment taken back

/-- An outcome of a step of scanning that takes what its lexeme is made of. -/
def Takes (c : Char) (rest : List Char) (step : Except Fault Lexeme) : Prop :=
  ∀ lexeme, step = .ok lexeme →
    lexeme.MadeOf (c :: rest.take lexeme.more) (rest.drop lexeme.more)

namespace Lexeme.MadeOf

variable {more : Nat} {kind : TokenKind} {text taken back : List Char}

/-- A token that shows what it is. -/
theorem token {value : String} (shows : Shows text kind value) (same : taken = text) :
    (Lexeme.mk more (some (kind, value))).MadeOf taken back := by
  subst same
  exact shows

/-- A token that is its own text. -/
theorem plain (notString : kind ≠ .string) (notLifetime : kind ≠ .lifetime)
    (notRaw : ¬ ['r', '#'] <+: text) (same : taken = text) :
    (Lexeme.mk more (some (kind, String.ofList text))).MadeOf taken back := by
  rw [← String.toList_ofList (l := text)] at notRaw
  refine token (.plain _ notString notLifetime notRaw) ?_
  rw [String.toList_ofList]
  exact same

end Lexeme.MadeOf

/-- A name without a mark does not look like one that is marked as raw. -/
theorem not_rawPrefix_name (c : Char) (rest : List Char) :
    ¬ ['r', '#'] <+: c :: rest.takeWhile continuesName := by
  intro marked
  have hash := (List.cons_prefix_cons.mp marked).2.subset List.mem_cons_self
  exact (plain_of_continuesName (List.all_eq_true.mp List.all_takeWhile '#' hash)).2 rfl

open Lexeme.MadeOf in /-- One step of scanning takes the text of a token, or blanks or a comment.
The cases are those of a step.  A line comment is the only one whose end is not in its own text,
which is why its case also says what comes next. -/
theorem readLexeme_takes (here : Location) (c : Char) (rest : List Char) :
    Takes c rest (readLexeme here c rest) := by
  intro lexeme step
  cases readLexeme_eq_iff.mp step with
  | blank isBlank => exact .inl (.blank isBlank .nil)
  | lineComment text =>
    refine .inr ⟨⟨text.takeWhile (· != '\n'), ?_, fun feed => ?_⟩, fun b first => ?_⟩
    · rw [List.take_succ_cons, take_length_takeWhile]
    · have all := List.all_eq_true.mp (List.all_takeWhile (p := (· != '\n')) (l := text))
      exact absurd (all '\n' feed) (by decide)
    · exact bne_eq_false_iff_eq.mp (head?_drop_takeWhile text b first)
  | blockComment closed =>
    obtain ⟨comment, same, unclosed⟩ := take_commentExtent? closed
    have gap := Gap.block unclosed .nil
    rw [← same] at gap
    exact .inl gap
  | string read =>
    obtain ⟨body, same⟩ := take_readString read
    exact token (.string _ body) (congrArg _ same)
  | rawString begins read =>
    obtain ⟨hashes, same⟩ := take_readRawString read
    refine token (.rawString _ hashes) ?_
    rw [same, String.toList_ofList]
  | rawName begins =>
    refine token (.rawName _) ?_
    rw [String.toList_ofList, List.take_succ_cons, List.take_succ_cons, nameRun,
      take_length_takeWhile]
  | name begins raw =>
    refine plain (by decide) (by decide) (not_rawPrefix_name c rest) ?_
    rw [nameRun, take_length_takeWhile]
  | @number _ _ kind length digit extent =>
    have isNumber := kind_of_numberExtent (c :: rest)
    -- a number has a first character, so that what is taken can be counted from it
    have positive := numberExtent_pos digit rest
    rw [extent] at isNumber positive
    have taken : (c :: rest).take length = c :: rest.take (length - 1) := by
      obtain ⟨others, rfl⟩ := Nat.exists_eq_add_of_lt positive
      rw [Nat.zero_add, List.take_succ_cons, Nat.add_sub_cancel]
    have other : kind ≠ .string ∧ kind ≠ .lifetime := by
      rcases isNumber with rfl | rfl <;> decide
    refine plain other.1 other.2 (fun marked => ?_) taken.symm
    rw [taken] at marked
    have isR := (List.cons_prefix_cons.mp marked).1
    exact absurd (isR ▸ digit) (by decide)
  | lifetime named =>
    refine token (.lifetime _) ?_
    rw [String.toList_ofList, take_length_takeWhile]
  | separator text => exact token (.plain _ (by decide) (by decide) (by decide)) rfl
  | colon single => exact token (.plain _ (by decide) (by decide) (by decide)) rfl
  | mark isMark =>
    -- the text of a mark is too short for the two characters of a raw prefix
    have text : c.toString.toList = [c] := String.toList_singleton c
    have notOther := ne_of_ofMark? isMark
    refine token (.plain _ (notOther _ (by decide)) (notOther _ (by decide)) fun marked => ?_)
      text.symm
    rw [text] at marked
    exact Nat.not_succ_le_self 1 marked.length_le

/-! ### What scanning takes

The parts are counted from the beginning of the whole text, while scanning knows only what is left
of it.  So the statement that is proved by induction has a text in front, which grows by what each
step takes. -/

/-- A part of a text: from one place up to, and not including, another. -/
structure Span where
  /-- The number of characters in front of the part. -/
  first : Nat
  /-- The number of characters up to its end. -/
  past : Nat

/-- The parts of a text for which tokens stand, from a place on.  A part begins where the one in
front of it ends, or behind a gap, and is not empty; the token shows what stands there, and its
location is that of the text in front.  Behind the last part there is nothing but a gap. -/
inductive Tiled (origin : Location) (text : List Char) : Nat → List Span → List Token → Prop
  | nil {place : Nat} (gap : LastGap (text.drop place)) : Tiled origin text place [] []
  | cons {place : Nat} {span : Span} {spans : List Span} {token : Token} {tokens : List Token}
      (behind : place ≤ span.first) (filled : span.first < span.past)
      (inside : span.past ≤ text.length) (gap : Gap (text.extract place span.first))
      (located : token.location = origin.behind (text.take span.first))
      (shows : Shows (text.extract span.first span.past) token.kind token.value)
      (others : Tiled origin text span.past spans tokens) :
      Tiled origin text place (span :: spans) (token :: tokens)

/-- The middle of three texts, one behind the other. -/
theorem extract_append (front middle back : List Char) :
    (front ++ (middle ++ back)).extract front.length (front ++ middle).length = middle := by
  rw [List.extract_eq_take_drop, List.drop_left, List.length_append, Nat.add_sub_cancel_left,
    List.take_left]

namespace Tiled

variable {origin : Location} {front back : List Char} {spans : List Span} {tokens : List Token}

/-- A gap in front of the parts of a text belongs to the gap in front of the first. -/
theorem behindGap {gap : List Char} (isGap : Gap gap)
    (tiled : Tiled origin (front ++ (gap ++ back)) (front ++ gap).length spans tokens) :
    Tiled origin (front ++ (gap ++ back)) front.length spans tokens := by
  cases tiled with
  | nil last =>
    rw [← List.append_assoc, List.drop_left] at last
    refine .nil ?_
    rw [List.drop_left]
    exact .append isGap last
  | @cons _ span _ _ _ behind filled inside more located shows others =>
    rw [List.length_append] at behind
    refine .cons (by omega) filled inside ?_ located shows others
    -- what lies in front of the first part is the gap and what lay there before
    have parts : (front ++ (gap ++ back)).extract front.length span.first =
        gap ++ (front ++ (gap ++ back)).extract (front ++ gap).length span.first := by
      have split : span.first - front.length =
          gap.length + (span.first - (front ++ gap).length) := by
        rw [List.length_append]
        omega
      rw [List.extract_eq_take_drop, List.extract_eq_take_drop, split, List.drop_left,
        ← List.append_assoc, List.drop_left, List.take_add, List.take_left, List.drop_left]
    rw [parts]
    exact isGap.append more

/-- A token in front of the parts of a text. -/
theorem behindToken {text : List Char} {token : Token} (filled : text ≠ [])
    (located : token.location = origin.behind front)
    (shows : Shows text token.kind token.value)
    (tiled : Tiled origin (front ++ (text ++ back)) (front ++ text).length spans tokens) :
    Tiled origin (front ++ (text ++ back)) front.length
      (⟨front.length, (front ++ text).length⟩ :: spans) (token :: tokens) := by
  have length := List.length_pos_iff.mpr filled
  refine .cons (Nat.le_refl _) ?_ ?_ ?_ ?_ ?_ tiled
  · dsimp only
    rw [List.length_append]
    omega
  · dsimp only
    rw [← List.append_assoc]
    exact (List.prefix_append _ _).length_le
  · rw [List.extract_eq_take_drop, Nat.sub_self, List.take_zero]
    exact .nil
  · rw [List.take_left]
    exact located
  · rw [extract_append]
    exact shows

/-- The location of every token is that of the text in front of its part. -/
theorem located {text : List Char} {place : Nat} (tiled : Tiled origin text place spans tokens) :
    List.Forall₂ (fun span token => span.first ≤ text.length ∧
      token.location = origin.behind (text.take span.first)) spans tokens := by
  induction tiled with
  | nil => exact .nil
  | cons _ filled inside _ located _ _ ih =>
    exact .cons ⟨Nat.le_trans (Nat.le_of_lt filled) inside, located⟩ ih

end Tiled

/-- The parts of a text that scanning goes on with behind its front.  Every token covers a part of
its own, in order, and between two parts there is only a gap. -/
theorem scan_tiles {origin : Location} {front rest : List Char} {tokens : List Token}
    (scanned : scan (origin.behind front) rest = .ok tokens) :
    ∃ spans, Tiled origin (front ++ rest) front.length spans tokens := by
  generalize size : rest.length = n
  induction n using Nat.strongRecOn generalizing front rest tokens with
  | _ n ih =>
    subst size
    cases rest with
    | nil =>
      rw [scan] at scanned
      cases scanned
      exact ⟨[], .nil (by rw [List.drop_left]; exact .closed .nil)⟩
    | cons c rest =>
      obtain ⟨lexeme, others, read, scannedRest, rfl⟩ := scan_cons_eq_ok.mp scanned
      have made := readLexeme_takes _ c rest lexeme read
      have whole : c :: rest = (c :: rest.take lexeme.more) ++ rest.drop lexeme.more := by
        rw [List.cons_append, List.take_append_drop]
      have shorter : (rest.drop lexeme.more).length < (c :: rest).length := by
        rw [List.length_drop, List.length_cons]
        omega
      rw [← Location.behind_cons, ← Location.behind_append] at scannedRest
      rw [whole]
      have filled : c :: rest.take lexeme.more ≠ [] := List.cons_ne_nil _ _
      obtain ⟨more, token⟩ := lexeme
      dsimp only at made scannedRest shorter filled ⊢
      generalize c :: rest.take more = taken at *
      generalize rest.drop more = back at *
      cases token with
      | some token =>
        obtain ⟨spans, tiled⟩ := ih _ shorter scannedRest rfl
        rw [List.append_assoc] at tiled
        exact ⟨_, tiled.behindToken filled rfl made⟩
      | none =>
        rcases made with gap | ⟨⟨comment, rfl, inLine⟩, ends⟩
        · obtain ⟨spans, tiled⟩ := ih _ shorter scannedRest rfl
          rw [List.append_assoc] at tiled
          exact ⟨spans, tiled.behindGap gap⟩
        -- a line comment is no gap without the line feed behind it, which the next step takes
        · cases back with
          | nil =>
            rw [scan] at scannedRest
            cases scannedRest
            refine ⟨[], .nil ?_⟩
            rw [List.append_nil, List.drop_left]
            exact .comment .nil inLine
          | cons b back =>
            cases ends b rfl
            have gap := Gap.line inLine .nil
            rw [scan_lineFeed, ← Location.behind_nil (Location.next _ _), ← Location.behind_cons,
              ← Location.behind_append, List.append_assoc] at scannedRest
            obtain ⟨spans, tiled⟩ := ih _ (Nat.lt_of_succ_lt shorter) scannedRest rfl
            have whole : '/' :: '/' :: comment ++ '\n' :: back =
                '/' :: '/' :: (comment ++ ['\n']) ++ back := by simp
            rw [List.append_assoc] at tiled
            rw [whole]
            exact ⟨spans, tiled.behindGap gap⟩

/-- The tokens of a text tile it: each stands for a part of the text that shows it, the parts follow
one another from the front of the text on, with nothing but blanks and comments in front of,
between and behind them, and the location of a token is that of the text in front of its part.
The list ends with the one token for the end of the input, whose location is that of the whole
text. -/
theorem tokenize_tiles {origin : Location} {text : String} {stream : TokenStream}
    (read : tokenize origin text = .ok stream) :
    ∃ spans tokens, Tiled origin text.toList 0 spans tokens ∧
      (∀ token ∈ tokens, token.kind ≠ .endOfInput) ∧
      stream.listed = tokens ++ [⟨.endOfInput, "", origin.behind text.toList⟩] := by
  obtain ⟨scanned, ended⟩ := tokenize_eq_ok.mp read
  obtain ⟨spans, tiled⟩ := @scan_tiles origin [] _ _ scanned
  have inside := scan_ne_endOfInput scanned
  refine ⟨spans, stream.tokens, tiled, inside, ?_⟩
  rw [TokenStream.listed, ended]

/-- A raw name, a comment inside the text and one that ends it. -/
theorem tokenize_tiles_comments :
    ∃ stream, tokenize ⟨3, 5⟩ "r#type: &'a str /* `*` */,\n\"a\\\n  b\" // end" = .ok stream ∧
      ∃ spans tokens,
        Tiled ⟨3, 5⟩ "r#type: &'a str /* `*` */,\n\"a\\\n  b\" // end".toList 0 spans tokens ∧
        (∀ token ∈ tokens, token.kind ≠ .endOfInput) ∧
        stream.listed = tokens ++ [⟨.endOfInput, "", ⟨5, 12⟩⟩] := by
  have read : (tokenize ⟨3, 5⟩ "r#type: &'a str /* `*` */,\n\"a\\\n  b\" // end").isOk = true := by
    decide +kernel
  have finish : (⟨5, 12⟩ : Location) =
      Location.behind ⟨3, 5⟩ "r#type: &'a str /* `*` */,\n\"a\\\n  b\" // end".toList := by
    decide +kernel
  obtain ⟨stream, scanned⟩ := exists_of_isOk read
  rw [finish]
  exact ⟨stream, scanned, tokenize_tiles scanned⟩

end OpenResponse
