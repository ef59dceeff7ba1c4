import OpenResponse.Proofs.TypeRef.Tokens

/-!
# Spacing the tokens of types

Blanks and comments may stand in front of each token and behind the last, and tokens may stand side
by side as long as no name, lifetime or number runs into a character that would continue it.  For
the tokens that types are made of this is all there is: scanning a text gives a list of such tokens
exactly if the text is one of theirs.

What makes this an equivalence is that the characters which begin a gap and those with which tokens
begin have nothing in common with the strays, the characters with which a number or a name would go
on.  So whatever is written behind a token, be it a gap or the next token, either ends it or is
excluded by `Symbol.Apart`, and the tokens of the text are those that were written.

## Main definitions

* `Spaced` — the texts of lists of tokens of types

## Main statements

* `scan_spaced` — scanning a text reads the tokens that are written in it
* `spaced_of_scan` — a text that is scanned is one of the texts of its tokens

## Hypotheses

`Symbol.Apart` is asked of a name, a lifetime or a number and the whole text behind it.  For
punctuation marks nothing is asked, although two angle brackets or two colons may stand side by
side: no mark of types is the beginning of another token of types, except for the separator, which
is taken whole.

`spaced_of_scan` asks that all tokens stand in types.  In other texts there are literals, whose
values do not determine their texts, and for these no spacing is defined.
-/

namespace OpenResponse

/-- The texts of lists of tokens of types.  In front of each token and behind the last there are
gaps, and each token ends where the text goes on behind it. -/
inductive Spaced : List Symbol → List Char → Prop
  /-- Behind the last token there is nothing but blanks and comments. -/
  | nil {gap : List Char} (isGap : LastGap gap) : Spaced [] gap
  /-- So there is in front of every token. -/
  | cons {gap spelling text : List Char} {symbol : Symbol} {symbols : List Symbol}
      (isGap : Gap gap) (denotes : Denotes spelling symbol) (apart : symbol.Apart text)
      (others : Spaced symbols text) : Spaced (symbol :: symbols) (gap ++ (spelling ++ text))

/-- What is written has a text. -/
theorem Spaced.exists_denotes {symbols : List Symbol} {text : List Char}
    (spaced : Spaced symbols text) : ∀ symbol ∈ symbols, ∃ text, Denotes text symbol := by
  induction spaced with
  | nil => exact fun _ listed => (List.not_mem_nil listed).elim
  | cons _ denotes _ _ ih => exact List.forall_mem_cons.mpr ⟨⟨_, denotes⟩, ih⟩

/-! ### What stands behind a token

A token of types is read as it is written if no stray follows, and what is written never begins with
one. -/

/-- A gap begins with a blank or a slash. -/
theorem Gap.head_not_mem_strays {gap : List Char} (isGap : Gap gap) :
    ∀ c ∈ gap.head?, c ∉ strays := by
  have notBlank : ∀ d ∈ strays, isBlank d = false := forall_mem_of_all (by decide)
  intro c first stray
  cases isGap with
  | nil => cases first
  | blank isBlank =>
    cases first
    rw [notBlank _ stray] at isBlank
    cases isBlank
  | line | block =>
    cases first
    exact absurd stray (by decide)

/-- What is written for tokens of types begins with no stray. -/
theorem Spaced.head_not_mem_strays {symbols : List Symbol} {text : List Char}
    (spaced : Spaced symbols text) : ∀ c ∈ text.head?, c ∉ strays := by
  have behind {gap back : List Char} (isGap : Gap gap) (plain : ∀ c ∈ back.head?, c ∉ strays) :
      ∀ c ∈ (gap ++ back).head?, c ∉ strays := by
    cases gap with
    | nil => exact plain
    | cons d gap => exact isGap.head_not_mem_strays
  cases spaced with
  | nil isGap =>
    cases isGap with
    | closed isGap => exact isGap.head_not_mem_strays
    | comment isGap =>
      refine behind isGap fun c first => ?_
      cases first
      decide
  | cons isGap denotes =>
    obtain ⟨c, rest, rfl, plain⟩ := denotes.exists_cons
    refine behind isGap fun d first => ?_
    cases first
    exact plain

/-! ### Scanning what is written

By induction on the list: the gap is skipped, the token is read in front of what follows it, and the
rest is scanned from the place behind it. -/

/-- Nothing is read of the blanks and comments at the end of a text. -/
theorem scan_lastGap {gap : List Char} (isGap : LastGap gap) (here : Location) :
    scan here gap = .ok [] := by
  have ended (here : Location) : scan here [] = .ok [] := by rw [scan]
  cases isGap with
  | closed isGap =>
    rw [← List.append_nil gap, scan_gap isGap, ended]
  | @comment gap comment isGap inLine =>
    have run : (comment ++ []).takeWhile (· != '\n') = comment := by
      refine takeWhile_append_of_forall (fun c listed => ?_) fun b first => ?_
      · rw [bne_iff_ne]
        rintro rfl
        exact inLine listed
      · cases first
    have read : readLexeme (here.behind gap) '/' ('/' :: comment ++ []) =
        .ok ⟨('/' :: comment).length, none⟩ := by
      rw [List.cons_append, (ScanStep.lineComment _).readLexeme_eq, run, List.length_cons]
    have passed := scan_silent read
    rw [List.append_nil, ended] at passed
    rw [scan_gap isGap, passed]

/-- Scanning a text reads the tokens that are written in it.  Their locations depend on the gaps,
and are not looked at. -/
theorem scan_spaced {symbols : List Symbol} {text : List Char} (spaced : Spaced symbols text)
    (here : Location) :
    ∃ tokens, scan here text = .ok tokens ∧ tokens.map Token.symbol = symbols := by
  induction spaced generalizing here with
  | nil isGap => exact ⟨[], scan_lastGap isGap here, rfl⟩
  | @cons gap spelling text symbol symbols isGap denotes apart others ih =>
    obtain ⟨c, rest, rfl, read⟩ := denotes.readLexeme apart others.head_not_mem_strays
    obtain ⟨tokens, scanned, same⟩ := ih ((here.behind gap).behind (c :: rest))
    refine ⟨⟨symbol.kind, symbol.value, here.behind gap⟩ :: tokens, ?_, ?_⟩
    · rw [scan_gap isGap, scan_token read, scanned]
      rfl
    · rw [List.map_cons, same]
      rfl

/-! ### What scanning reads

The induction is on the steps of scanning.  A step takes a blank, a comment or a token; the first
two go to the gap of whatever comes next. -/

/-- A gap in front of a list of tokens belongs to the gap in front of the first. -/
theorem Spaced.behindGap {gap text : List Char} {symbols : List Symbol} (isGap : Gap gap)
    (spaced : Spaced symbols text) : Spaced symbols (gap ++ text) := by
  cases spaced with
  | nil last => exact .nil (.append isGap last)
  | cons second denotes apart others =>
    rw [← List.append_assoc]
    exact .cons (isGap.append second) denotes apart others

/-- A line comment belongs to that gap, with the line feed behind it. -/
theorem Spaced.behindComment {comment text : List Char} {symbols : List Symbol}
    (inLine : '\n' ∉ comment) (spaced : Spaced symbols text) :
    Spaced symbols ('/' :: '/' :: comment ++ '\n' :: text) := by
  have gap := Gap.line inLine .nil
  have split : '/' :: '/' :: comment ++ '\n' :: text =
      '/' :: '/' :: (comment ++ ['\n']) ++ text := by simp
  rw [split]
  exact spaced.behindGap gap

/-- A text that is scanned is one of the texts of its tokens, if these all stand in types. -/
theorem spaced_of_scan {here : Location} {text : List Char} {tokens : List Token}
    (scanned : scan here text = .ok tokens)
    (inType : ∀ token ∈ tokens, token.kind.standsInType = true) :
    Spaced (tokens.map Token.symbol) text := by
  generalize size : text.length = n
  induction n using Nat.strongRecOn generalizing here text tokens with
  | _ n ih =>
    subst size
    cases text with
    | nil =>
      rw [scan] at scanned
      cases scanned
      exact .nil (.closed .nil)
    | cons c rest =>
      obtain ⟨lexeme, others, read, scannedRest, rfl⟩ := scan_cons_eq_ok.mp scanned
      have made := readLexeme_takes _ c rest lexeme read
      have taken := readLexeme_takesText _ c rest lexeme read
      have whole : c :: rest = (c :: rest.take lexeme.more) ++ rest.drop lexeme.more := by
        rw [List.cons_append, List.take_append_drop]
      have shorter : (rest.drop lexeme.more).length < (c :: rest).length := by
        rw [List.length_drop, List.length_cons]
        omega
      have othersInType : ∀ token ∈ others, token.kind.standsInType = true :=
        fun token listed => inType token (List.mem_append_right _ listed)
      have spaced := ih _ shorter scannedRest othersInType rfl
      obtain ⟨more, token⟩ := lexeme
      rw [whole]
      cases token with
      | some token =>
        obtain ⟨denotes, apart⟩ := taken token rfl (inType _ List.mem_cons_self)
        exact .cons .nil denotes apart spaced
      | none =>
        rcases made with gap | ⟨⟨comment, isComment, inLine⟩, ends⟩
        · exact spaced.behindGap gap
        -- a line comment is no gap without the line feed behind it, which the next step takes
        · dsimp only at isComment ends spaced scannedRest shorter ⊢
          rw [isComment]
          generalize rest.drop more = back at *
          cases back with
          | nil =>
            rw [scan] at scannedRest
            cases scannedRest
            show Spaced [] ('/' :: '/' :: comment ++ [])
            rw [List.append_nil]
            exact .nil (.comment .nil inLine)
          | cons b back =>
            cases ends b rfl
            rw [scan_lineFeed] at scannedRest
            have behind := ih _ (Nat.lt_of_succ_lt shorter) scannedRest othersInType rfl
            exact behind.behindComment inLine

end OpenResponse
