import OpenResponse.Proofs.Token.Layout
import OpenResponse.Proofs.Token.Origin

/-!
# Raw literals

A raw literal is the letter `r`, hash marks, and a value between quotes, with as many hash marks
behind the closing quote.  Nothing in it is escaped, so it can stand for any value in which no quote
is followed by these hash marks, and for no other.

Two characters behind the letter decide whether a raw literal or a name begins with it, whatever the
number of hash marks is.

That nothing else is asked of the value makes the statement an equivalence.  If the value holds a
closing mark the literal still may be read, but it ends earlier and the token has another value;
what stands behind that end is then read as something else, or cannot be read at all.

## Main definitions

* `rawTail`, `rawLiteral` — the text of a raw literal, behind its letter and as a whole

## Main statements

* `readLexeme_raw` — a raw literal is told from a name however many hash marks it has
* `tokenize_rawLiteral` — **a raw literal in front of a text**

## Hypotheses

The text behind the literal has to be one that can be cut into tokens at all, wherever it begins, so
that a failure is one of the literal.  No condition says how it begins: behind the closing mark no
character can belong to the literal any more.
-/

namespace OpenResponse

/-- What stands behind the letter of a raw literal.  There are as many hash marks in front of the
content as behind it. -/
def rawTail (hashes : Nat) (value : List Char) : List Char :=
  List.replicate hashes '#' ++ '"' :: (value ++ rawClosing hashes)

/-- A raw literal with a number of hash marks.  Its content stands between quotes as it is, without
escapes. -/
def rawLiteral (hashes : Nat) (value : String) : String :=
  String.ofList ('r' :: rawTail hashes value.toList)

private theorem rawTail_append (hashes : Nat) (value back : List Char) :
    rawTail hashes value ++ back =
      List.replicate hashes '#' ++ '"' :: (value ++ (rawClosing hashes ++ back)) := by
  simp [rawTail]

private theorem toList_rawLiteral (hashes : Nat) (value : String) :
    (rawLiteral hashes value).toList = 'r' :: rawTail hashes value.toList :=
  String.toList_ofList

section Reading

variable {here : Location} {hashes : Nat} {value back : List Char}

/-- The hash marks of a raw literal are counted up to its quote. -/
theorem readRawString_replicate (start : Location) (hashes : Nat) (text : List Char) :
    readRawString start (List.replicate hashes '#' ++ '"' :: text) =
      match rawValue? hashes text with
      | some value => .ok (value, (rawTail hashes value).length)
      | none => .error (.found start .openRawString) := by
  have run : (List.replicate hashes '#' ++ '"' :: text).takeWhile (· == '#') =
      List.replicate hashes '#' := by
    refine takeWhile_append_of_forall (fun c listed => ?_) fun b first => ?_
    · exact beq_iff_eq.mpr (List.eq_of_mem_replicate listed)
    · cases first
      rfl
  have length (value : List Char) :
      hashes + 1 + value.length + 1 + hashes = (rawTail hashes value).length := by
    simp only [rawTail, rawClosing, List.length_append, List.length_cons, List.length_replicate]
    omega
  rw [readRawString, run, List.length_replicate, List.drop_left' List.length_replicate]
  cases found : rawValue? hashes text with
  | none => simp only [found]
  | some value => simp only [found, length]

/-- Two characters behind the letter tell a raw literal from a name. -/
theorem beginsRawString_replicate (hashes : Nat) (text : List Char) :
    beginsRawString (List.replicate hashes '#' ++ '"' :: text) = true :=
  match hashes with
  | 0 => rfl
  | 1 => rfl
  | _ + 2 => rfl

/-- **A raw literal is told from a name** however many hash marks it has.  The mark `r` begins names
as well, and raw names have a hash mark behind it; it is the quotation mark behind the hash marks
that decides. -/
theorem readLexeme_raw (here : Location) (hashes : Nat) (text : List Char) :
    readLexeme here 'r' (List.replicate hashes '#' ++ '"' :: text) =
      match rawValue? hashes text with
      | some value => .ok ⟨(rawTail hashes value).length, some (.string, String.ofList value)⟩
      | none => .error (.found here .openRawString) := by
  have begins := beginsRawString_replicate hashes text
  have read := readRawString_replicate here hashes text
  cases found : rawValue? hashes text with
  | some value =>
    rw [found] at read
    exact (ScanStep.rawString begins read).readLexeme_eq
  | none =>
    rw [found] at read
    exact (ScanStep.badRawString begins read).readLexeme_eq

/-- Scanning goes on behind a raw literal. -/
theorem scan_rawLiteral (absent : ¬ rawClosing hashes <:+: value) :
    scan here ('r' :: rawTail hashes value ++ back) =
      (⟨.string, String.ofList value, here⟩ :: ·) <$>
        scan (here.behind ('r' :: rawTail hashes value)) back := by
  have found : rawValue? hashes (value ++ (rawClosing hashes ++ back)) = some value :=
    rawValue?_eq_some_iff.mpr ⟨absent, back, rfl⟩
  let symbol : Symbol := ⟨.string, String.ofList value⟩
  have read : readLexeme here 'r' (rawTail hashes value ++ back) =
      .ok ⟨(rawTail hashes value).length, some (symbol.kind, symbol.value)⟩ := by
    rw [rawTail_append, readLexeme_raw, found]
  exact scan_token read

/-- The value of a first token that is a raw literal holds no closing mark. -/
theorem not_rawClosing_infix_of_scan {token : Token} {tokens : List Token}
    (scanned : scan here ('r' :: rawTail hashes value ++ back) = .ok (token :: tokens)) :
    ¬ rawClosing hashes <:+: token.value.toList := by
  rw [List.cons_append, rawTail_append] at scanned
  obtain ⟨lexeme, others, read, -, first⟩ := scan_cons_eq_ok.mp scanned
  rw [readLexeme_raw] at read
  cases found : rawValue? hashes (value ++ (rawClosing hashes ++ back)) with
  | none =>
    rw [found] at read
    cases read
  | some readValue =>
    rw [found] at read
    cases read
    cases first
    rw [String.toList_ofList]
    exact (rawValue?_eq_some_iff.mp found).1

end Reading

/-! ### Texts

The text behind the literal begins at a place that depends on the literal, while it is given as a
text that can be read from some place.  Its tokens there have other locations and are the same
symbols. -/

/-- Tokens that differ in their locations alone are the same symbols. -/
theorem TokenStream.Related.map_symbol {R : Location → Location → Prop}
    {stream other : TokenStream} (same : stream.Related R other) :
    stream.tokens.map Token.symbol = other.tokens.map Token.symbol := by
  rw [← List.forall₂_eq_eq_eq, List.forall₂_map_left_iff, List.forall₂_map_right_iff]
  refine same.tokens.imp fun token other related => ?_
  rw [Token.symbol, Token.symbol, related.kind, related.value]

/-- Whether a text can be cut into tokens, and into which, does not depend on where it begins. -/
theorem exists_tokenize_of_tokenize {here : Location} {text : String} {stream : TokenStream}
    (read : tokenize here text = .ok stream) (there : Location) :
    ∃ moved, tokenize there text = .ok moved ∧
      moved.tokens.map Token.symbol = stream.tokens.map Token.symbol := by
  have alike : Alike (fun _ _ => True) (TokenStream.Related fun _ _ => True)
      (tokenize here text) (tokenize there text) := Alike.tokenize fun _ _ => trivial
  obtain ⟨moved, readMoved, same⟩ := Alike.eq_ok (read ▸ alike)
  exact ⟨moved, readMoved, same.map_symbol.symm⟩

/-- **A raw literal in front of a text.**  A text that can be cut into tokens on its own is cut into
the same tokens behind a raw literal, which begin where the literal ends.  The token in front of
them has the value that is written if, and only if, no quote in the value is followed by as many
hash marks as the literal has. -/
theorem tokenize_rawLiteral (origin : Location) {there : Location} {following : String}
    {alone : TokenStream} (read : tokenize there following = .ok alone) (hashes : Nat)
    (value : String) :
    ∃ others, tokenize (origin.behind (rawLiteral hashes value).toList) following = .ok others ∧
      others.tokens.map Token.symbol = alone.tokens.map Token.symbol ∧
      (tokenize origin (rawLiteral hashes value ++ following) =
          .ok (others.preceded [⟨.string, value, origin⟩]) ↔
        ¬ rawClosing hashes <:+: value.toList) := by
  obtain ⟨others, readOthers, same⟩ :=
    exists_tokenize_of_tokenize read (origin.behind (rawLiteral hashes value).toList)
  refine ⟨others, readOthers, same, ?_⟩
  obtain ⟨scanned, ended⟩ := tokenize_eq_ok.mp readOthers
  rw [toList_rawLiteral] at scanned ended
  rw [tokenize_eq_ok, String.toList_append, toList_rawLiteral]
  constructor
  · rintro ⟨scannedWhole, -⟩
    exact not_rawClosing_infix_of_scan scannedWhole
  · intro absent
    rw [scan_rawLiteral absent, scanned, String.ofList_toList, Location.behind_append]
    exact ⟨rfl, ended⟩

/-- A value over two lines in which a quote is followed by one hash mark and another one ends it, in
a literal with two hash marks, and a raw name behind it. -/
theorem tokenize_rawLiteral_quotes :
    tokenize .start "r##\"a\"#\nb\"\"##, r#type" =
      .ok ⟨[⟨.string, "a\"#\nb\"", .start⟩, ⟨.comma, ",", ⟨2, 6⟩⟩, ⟨.identifier, "type", ⟨2, 8⟩⟩],
        ⟨2, 14⟩⟩ := by
  have absent : ¬ rawClosing 2 <:+: "a\"#\nb\"".toList := by decide
  have read : tokenize ⟨2, 6⟩ ", r#type" =
      .ok ⟨[⟨.comma, ",", ⟨2, 6⟩⟩, ⟨.identifier, "type", ⟨2, 8⟩⟩], ⟨2, 14⟩⟩ := by decide +kernel
  obtain ⟨others, readOthers, -, verbatim⟩ := tokenize_rawLiteral .start read 2 "a\"#\nb\""
  have ends : Location.start.behind (rawLiteral 2 "a\"#\nb\"").toList = ⟨2, 6⟩ := by decide
  rw [ends, read] at readOthers
  cases readOthers
  exact verbatim.mpr absent

end OpenResponse
