import OpenResponse.Fault
import OpenResponse.Terminal.Pictograph

/-!
# Marked texts

A text for the terminal may hold tags between brackets that say how its parts are to look.  Nothing
is coloured here, so that showing a marked text means leaving its tags out, but a tag that closes
has to close one that is open.  A backslash before a tag makes it plain text; backslashes before a
tag are themselves written twice.

A marked text is cut into scraps first.  What a bracket begins is a tag if it looks like one up to
the next bracket, and is plain text otherwise, so every text can be cut; only closing tags can be
wrong.

## Main definitions

* `Scrap`: the plain parts and the tags of a marked text.
* `escaped`: a text with its tags made plain.
* `shown`: what is to be seen of a marked text.

## Design notes

Escaping a text and then showing it is meant to give the text back.  For that the backslashes in
front of a tag are doubled and one is added, and a backslash at the end is doubled, as a tag may be
put behind the text.

Showing replaces short names in the plain parts, so a text that has colons may be shown otherwise.
-/

namespace OpenResponse

/-- A part of a marked text. -/
inductive Scrap
  /-- Characters outside of tags. -/
  | plain (text : List Char)
  /-- A tag, and the number of backslashes before it. -/
  | tag (slashes : Nat) (content : List Char)
deriving DecidableEq, Repr

/-- Whether a character may begin a tag. -/
def beginsTag (c : Char) : Bool :=
  ('a' ≤ c && c ≤ 'z') || c == '#' || c == '/' || c == '@'

/-- The content of a tag whose opening bracket has just been read. -/
def tagContent? : List Char → Option (List Char)
  | [] => none
  | c :: rest =>
    let content := rest.takeWhile (fun c => c != ']' && c != '[')
    if beginsTag c && (rest.drop content.length).head? == some ']' then some (c :: content)
    else none

namespace Scrap

/-- The plain part that characters read so far make, last first, if there are any. -/
def ofRead (read : List Char) : List Scrap :=
  if read.isEmpty then [] else [.plain read.reverse]

/--
The scraps of a text.  The first `skip` characters belong to a tag already, `slashes` backslashes
have just been read, and `read` holds what was read before them since the last tag, last first.
-/
def readFrom (skip slashes : Nat) (read : List Char) : List Char → List Scrap
  | [] => ofRead (List.replicate slashes '\\' ++ read)
  | c :: rest =>
    match skip with
    | skip + 1 => readFrom skip slashes read rest
    | 0 =>
      if c = '\\' then readFrom 0 (slashes + 1) read rest
      else
        match if c = '[' then tagContent? rest else none with
        | some content =>
          ofRead read ++ .tag slashes content :: readFrom (content.length + 1) 0 [] rest
        | none => readFrom 0 0 (c :: (List.replicate slashes '\\' ++ read)) rest

/-- The scraps of a text. -/
def ofChars (text : List Char) : List Scrap := readFrom 0 0 [] text

/-- The characters of a tag. -/
def bracketed (content : List Char) : List Char := '[' :: (content ++ [']'])

/-- The characters of a scrap. -/
def chars : Scrap → List Char
  | plain text => text
  | tag slashes content => List.replicate slashes '\\' ++ bracketed content

/-- The characters that show a scrap as it is written. -/
def escaped : Scrap → List Char
  | plain text => text
  | tag slashes content => List.replicate (2 * slashes + 1) '\\' ++ bracketed content

end Scrap

/-- A text with its tags made plain.  A single backslash at the end is written twice, so that it
cannot make a following tag plain. -/
def escaped (text : String) : String :=
  let chars := (Scrap.ofChars text.toList).flatMap Scrap.escaped
  let guarded := match chars.reverse with
    | ['\\'] => chars ++ ['\\']
    | '\\' :: c :: _ => if c = '\\' then chars else chars ++ ['\\']
    | _ => chars
  String.ofList guarded

/-- A text without the backslashes before opening brackets. -/
def withoutBracketSlashes : List Char → List Char
  | [] => []
  | '\\' :: '[' :: rest => '[' :: withoutBracketSlashes rest
  | c :: rest => c :: withoutBracketSlashes rest

/-- What is to be seen of plain characters. -/
def shownPlain (text : List Char) : List Char := withPictographs (withoutBracketSlashes text)

/-- Tags are the same if they differ in case and in blanks around them only. -/
def tagName (name : List Char) : String := lowercase (String.ofList (trim name))

/-- The tags that are open after another one, the last one first. -/
def openTags (opened : List String) (content : List Char) : Except Fault (List String) :=
  let name := content.takeWhile (· != '=')
  match name with
  | '/' :: closed =>
    let closed := tagName closed
    let fault := .error (.nowhere (.unmatchedTag (String.ofList content)))
    if closed.isEmpty then
      match opened with
      | [] => fault
      | _ :: rest => .ok rest
    else if opened.contains closed then .ok (opened.erase closed)
    else fault
  | _ => .ok (tagName name :: opened)

/-- What is to be seen of scraps, given the tags that are open. -/
def shownScraps (opened : List String) : List Scrap → Except Fault (List Char)
  | [] => .ok []
  | .plain text :: rest => do return shownPlain text ++ (← shownScraps opened rest)
  | .tag slashes content :: rest => do
    let kept := List.replicate (slashes / 2) '\\'
    if slashes % 2 = 1 then
      return kept ++ shownPlain (Scrap.bracketed content) ++ (← shownScraps opened rest)
    else return kept ++ (← shownScraps (← openTags opened content) rest)

/-- What is to be seen of a marked text. -/
def shown (text : String) : Except Fault String := do
  return String.ofList (← shownScraps [] (Scrap.ofChars text.toList))

/-! ### Laws

Names and numbers, which have neither brackets nor colons, are seen as they are. -/

/-- A text without brackets has no tags. -/
theorem readFrom_of_not_mem {text : List Char} (h : '[' ∉ text) (slashes : Nat)
    (read : List Char) :
    Scrap.readFrom 0 slashes read text =
      Scrap.ofRead (text.reverse ++ (List.replicate slashes '\\' ++ read)) := by
  induction text generalizing slashes read with
  | nil => simp [Scrap.readFrom]
  | cons c rest ih =>
    simp only [List.mem_cons, not_or] at h
    unfold Scrap.readFrom
    by_cases hc : c = '\\'
    · simp only [hc, if_true, ih h.2]
      simp [List.replicate_succ]
    · simp [hc, Ne.symm h.1, ih h.2]

/-- A text without brackets and colons is seen as it is. -/
theorem shown_of_not_mem {text : String} (bracket : '[' ∉ text.toList) (colon : ':' ∉ text.toList) :
    shown text = .ok text := by
  have plain : withoutBracketSlashes text.toList = text.toList := by
    generalize text.toList = chars at bracket
    clear colon
    fun_induction withoutBracketSlashes chars <;> simp_all
  unfold shown Scrap.ofChars
  rw [readFrom_of_not_mem bracket]
  unfold Scrap.ofRead
  split
  · rename_i empty
    have : text.toList = [] := by simpa using empty
    rw [show text = "" from String.toList_eq_nil_iff.mp this]
    rfl
  · simp [shownScraps, shownPlain, plain, withPictographs_of_not_mem colon, pure, Except.pure,
      bind, Except.bind]

end OpenResponse
