import Mathlib.Data.List.DropRight
import OpenResponse.Proofs.Text.Occurrences
import OpenResponse.Route.Path

/-!
# Parameters of served paths

The path that a handler file serves is told segment by segment.  The name of a parameter goes from
an underscore to the end of its segment, so the first underscore of a segment decides: what stands
in front of it is kept, and what stands behind it is the name.  A segment that begins with an
underscore is a parameter as a whole; one with its first underscore inside is served with a
parameter in it.

No segment disturbs the others, for what ends a name, a slash or the suffix of the file, ends its
segment too.

## Main definitions

* `IsRouteSegment` — names on the way to a handler file
* `handlerFile` — the file at the end of a way
* `servedSegment` — what is served for a segment
* `parameterSegment` — a segment that is a parameter as a whole

## Main statements

* `bracedFrom_segment` — the law of one segment
* `bracedFrom_segments` — the law of all segments
* `servedPath_segments` — **paths are served segment by segment**

## Design notes

The reader of parameters takes the shortest name: it stops at the first slash or the first suffix.
A segment holds neither, so the name that begins in a segment goes to the end of that segment, and
the only place where the text behind it matters is a suffix that would begin in the name and end
behind it.  `IsRouteSegment` and `EndsName` are chosen so that this cannot happen, and
`parameter?_append` is the fact on which the law of a segment rests.

A parameter takes along what ends its name and leaves a slash, at the end of the path as well.  That
slash is taken away with those at the end, and the suffix of a last segment without a parameter is
taken away by removing suffixes; the two ways to end a path come together in `servedEnd` and
`removeAll_served`.

## Hypotheses

A segment is a name that a path leads through: not empty, not a single dot, without slashes.  Line
breaks are excluded because no name of a parameter goes over one, and the suffix because it would
end the name inside of the segment.  The root must be nowhere else in the text of the file, since
every occurrence of it is removed.
-/

namespace OpenResponse

/-! ### Segments

What is served for a segment is defined on the segment alone, from its first underscore on.  That it
is the parameter that the segment is, or the segment itself, is a condition on where the first
underscore is. -/

/-- A name on the way to a handler file.  It holds nothing that ends a name on the way. -/
structure IsRouteSegment (segment : List Char) : Prop where
  nonempty : segment ≠ []
  notDot : segment ≠ ['.']
  noSlash : '/' ∉ segment
  noLineFeed : '\n' ∉ segment
  noSuffix : ¬ handlerSuffix <:+: segment

/-- The text of the file to which a way below the source root leads. -/
def handlerFile (sourceRoot : String) (segments : List (List Char)) : List Char :=
  sourceRoot.toList ++ '/' :: (joinWith '/' segments ++ handlerSuffix)

/-- What is served for a segment.  What stands behind its first underscore is the name of a
parameter. -/
def servedSegment : List Char → List Char
  | [] => []
  | c :: rest => if c = '_' then '{' :: (rest ++ ['}']) else c :: servedSegment rest

/-- A segment that is a parameter as a whole between braces, and any other as it is. -/
def parameterSegment : List Char → List Char
  | '_' :: name => '{' :: (name ++ ['}'])
  | segment => segment

section Segments

variable {segment : List Char}

private theorem servedSegment_of_not_mem (plain : '_' ∉ segment) :
    servedSegment segment = segment := by
  induction segment with
  | nil => rfl
  | cons c segment ih =>
    obtain ⟨notFirst, notLater⟩ := List.ne_and_not_mem_of_not_mem_cons plain
    rw [servedSegment, if_neg (Ne.symm notFirst), ih notLater]

private theorem servedSegment_append {front : List Char} (plain : '_' ∉ front) (name : List Char) :
    servedSegment (front ++ '_' :: name) = front ++ '{' :: (name ++ ['}']) := by
  induction front with
  | nil => rfl
  | cons c front ih =>
    obtain ⟨notFirst, notLater⟩ := List.ne_and_not_mem_of_not_mem_cons plain
    rw [List.cons_append, servedSegment, if_neg (Ne.symm notFirst), ih notLater, List.cons_append]

/-- A segment is served as a parameter or as it is, unless its first underscore is inside: then the
text in front of the underscore stays in front of the braces. -/
theorem servedSegment_eq_iff :
    servedSegment segment = parameterSegment segment ↔
      ('_' ∈ segment → segment.head? = some '_') := by
  by_cases listed : '_' ∈ segment
  · obtain ⟨front, name, rfl, first⟩ := List.eq_append_cons_of_mem listed
    rw [servedSegment_append first]
    cases front with
    | nil => simp [parameterSegment]
    | cons c front =>
      have notFirst : c ≠ '_' := fun same => first (same ▸ List.mem_cons_self)
      have kept : parameterSegment (c :: (front ++ '_' :: name)) = c :: (front ++ '_' :: name) :=
        parameterSegment.eq_2 _ fun rest same => notFirst (List.cons.inj same).1
      simp [kept, notFirst]
  · have kept : parameterSegment segment = segment :=
      parameterSegment.eq_2 _ fun rest same => listed (same ▸ List.mem_cons_self)
    rw [servedSegment_of_not_mem listed, kept]
    exact ⟨fun _ also => absurd also listed, fun _ => rfl⟩

end Segments

namespace IsRouteSegment

variable {segment : List Char} (plain : IsRouteSegment segment)

include plain

/-- What a segment is served as can be told from other segments. -/
theorem slash_not_mem_served : '/' ∉ servedSegment segment := by
  by_cases listed : '_' ∈ segment
  · obtain ⟨front, name, rfl, first⟩ := List.eq_append_cons_of_mem listed
    have noSlash := plain.noSlash
    rw [servedSegment_append first]
    simp_all
  · rw [servedSegment_of_not_mem listed]
    exact plain.noSlash

private theorem slash_not_mem_parameter : '/' ∉ parameterSegment segment := by
  have noSlash := plain.noSlash
  unfold parameterSegment
  split
  · simp_all
  · exact noSlash

private theorem served_ne_nil : servedSegment segment ≠ [] := by
  by_cases listed : '_' ∈ segment
  · obtain ⟨front, name, rfl, first⟩ := List.eq_append_cons_of_mem listed
    rw [servedSegment_append first]
    exact List.append_ne_nil_of_right_ne_nil front (List.cons_ne_nil _ _)
  · rw [servedSegment_of_not_mem listed]
    exact plain.nonempty

/-- No suffix comes into a segment with the braces. -/
theorem suffix_not_infix_served : ¬ handlerSuffix <:+: servedSegment segment := by
  by_cases listed : '_' ∈ segment
  · obtain ⟨front, name, rfl, first⟩ := List.eq_append_cons_of_mem listed
    have inFront : ¬ handlerSuffix <:+: front :=
      fun occurs => plain.noSuffix (occurs.trans (List.infix_append' [] front _))
    have inName : ¬ handlerSuffix <:+: name :=
      fun occurs => plain.noSuffix (occurs.trans
        ((List.suffix_cons '_' name).isInfix.trans (List.suffix_append front _).isInfix))
    rw [servedSegment_append first]
    have closed : ¬ handlerSuffix <:+: name ++ ['}'] :=
      not_infix_append_cons (by decide) inName (by decide)
    exact not_infix_append_cons (by decide) inFront closed
  · rw [servedSegment_of_not_mem listed]
    exact plain.noSuffix

/-- A segment in its place is a name to go to. -/
theorem isStep : FilePath.isStep segment = true := by
  simp [FilePath.isStep, plain.nonempty, plain.notDot]

end IsRouteSegment

/-! ### Parameters

The reader goes through the text once and passes over what a parameter has taken.  Passing over can
be done at once, by dropping, so that behind a segment reading starts afresh. -/

/-- What belongs to a parameter already is passed over.  With this, reading behind a parameter is
reading what is left of the text. -/
theorem bracedFrom_eq_drop (skip : Nat) (text : List Char) :
    bracedFrom skip text = bracedFrom 0 (text.drop skip) := by
  induction text generalizing skip with
  | nil => cases skip <;> rfl
  | cons c text ih =>
    cases skip with
    | zero => rfl
    | succ skip => exact ih skip

/-- What stands in front of an underscore is kept. -/
theorem bracedFrom_append {front : List Char} (plain : '_' ∉ front) (text : List Char) :
    bracedFrom 0 (front ++ text) = front ++ bracedFrom 0 text := by
  induction front with
  | nil => rfl
  | cons c front ih =>
    obtain ⟨notFirst, notLater⟩ := List.ne_and_not_mem_of_not_mem_cons plain
    rw [List.cons_append, bracedFrom, if_neg (Ne.symm notFirst), ih notLater, List.cons_append]

/-- What ends the name of a parameter: the slash behind its segment, or the suffix of the file.  The
second text is what is left behind. -/
inductive EndsName : List Char → List Char → Prop
  | slash (rest : List Char) : EndsName ('/' :: rest) rest
  | suffix : EndsName handlerSuffix []

namespace EndsName

variable {back rest : List Char} (ends : EndsName back rest)

include ends

/-- A name goes on to the end of its segment, and what ends it there is taken along.  Nothing in the
segment ends the name earlier. -/
theorem parameter?_append {name : List Char} (noSlash : '/' ∉ name) (noLineFeed : '\n' ∉ name)
    (noSuffix : ¬ handlerSuffix <:+: name) :
    ∃ length, parameter? (name ++ back) = some (name, length) ∧
      (name ++ back).drop length = rest := by
  induction name with
  | nil =>
    cases ends with
    | slash rest => exact ⟨1, rfl, rfl⟩
    | suffix => exact ⟨3, rfl, rfl⟩
  | cons c name ih =>
    obtain ⟨notSlash, noSlash⟩ := List.ne_and_not_mem_of_not_mem_cons noSlash
    obtain ⟨notLineFeed, noLineFeed⟩ := List.ne_and_not_mem_of_not_mem_cons noLineFeed
    obtain ⟨length, found, left⟩ := ih noSlash noLineFeed
      fun occurs => noSuffix (occurs.trans (List.suffix_cons c name).isInfix)
    -- a suffix that begins in the name does not go on behind it
    have noBeginning : ∀ more, c = '.' → name ++ back ≠ 'r' :: 's' :: more := by
      rintro more rfl same
      match name with
      | [] => cases ends <;> cases same
      | [_] => cases ends <;> cases same
      | _ :: _ :: name =>
        cases same
        exact noSuffix (List.prefix_append handlerSuffix name).isInfix
    refine ⟨length + 1, ?_, left⟩
    rw [List.cons_append, parameter?.eq_4 c _ (Ne.symm notSlash) noBeginning,
      if_neg (Ne.symm notLineFeed), found]
    rfl

/-- **The law of one segment.**  A segment is served in its place.  A parameter takes what ends its
name along, and leaves a slash. -/
theorem bracedFrom_segment {segment : List Char} (plain : IsRouteSegment segment) :
    bracedFrom 0 (segment ++ back) =
      servedSegment segment ++
        if '_' ∈ segment then '/' :: bracedFrom 0 rest else bracedFrom 0 back := by
  by_cases listed : '_' ∈ segment
  · obtain ⟨front, name, rfl, first⟩ := List.eq_append_cons_of_mem listed
    have inName : name <:+: front ++ '_' :: name :=
      (List.suffix_cons '_' name).isInfix.trans (List.suffix_append front _).isInfix
    obtain ⟨length, found, left⟩ := ends.parameter?_append
      (fun slash => plain.noSlash (inName.subset slash))
      (fun lineFeed => plain.noLineFeed (inName.subset lineFeed))
      (fun suffix => plain.noSuffix (suffix.trans inName))
    rw [if_pos listed, servedSegment_append first, List.append_assoc, bracedFrom_append first,
      List.cons_append, bracedFrom, if_pos rfl, found]
    dsimp only
    rw [bracedFrom_eq_drop, left]
    simp
  · rw [if_neg listed, servedSegment_of_not_mem listed, bracedFrom_append listed]

end EndsName

/-- What the file at the end of a way leaves of its suffix: nothing but a slash behind a parameter.
-/
def servedEnd (segment : List Char) : List Char :=
  if '_' ∈ segment then ['/'] else handlerSuffix

/-- **The law of all segments.** Every segment is served in its place.  By induction on the segments
in front of the last one; a slash ends a name, so each segment is rewritten as if it were alone. -/
theorem bracedFrom_segments {segments : List (List Char)} {last : List Char}
    (plain : ∀ segment ∈ segments ++ [last], IsRouteSegment segment) :
    bracedFrom 0 (joinWith '/' (segments ++ [last]) ++ handlerSuffix) =
      joinWith '/' ((segments ++ [last]).map servedSegment) ++ servedEnd last := by
  induction segments with
  | nil =>
    have one := EndsName.suffix.bracedFrom_segment (List.forall_mem_singleton.mp plain)
    have suffixKept : bracedFrom 0 handlerSuffix = handlerSuffix := by decide
    rw [suffixKept] at one
    exact one
  | cons segment segments ih =>
    obtain ⟨here, others⟩ := List.forall_mem_cons.mp plain
    have nonempty : segments ++ [last] ≠ [] :=
      List.append_ne_nil_of_right_ne_nil segments (List.cons_ne_nil last [])
    have slashKept (text : List Char) : bracedFrom 0 ('/' :: text) = '/' :: bracedFrom 0 text := rfl
    rw [List.cons_append, joinWith_cons segment nonempty, List.append_assoc, List.cons_append,
      (EndsName.slash _).bracedFrom_segment here, slashKept, ite_self, ih others, List.map_cons,
      joinWith_cons _ (by simp), List.append_assoc, List.cons_append]

/-! ### The served path

The text of the file is spelled as a path, the root is taken away in front of it, and what is left
are the segments between slashes.  The law of all segments then says what is served, up to what is
behind the last one. -/

/-- A path of names between slashes is spelled as it is. -/
theorem FilePath.chars_ofChars {names : List (List Char)} (nonempty : names ≠ [])
    (steps : ∀ name ∈ names, '/' ∉ name ∧ FilePath.isStep name = true) :
    (FilePath.ofChars (joinWith '/' names)).chars = joinWith '/' names := by
  have kept : (cutAt '/' (joinWith '/' names)).filter FilePath.isStep = names := by
    rw [cutAt_joinWith nonempty fun name listed => (steps name listed).1, List.filter_eq_self]
    exact fun name listed => (steps name listed).2
  have relative : FilePath.topOf (joinWith '/' names) = [] := by
    obtain ⟨first, more, rfl⟩ := List.exists_cons_of_ne_nil nonempty
    obtain ⟨noSlash, isStep⟩ := steps first List.mem_cons_self
    cases first with
    | nil => cases isStep
    | cons c first =>
      have notSlash : (c == '/') = false :=
        beq_false_of_ne fun same => noSlash (same ▸ List.mem_cons_self)
      cases more <;> simp [FilePath.topOf, joinWith, notSlash]
  rw [FilePath.ofChars, kept, relative, FilePath.chars, if_neg fun none => nonempty none.2]
  rfl

/-- Slashes at the end of a text are taken away, and nothing else. -/
theorem withoutTrailingSlashes_append (front : List Char) {c : Char} (notSlash : c ≠ '/')
    {slashes : List Char} (onlySlashes : ∀ d ∈ slashes, d = '/') :
    withoutTrailingSlashes (front ++ c :: slashes) = front ++ [c] := by
  have taken : slashes.reverse.dropWhile (· == '/') = [] :=
    List.dropWhile_eq_nil_iff.mpr fun d listed =>
      beq_iff_eq.mpr (onlySlashes d (List.mem_reverse.mp listed))
  rw [withoutTrailingSlashes, List.reverse_append, List.reverse_cons, List.append_assoc,
    List.dropWhile_append, taken]
  simp [notSlash]

section Served

variable {segments : List (List Char)} {last : List Char}
  (plain : ∀ segment ∈ segments ++ [last], IsRouteSegment segment)

include plain

/-- The file at the end of a way is spelled as it is. -/
theorem chars_handlerFile :
    (FilePath.ofChars (handlerFile defaultRoutesDirectory (segments ++ [last]))).chars =
      handlerFile defaultRoutesDirectory (segments ++ [last]) := by
  have names : handlerFile defaultRoutesDirectory (segments ++ [last]) =
      joinWith '/' ("src".toList :: "routes".toList :: (segments ++ [last ++ handlerSuffix])) := by
    have nonempty : segments ++ [last ++ handlerSuffix] ≠ [] :=
      List.append_ne_nil_of_right_ne_nil segments (List.cons_ne_nil _ [])
    rw [joinWith_cons _ (List.cons_ne_nil _ _), joinWith_cons _ nonempty, joinWith_concat_append]
    rfl
  obtain ⟨others, isLast⟩ := List.forall_mem_append.mp plain
  have lastPlain := List.forall_mem_singleton.mp isLast
  have fileName : '/' ∉ last ++ handlerSuffix ∧ FilePath.isStep (last ++ handlerSuffix) = true := by
    refine ⟨fun slash => ?_, ?_⟩
    · rcases List.mem_append.mp slash with inLast | inSuffix
      · exact lastPlain.noSlash inLast
      · exact absurd inSuffix (by decide)
    · cases last <;> simp [FilePath.isStep, handlerSuffix]
  rw [names]
  refine FilePath.chars_ofChars (List.cons_ne_nil _ _) ?_
  refine List.forall_mem_cons.mpr ⟨by decide, List.forall_mem_cons.mpr ⟨by decide, ?_⟩⟩
  refine List.forall_mem_append.mpr
    ⟨fun segment listed => ?_, List.forall_mem_singleton.mpr fileName⟩
  exact ⟨(others segment listed).noSlash, (others segment listed).isStep⟩

/-- What is served ends in a character of its last segment. -/
theorem exists_getLast_served :
    ∃ front c, '/' :: joinWith '/' ((segments ++ [last]).map servedSegment) = front ++ [c] ∧
      c ≠ '/' := by
  have lastPlain := plain last (List.mem_append_right _ (List.mem_singleton_self last))
  have whole := List.dropLast_append_getLast lastPlain.served_ne_nil
  refine ⟨'/' :: joinWith '/' (segments.map servedSegment ++ [(servedSegment last).dropLast]),
    (servedSegment last).getLast lastPlain.served_ne_nil, ?_, fun slash => ?_⟩
  · rw [List.map_append, List.map_singleton, List.cons_append, ← joinWith_concat_append, whole]
  · exact lastPlain.slash_not_mem_served (slash ▸ List.getLast_mem lastPlain.served_ne_nil)

/-- The suffix is not in what is served, and is taken away behind it.  Behind a parameter there is
no suffix any more, but a slash. -/
theorem removeAll_served :
    removeAll handlerSuffix
        ('/' :: joinWith '/' ((segments ++ [last]).map servedSegment) ++ servedEnd last) =
      '/' :: joinWith '/' ((segments ++ [last]).map servedSegment) ++
        if '_' ∈ last then ['/'] else [] := by
  have noSlash : '/' ∉ handlerSuffix := by decide
  have inParts : ∀ part ∈ (segments ++ [last]).map servedSegment, ¬ handlerSuffix <:+: part :=
    List.forall_mem_map.mpr fun segment listed => (plain segment listed).suffix_not_infix_served
  have absent :
      ¬ handlerSuffix <:+: [] ++ '/' :: joinWith '/' ((segments ++ [last]).map servedSegment) :=
    not_infix_append_cons noSlash (by decide) (not_infix_joinWith noSlash (by decide) inParts)
  rw [List.nil_append] at absent
  generalize '/' :: joinWith '/' ((segments ++ [last]).map servedSegment) = body at absent ⊢
  unfold servedEnd
  split
  next =>
    exact replaceAll_of_not_infix (not_infix_append_cons noSlash absent (by decide))
  next =>
    -- no two suffixes overlap, so that none begins in front of the one at the end
    have kept : removeAll handlerSuffix (body ++ handlerSuffix) =
        body ++ removeAll handlerSuffix handlerSuffix := by
      refine replaceAll_append_of_not_begins fun rest isSuffix nonempty begins => ?_
      match rest with
      | [] => exact nonempty rfl
      | [_] => exact absurd begins (by simp [handlerSuffix])
      | [_, _] => exact absurd begins (by simp [handlerSuffix])
      | a :: b :: c :: rest =>
        have inside : handlerSuffix <+: a :: b :: c :: rest :=
          List.prefix_of_prefix_length_le begins (List.prefix_append _ _)
            (Nat.le_add_left 3 rest.length)
        exact absent (inside.isInfix.trans isSuffix.isInfix)
    rw [kept]
    rfl

end Served

/-- **Paths are served segment by segment.**  Let a way lead from the source root to a file, and let
the root be nowhere else in the text of the file.  Then the file serves the path of its segments,
where what stands behind the first underscore of a segment is a parameter.  So a segment that begins
with an underscore is a parameter as a whole, and the other segments are served as they are exactly
if none of them has an underscore inside. -/
theorem servedPath_segments {segments : List (List Char)} (nonempty : segments ≠ [])
    (plain : ∀ segment ∈ segments, IsRouteSegment segment)
    (once :
      ¬ defaultRoutesDirectory.toList <:+: (handlerFile defaultRoutesDirectory segments).tail) :
    servedPath defaultRoutesDirectory
          (String.ofList (handlerFile defaultRoutesDirectory segments)) =
        String.ofList ('/' :: joinWith '/' (segments.map servedSegment)) ∧
      (servedPath defaultRoutesDirectory
          (String.ofList (handlerFile defaultRoutesDirectory segments)) =
        String.ofList ('/' :: joinWith '/' (segments.map parameterSegment)) ↔
          ∀ segment ∈ segments, '_' ∈ segment → segment.head? = some '_') := by
  have served : servedPath defaultRoutesDirectory
      (String.ofList (handlerFile defaultRoutesDirectory segments)) =
        String.ofList ('/' :: joinWith '/' (segments.map servedSegment)) := by
    obtain ⟨front, last, rfl⟩ : ∃ front last, segments = front ++ [last] :=
      ⟨_, _, (List.dropLast_append_getLast nonempty).symm⟩
    -- the root stands in front of what is served, and nowhere else
    have relative : removeAll defaultRoutesDirectory.toList
        (handlerFile defaultRoutesDirectory (front ++ [last])) =
          '/' :: (joinWith '/' (front ++ [last]) ++ handlerSuffix) := by
      rw [handlerFile, removeAll, replaceAll_append [] _ (by decide), List.nil_append]
      refine replaceAll_of_not_infix fun occurs => once (occurs.trans ?_)
      exact (List.suffix_append ("rc/routes".toList) _).isInfix
    have braced : bracedParameters ('/' :: (joinWith '/' (front ++ [last]) ++ handlerSuffix)) =
        '/' :: joinWith '/' ((front ++ [last]).map servedSegment) ++ servedEnd last := by
      rw [List.cons_append, ← bracedFrom_segments plain]
      rfl
    obtain ⟨start, c, whole, notSlash⟩ := exists_getLast_served plain
    rw [servedPath, String.toList_ofList, chars_handlerFile plain, relative, braced,
      removeAll_served plain, whole, List.append_assoc, List.singleton_append,
      withoutTrailingSlashes_append start notSlash]
    split <;> simp
  have mapped (f : List Char → List Char) : segments.map f ≠ [] :=
    fun none => nonempty (List.map_eq_nil_iff.mp none)
  refine ⟨served, ?_⟩
  rw [served, String.ofList_inj, List.cons_inj_right, joinWith_inj (mapped _) (mapped _)
      (List.forall_mem_map.mpr fun segment listed => (plain segment listed).slash_not_mem_served)
      (List.forall_mem_map.mpr fun segment listed =>
        (plain segment listed).slash_not_mem_parameter), List.map_inj_left]
  exact forall₂_congr fun _ _ => servedSegment_eq_iff

/-- Organisations and the members of their teams, where a segment has an underscore inside. -/
theorem servedPath_segments_members :
    servedPath "src/routes" "src/routes/orgs/_org/team_members/_member_id.rs" =
      "/orgs/{org}/team{members}/{member_id}" := by
  have plain : ∀ segment ∈
      ["orgs".toList, "_org".toList, "team_members".toList, "_member_id".toList],
      IsRouteSegment segment := by
    simp only [List.forall_mem_cons, List.not_mem_nil, false_imp_iff, implies_true, and_true]
    exact ⟨⟨by decide, by decide, by decide, by decide, by decide⟩,
      ⟨by decide, by decide, by decide, by decide, by decide⟩,
      ⟨by decide, by decide, by decide, by decide, by decide⟩,
      ⟨by decide, by decide, by decide, by decide, by decide⟩⟩
  exact (servedPath_segments (List.cons_ne_nil _ _) plain (by decide)).1

/-- A segment with an underscore inside is not served as it is. -/
theorem servedPath_underscoreInside :
    ¬ ∀ segments : List (List Char), segments ≠ [] →
      (∀ segment ∈ segments, IsRouteSegment segment) →
      ¬ defaultRoutesDirectory.toList <:+: (handlerFile defaultRoutesDirectory segments).tail →
      servedPath defaultRoutesDirectory
          (String.ofList (handlerFile defaultRoutesDirectory segments)) =
        String.ofList ('/' :: joinWith '/' (segments.map parameterSegment)) := by
  intro holds
  have served := holds ["user_profiles".toList] (List.cons_ne_nil _ _)
    (List.forall_mem_singleton.mpr ⟨by decide, by decide, by decide, by decide, by decide⟩)
    (by decide)
  exact absurd served (by decide)

end OpenResponse
