import OpenResponse.Proofs.Route.Parameters
import OpenResponse.Route.Handler

/-!
# Source roots

A file is served for its place below the source root.  The root is taken away in front of the file,
and with it every other occurrence of its text; so what is served depends on the place below the
root alone only as long as the text of the root is not in it.

That nothing else hides the difference is seen by counting: serving a path looks at a few marks and
writes a few others, and every other character is in what is served as often as in the path.

## Main definitions

* `IsRelative` — relative paths as they are spelled
* `servedBelow` — what is served for a place below a root
* `IsKept` — characters that are served as they are

## Main statements

* `servedPath_below` — what is served for a file below a root
* `count_servedBelow` — what serving leaves of a character
* `servedPath_roots` — **the root does not count exactly if it is nowhere else**

## Design notes

That a path is served for its place is an equality of two texts that have been changed in the same
way, braces put around parameters, suffixes and slashes taken away.  Such changes could make
different texts equal, so that the equality alone says little about the places.  Counting a
character that none of the changes touches shows that they do not: it is in the served path as often
as in the place, and removing an occurrence of a root that has such a character lowers the count.
So `count_servedBelow` is the fact that gives the converse direction.

Only a root of nothing but marks escapes the count, like a root `_` or `rs`.  For these the equality
may hold by coincidence, and nothing is claimed.

## Hypotheses

Roots and places are relative paths in the spelling that paths have, so that putting a slash between
them gives the spelling of the whole.  Modules have no colons in their names, because colons
separate the names.
-/

namespace OpenResponse

/-! ### Places below a root

A relative path is a list of names with slashes between them, and two such lists put together are
one.  So the text of a file below a root begins with the root, and removing the root takes this
occurrence away together with any that is in the place. -/

/-- A relative path that leads somewhere, spelled as paths are.  A path may be written with dots and
repeated separators that are dropped when it is read; `spelled` says that this one is not. -/
structure IsRelative (path : List Char) : Prop where
  spelled : (FilePath.ofChars path).chars = path
  relative : (FilePath.ofChars path).top = []
  somewhere : (FilePath.ofChars path).names ≠ []

namespace IsRelative

variable {path root : List Char}

/-- A relative path is made of names. -/
theorem exists_names (isRelative : IsRelative path) :
    ∃ names, names ≠ [] ∧ (∀ name ∈ names, '/' ∉ name ∧ FilePath.isStep name = true) ∧
      path = joinWith '/' names := by
  refine ⟨(FilePath.ofChars path).names, isRelative.somewhere, fun name listed => ?_, ?_⟩
  · exact ⟨(FilePath.names_ofChars listed).2.2, (List.mem_filter.mp listed).2⟩
  · have spelled := isRelative.spelled
    rw [FilePath.chars, if_neg fun nowhere => isRelative.somewhere nowhere.2,
      isRelative.relative, List.nil_append] at spelled
    exact spelled.symm

/-- A path below another is spelled by both. -/
theorem chars_below (isRoot : IsRelative root) (isPath : IsRelative path) :
    (FilePath.ofChars (root ++ '/' :: path)).chars = root ++ '/' :: path := by
  obtain ⟨outer, nonempty, outerSteps, rfl⟩ := isRoot.exists_names
  obtain ⟨inner, alsoNonempty, innerSteps, rfl⟩ := isPath.exists_names
  rw [← joinWith_append nonempty alsoNonempty]
  exact FilePath.chars_ofChars (List.append_ne_nil_of_left_ne_nil nonempty inner)
    (List.forall_mem_append.mpr ⟨outerSteps, innerSteps⟩)

/-- A relative path does not begin with a slash. -/
theorem exists_cons (isRelative : IsRelative path) : ∃ c rest, path = c :: rest ∧ c ≠ '/' := by
  obtain ⟨names, nonempty, steps, rfl⟩ := isRelative.exists_names
  obtain ⟨first, more, rfl⟩ := List.exists_cons_of_ne_nil nonempty
  obtain ⟨noSlash, isStep⟩ := steps first List.mem_cons_self
  cases first with
  | nil => cases isStep
  | cons c first =>
    have notSlash : c ≠ '/' := fun same => noSlash (same ▸ List.mem_cons_self)
    cases more with
    | nil => exact ⟨c, first, rfl, notSlash⟩
    | cons next more => exact ⟨c, _, rfl, notSlash⟩

end IsRelative

/-- What is served for a place below a root.  The root is not in the place any more; a slash is in
front of it instead. -/
def servedBelow (place : List Char) : String :=
  String.ofList
    (withoutTrailingSlashes (removeAll handlerSuffix (bracedParameters ('/' :: place))))

/-- The text of a file at a place below a root. -/
def fileBelow (root place : List Char) : String := String.ofList (root ++ '/' :: place)

/-- A file is served for its place below the root, in which the text of the root is taken away as
well. -/
theorem servedPath_below {root place : List Char} (isRoot : IsRelative root)
    (isPlace : IsRelative place) :
    servedPath (String.ofList root) (fileBelow root place) =
      servedBelow (removeAll root place) := by
  obtain ⟨c, rest, isCons, notSlash⟩ := isRoot.exists_cons
  have nonempty : root ≠ [] := isCons ▸ List.cons_ne_nil c rest
  have slashKept : ¬ root <+: '/' :: place := by
    rw [isCons]
    exact fun begins => notSlash (List.cons_prefix_cons.mp begins).1
  have relative : removeAll root (root ++ '/' :: place) = '/' :: removeAll root place := by
    rw [removeAll, replaceAll_append [] _ nonempty, List.nil_append,
      replaceAll_cons_of_not_prefix slashKept, removeAll]
  rw [servedPath, fileBelow, String.toList_ofList, String.toList_ofList, isRoot.chars_below isPlace,
    relative, servedBelow]

/-! ### Characters that are served as they are

Each step of serving a path is shown to keep the number of such a character: the braces and the
slash that a parameter gets are none, nor is any character of the suffix. -/

/-- Characters that serving a path neither looks at nor writes.  Almost every character is one, so a
root of names has one. -/
def IsKept (c : Char) : Prop := c ∉ ['_', '/', '{', '}'] ∧ c ∉ handlerSuffix

instance (c : Char) : Decidable (IsKept c) := inferInstanceAs (Decidable (_ ∧ _))

/-- A parameter takes its name and what ends it. -/
theorem take_of_parameter? {text name : List Char} {length : Nat}
    (found : parameter? text = some (name, length)) :
    text.take length = name ++ ['/'] ∨ text.take length = name ++ handlerSuffix := by
  fun_induction parameter? text generalizing name length with
  | case1 => cases found
  | case2 =>
    cases found
    exact .inl rfl
  | case3 =>
    cases found
    exact .inr rfl
  | case4 => cases found
  | case5 c rest _ _ _ ih =>
    obtain ⟨⟨inner, taken⟩, foundRest, same⟩ := Option.map_eq_some_iff.mp found
    cases same
    rw [List.take_succ_cons, List.cons_append, List.cons_append]
    exact (ih foundRest).imp (congrArg (c :: ·)) (congrArg (c :: ·))

section Kept

variable {c : Char} (kept : IsKept c)

include kept

private theorem count_bracedFrom (skip : Nat) (text : List Char) :
    (bracedFrom skip text).count c = (text.drop skip).count c := by
  have others : '_' ≠ c ∧ '/' ≠ c ∧ '{' ≠ c ∧ '}' ≠ c := by
    have notMark := kept.1
    simp only [List.mem_cons, List.not_mem_nil, or_false, not_or] at notMark
    exact ⟨Ne.symm notMark.1, Ne.symm notMark.2.1, Ne.symm notMark.2.2.1, Ne.symm notMark.2.2.2⟩
  obtain ⟨notUnderscore, notSlash, notOpening, notClosing⟩ := others
  fun_induction bracedFrom skip text with
  | case1 skip => rw [List.drop_nil]
  | case2 skip _ rest ih => rw [List.drop_succ_cons, ih]
  | case3 rest name length found ih =>
    -- of what is taken, the name is kept
    have taken : (rest.take length).count c = name.count c := by
      rcases take_of_parameter? found with same | same
      · rw [same, List.count_append, List.count_singleton, if_neg (by simpa using notSlash),
          Nat.add_zero]
      · rw [same, List.count_append, List.count_eq_zero_of_not_mem kept.2, Nat.add_zero]
    have whole : rest.count c = name.count c + (rest.drop length).count c := by
      rw [← taken, ← List.count_append, List.take_append_drop]
    rw [List.drop_zero, List.count_cons_of_ne notUnderscore, List.count_cons_of_ne notOpening,
      List.count_append, List.count_cons_of_ne notClosing, List.count_cons_of_ne notSlash, ih,
      whole]
  | case4 rest _ ih => rw [List.count_cons, ih, List.drop_zero, List.drop_zero, List.count_cons]
  | case5 d rest _ ih => rw [List.count_cons, ih, List.drop_zero, List.drop_zero, List.count_cons]

private theorem count_withoutTrailingSlashes (text : List Char) :
    (withoutTrailingSlashes text).count c = text.count c := by
  have slashes : (text.reverse.takeWhile (· == '/')).count c = 0 := by
    refine List.count_eq_zero_of_not_mem fun listed => kept.1 ?_
    have isSlash : (c == '/') = true := List.mem_takeWhile_imp (p := (· == '/')) listed
    exact eq_of_beq isSlash ▸ List.mem_cons_of_mem _ List.mem_cons_self
  calc (withoutTrailingSlashes text).count c
      = (text.reverse.dropWhile (· == '/')).count c := List.count_reverse
    _ = (text.reverse.takeWhile (· == '/') ++ text.reverse.dropWhile (· == '/')).count c := by
        rw [List.count_append, slashes, Nat.zero_add]
    _ = text.count c := by rw [List.takeWhile_append_dropWhile, List.count_reverse]

/-- What is served for a place has the characters of the place, each of those that are kept as often
as it was. -/
theorem count_servedBelow (place : List Char) :
    (servedBelow place).toList.count c = place.count c := by
  have notSlash : '/' ≠ c :=
    fun same => kept.1 (same ▸ List.mem_cons_of_mem _ List.mem_cons_self)
  rw [servedBelow, String.toList_ofList, count_withoutTrailingSlashes kept,
    count_removeAll_of_not_mem kept.2, bracedParameters, count_bracedFrom kept, List.drop_zero,
    List.count_cons_of_ne notSlash]

end Kept

/-! ### Handlers

A handler has no file of its own, but a module with colons between its names.  Writing slashes for
the colons gives the place of a file, and the handler is served for that file. -/

/-- Slashes take the place of the colons between names. -/
theorem replaceAll_intercalate {first : String} {more : List String}
    (noColon : ∀ name ∈ first :: more, ':' ∉ name.toList) :
    replaceAll [':', ':'] ['/'] ("::".intercalate (first :: more)).toList =
      joinWith '/' ((first :: more).map String.toList) := by
  induction more generalizing first with
  | nil =>
    rw [String.intercalate_singleton]
    refine replaceAll_of_not_infix fun occurs => ?_
    exact noColon first List.mem_cons_self (occurs.subset List.mem_cons_self)
  | cons next more ih =>
    obtain ⟨inFirst, others⟩ := List.forall_mem_cons.mp noColon
    have kept (back : List Char) : replaceAll [':', ':'] ['/'] (first.toList ++ back) =
        first.toList ++ replaceAll [':', ':'] ['/'] back := by
      refine replaceAll_append_of_not_begins fun rest isSuffix nonempty begins => ?_
      obtain ⟨c, rest, rfl⟩ := List.exists_cons_of_ne_nil nonempty
      exact inFirst ((List.cons_prefix_cons.mp begins).1 ▸ isSuffix.subset List.mem_cons_self)
    have colons : "::".toList = [':', ':'] := by decide
    rw [String.intercalate_cons_cons, String.toList_append, String.toList_append, List.append_assoc,
      kept, colons, replaceAll_append ['/'] _ (by decide), ih others]
    rfl

/-- A handler is served for the file that its module names below the root `routes`. -/
theorem Handler.path_eq {names : List (List Char)} (nonempty : names ≠ [])
    (noColon : ∀ name ∈ names, ':' ∉ name) (verb : Verb) :
    Handler.path ⟨"::".intercalate ("routes" :: names.map String.ofList), verb⟩ =
      servedPath "routes" (fileBelow "routes".toList (joinWith '/' names ++ handlerSuffix)) := by
  have texts : (names.map String.ofList).map String.toList = names := by
    rw [List.map_map]
    exact List.map_id'' (fun _ => String.toList_ofList) names
  have colonFree : ∀ name ∈ "routes" :: names.map String.ofList, ':' ∉ name.toList := by
    refine List.forall_mem_cons.mpr ⟨by decide, List.forall_mem_map.mpr fun name listed => ?_⟩
    rw [String.toList_ofList]
    exact noColon name listed
  rw [Handler.path, replaceAll_intercalate colonFree, List.map_cons, texts,
    joinWith_cons _ nonempty, List.append_assoc, List.cons_append, fileBelow]

/-! ### The root does not count

Both directions for a root whose text is nowhere in the place, and for one whose text is, are put
together for two roots, and for the root that handlers have. -/

section Roots

variable {root place : List Char} (isRoot : IsRelative root) (isPlace : IsRelative place)

include isRoot isPlace

/-- A root that is nowhere in a place does not count: only the one in front is removed. -/
theorem servedPath_of_absent (notThere : ¬ root <:+: place) :
    servedPath (String.ofList root) (fileBelow root place) = servedBelow place := by
  rw [servedPath_below isRoot isPlace, removeAll, replaceAll_of_not_infix notThere]

/-- A root with a character that is served as it is counts wherever its text is in the place. -/
theorem servedPath_eq_iff (hasKept : ∃ c ∈ root, IsKept c) :
    servedPath (String.ofList root) (fileBelow root place) = servedBelow place ↔
      ¬ root <:+: place := by
  obtain ⟨c, inRoot, kept⟩ := hasKept
  refine ⟨fun same occurs => ?_, servedPath_of_absent isRoot isPlace⟩
  rw [servedPath_below isRoot isPlace] at same
  have rarer := count_removeAll_lt inRoot occurs
  rw [← count_servedBelow kept, same, count_servedBelow kept] at rarer
  exact lt_irrefl _ rarer

end Roots

/-- **The root does not count exactly if it is nowhere else.**  A file is served for its place below
the root, from which the text of the root is taken away once more.  So two roots that are nowhere in
the place make no difference.  One that is in it makes a difference, unless it consists of nothing
but marks that serving a path looks at or writes.

Handlers are served with the root `routes`, so those whose module has its text in a name further
down are not served for their place. -/
theorem servedPath_roots {root other place : List Char} (isRoot : IsRelative root)
    (isOther : IsRelative other) (isPlace : IsRelative place) :
    servedPath (String.ofList root) (fileBelow root place) = servedBelow (removeAll root place) ∧
      (¬ root <:+: place → ¬ other <:+: place →
        servedPath (String.ofList root) (fileBelow root place) =
          servedPath (String.ofList other) (fileBelow other place)) ∧
      ((∃ c ∈ root, IsKept c) → ¬ other <:+: place →
        (servedPath (String.ofList root) (fileBelow root place) =
          servedPath (String.ofList other) (fileBelow other place) ↔ ¬ root <:+: place)) ∧
      ∀ names : List (List Char), names ≠ [] → (∀ name ∈ names, ':' ∉ name) →
        place = joinWith '/' names ++ handlerSuffix → ∀ verb,
          (Handler.path ⟨"::".intercalate ("routes" :: names.map String.ofList), verb⟩ =
            servedBelow place ↔ ¬ "routes".toList <:+: place) := by
  refine ⟨servedPath_below isRoot isPlace, fun notRoot notOther => ?_, fun hasKept notOther => ?_,
    fun names nonempty noColon isFile verb => ?_⟩
  · rw [servedPath_of_absent isRoot isPlace notRoot,
      servedPath_of_absent isOther isPlace notOther]
  · rw [servedPath_of_absent isOther isPlace notOther]
    exact servedPath_eq_iff isRoot isPlace hasKept
  · have isRoutes : IsRelative "routes".toList := ⟨by decide, by decide, by decide⟩
    rw [Handler.path_eq nonempty noColon, ← isFile]
    exact servedPath_eq_iff isRoutes isPlace ⟨'o', by decide, by decide⟩

/-- The profile of a user, served from two roots. -/
theorem servedPath_roots_profile :
    servedPath "routes" "routes/users/_id/profile.rs" =
        servedPath "src/routes" "src/routes/users/_id/profile.rs" ∧
      Handler.path ⟨"routes::users::_id::profile", .get⟩ =
        servedBelow "users/_id/profile.rs".toList := by
  have isPlace : IsRelative "users/_id/profile.rs".toList := ⟨by decide, by decide, by decide⟩
  have isRoot : IsRelative "routes".toList := ⟨by decide, by decide, by decide⟩
  have isOther : IsRelative "src/routes".toList := ⟨by decide, by decide, by decide⟩
  obtain ⟨-, alike, -, handlers⟩ := servedPath_roots isRoot isOther isPlace
  exact ⟨alike (by decide) (by decide),
    (handlers ["users".toList, "_id".toList, "profile".toList] (by decide) (by decide) (by decide)
      .get).mpr (by decide)⟩

/-- A file that is named like its root is served for the directory that it is in. -/
theorem servedPath_rootRecurs :
    ¬ ∀ root other place : List Char, IsRelative root → IsRelative other → IsRelative place →
      handlerSuffix <:+ place →
      servedPath (String.ofList root) (fileBelow root place) =
        servedPath (String.ofList other) (fileBelow other place) := by
  intro holds
  have same := holds "routes".toList "src".toList "api/routes.rs".toList
    ⟨by decide, by decide, by decide⟩ ⟨by decide, by decide, by decide⟩
    ⟨by decide, by decide, by decide⟩ (by decide)
  have served : servedPath "routes" "routes/api/routes.rs" = "/api" := by decide
  have alsoServed : servedPath "src" "src/api/routes.rs" = "/api/routes" := by decide
  exact absurd ((served.symm.trans same).trans alsoServed) (by decide)

end OpenResponse
