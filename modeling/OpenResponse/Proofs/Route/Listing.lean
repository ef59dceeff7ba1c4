import Mathlib.Data.List.Flatten
import Mathlib.Data.List.Lex
import Mathlib.Data.String.Basic
import OpenResponse.Proofs.Text.Occurrences
import OpenResponse.Workspace

/-!
# Listed handlers

The handlers below a directory are listed file by file.  The files come in the order of their paths,
which is fixed by the directory alone, and each is listed with the verbs whose marks it holds.

Files that only gather modules are left out.  They are told by the end of their names, so that a
file that is a module of its own is left out as well if its name ends in the same way; the handlers
in such files are the ones that are lost.

## Main definitions

* `PlacedFile.Precedes` — the order of paths
* `PlacedFile.handlerNames` — the names of the handlers in a file
* `listing` — the handlers in files, some files left out

## Main statements

* `handlerModules_eq` — the handlers are listed file by file
* `listing_eq_iff` — when leaving out more files loses no handler
* `handlerModules_lists` — **which handlers below a directory are listed**

## Design notes

Two facts carry the result.  Sorting by a total order on paths gives the same list whatever order
the files came in, because no two files have one path; so the order of the listing is a property of
the directory and not of the host.  And leaving files out keeps the order of the others, so a
listing with fewer files is a sublist, which is the whole list exactly if nothing was in the files
left out.

`listing` takes the files to leave out as a predicate, so that the handlers as they are listed and
as one would list them are two values of one definition, and one law compares them.

## Hypotheses

The files of a workspace must have different paths, as those of a directory have.  Without that a
sorted list would not be determined by its elements.  The path given must lead to a directory;
otherwise there is no listing at all.
-/

namespace OpenResponse

/-! ### The order of files

Files are sorted with an order that never has two of them equal, as paths differ.  So the sorted
list is strictly ordered, and a strictly ordered list is known from its elements. -/

namespace PlacedFile

/-- One file comes before another in the order of their paths. -/
def Precedes (file other : PlacedFile) : Prop := file.names < other.names

/-- Sorted files with different paths are in the order of their paths. -/
theorem pairwise_mergeSort {files : List PlacedFile} (distinct : (files.map names).Nodup) :
    (files.mergeSort before).Pairwise Precedes := by
  have inOrder : (files.mergeSort before).Pairwise fun file other => before file other = true := by
    refine List.pairwise_mergeSort (fun file other third first second => ?_) (fun file other => ?_)
      files
    · simp only [before, Bool.not_eq_true', decide_eq_false_iff_not, not_lt] at first second ⊢
      exact first.trans second
    · simp only [before, Bool.or_eq_true, Bool.not_eq_true', decide_eq_false_iff_not, not_lt]
      exact le_total file.names other.names
  have different : (files.mergeSort before).Pairwise fun file other => file.names ≠ other.names :=
    List.pairwise_map.mp (((files.mergeSort_perm before).map names).nodup_iff.mpr distinct)
  refine inOrder.imp₂ (fun file other ordered unequal => ?_) different
  simp only [before, Bool.not_eq_true', decide_eq_false_iff_not, not_lt] at ordered
  exact lt_of_le_of_ne ordered unequal

end PlacedFile

/-- The files below a place have different paths if all files have. -/
theorem Workspace.nodup_below {workspace : Workspace} (place : List String)
    (distinct : (workspace.files.map PlacedFile.names).Nodup) :
    ((workspace.below place).map PlacedFile.names).Nodup := by
  rw [below, List.map_map]
  have kept : ((workspace.files.filter (place.isPrefixOf ·.names)).map PlacedFile.names).Nodup :=
    distinct.sublist (List.filter_sublist.map _)
  rw [List.Nodup, List.pairwise_map] at kept ⊢
  -- paths that begin alike differ in what is behind
  refine kept.imp_of_mem fun {file other} listed alsoListed different same => different ?_
  obtain ⟨back, isFile⟩ := List.isPrefixOf_iff_prefix.mp (List.mem_filter.mp listed).2
  obtain ⟨alsoBack, isOther⟩ := List.isPrefixOf_iff_prefix.mp (List.mem_filter.mp alsoListed).2
  simp only [Function.comp, ← isFile, ← isOther, List.drop_left] at same
  rw [← isFile, ← isOther, same]

/-! ### The handlers in a file

A file has a handler for each verb whose mark occurs anywhere in its text, be it in a comment or in
a longer name.  How often a mark occurs does not count, so that no name is listed twice for one
file. -/

namespace PlacedFile

/-- The name of a file in its directory. -/
def fileName (file : PlacedFile) : String := file.names.getLastD ""

/-- The names of the handlers in a file: one for each verb whose mark occurs in it. -/
def handlerNames (file : PlacedFile) : List String :=
  (Verb.all.filter fun verb => decide (verb.mark.toList <:+: file.text.toList)).map fun verb =>
    "::".intercalate ("routes" :: (moduleNames file.names ++ [verb.word]))

private theorem map_name_handlers (file : PlacedFile) :
    file.handlers.map Handler.name = file.handlerNames := by
  have marked : handlerVerbs file.text =
      Verb.all.filter fun verb => decide (verb.mark.toList <:+: file.text.toList) :=
    List.filter_congr fun verb _ => by rw [Bool.eq_iff_iff, occursIn_iff, decide_eq_true_iff]
  rw [handlers, handlerNames, marked, List.map_map]
  refine List.map_congr_left fun verb _ => ?_
  rw [Function.comp, Handler.name, ← List.cons_append,
    String.intercalate_append_of_ne_nil (List.cons_ne_nil _ _) (List.cons_ne_nil _ _),
    String.intercalate_singleton]

private theorem handlerNames_eq_nil {file : PlacedFile} :
    file.handlerNames = [] ↔ ∀ verb : Verb, ¬ verb.mark.toList <:+: file.text.toList := by
  rw [handlerNames, List.map_eq_nil_iff, List.filter_eq_nil_iff]
  exact ⟨fun none verb => by simpa using none verb verb.mem_all, fun none verb _ => by
    simpa using none verb⟩

/-- The files that are left out are those whose names end like those of files that only gather
modules. -/
theorem isModuleFile_iff {file : PlacedFile} :
    file.isModuleFile = true ↔ "mod.rs".toList <:+ file.fileName.toList := by
  rw [isModuleFile, fileName, List.getLastD_eq_getLast?]
  cases file.names.getLast? with
  | none => decide
  | some name => rw [List.isPrefixOf_iff_prefix, List.reverse_prefix, Option.getD_some]

end PlacedFile

/-! ### The handlers in several files

Of two predicates the weaker one leaves out fewer files.  What it lists beyond the other are the
handlers in the files on which they differ. -/

/-- The names of the handlers in files, one file after the other, with some files left out. -/
def listing (isLeftOut : PlacedFile → Prop) [DecidablePred isLeftOut] (files : List PlacedFile) :
    List String :=
  (files.filter fun file => decide (¬ isLeftOut file)).flatMap PlacedFile.handlerNames

/-- Handlers are listed file by file, in the order of the files.  Which files are left out is
decided by the end of their names. -/
theorem handlerModules_eq (files : List PlacedFile) :
    handlerModules files =
      listing (fun file => "mod.rs".toList <:+ file.fileName.toList)
        (files.mergeSort PlacedFile.before) := by
  have kept : (files.mergeSort PlacedFile.before).filter (!·.isModuleFile) =
      (files.mergeSort PlacedFile.before).filter fun file =>
        decide (¬ "mod.rs".toList <:+ file.fileName.toList) :=
    List.filter_congr fun file _ => by
      rw [Bool.eq_iff_iff, decide_eq_true_iff, Bool.not_eq_true', ← Bool.not_eq_true,
        PlacedFile.isModuleFile_iff]
  rw [handlerModules, handlersBelow, kept, List.map_flatMap, listing]
  exact List.flatMap_congr fun file _ => file.map_name_handlers

section LeftOut

variable {more fewer : PlacedFile → Prop} [DecidablePred more] [DecidablePred fewer]

private theorem listing_cons (file : PlacedFile) (files : List PlacedFile) :
    listing more (file :: files) =
      (if more file then [] else file.handlerNames) ++ listing more files := by
  rw [listing, List.filter_cons]
  by_cases isLeftOut : more file <;> simp [isLeftOut, listing]

variable (weaker : ∀ file, fewer file → more file)

include weaker

/-- If more files are left out, the handlers that are listed are some of the others, in the same
order: leaving out a file never adds or moves a handler. -/
theorem listing_sublist (files : List PlacedFile) :
    (listing more files).Sublist (listing fewer files) := by
  refine List.Sublist.flatMap (List.monotone_filter_right files fun file kept => ?_) _
  exact decide_eq_true fun isLeftOut => of_decide_eq_true kept (weaker file isLeftOut)

/-- If more files are left out, no handler is lost exactly if there are none in those files. -/
theorem listing_eq_iff {files : List PlacedFile} :
    listing more files = listing fewer files ↔
      ∀ file ∈ files, more file → ¬ fewer file → file.handlerNames = [] := by
  induction files with
  | nil => exact ⟨fun _ => nofun, fun _ => rfl⟩
  | cons file files ih =>
    rw [listing_cons, listing_cons, List.forall_mem_cons, ← ih]
    by_cases alsoLeftOut : fewer file
    · simp [alsoLeftOut, weaker file alsoLeftOut]
    by_cases isLeftOut : more file
    · -- what the file has makes the other list longer, and nothing makes up for it
      rw [if_pos isLeftOut, if_neg alsoLeftOut, List.nil_append]
      refine ⟨fun same => ?_, fun ⟨nothing, same⟩ => ?_⟩
      · have fewest := (listing_sublist weaker files).length_le
        rw [same, List.length_append] at fewest
        have nothing : file.handlerNames = [] := List.length_eq_zero_iff.mp (by omega)
        exact ⟨fun _ _ => nothing, by rw [same, nothing, List.nil_append]⟩
      · rw [nothing isLeftOut alsoLeftOut, same, List.nil_append]
    · simp [alsoLeftOut, isLeftOut]

end LeftOut

/-! ### The handlers below a directory

What is below a directory are the files of the workspace whose paths begin with its place.  The rest
of a path is what names the module, so the listing does not depend on where the directory is. -/

/-- **Which handlers below a directory are listed.**  Let the files of a workspace have different
paths, and let a path lead to one of its directories.  Then there are files below it, and they have
one order.  Their handlers are listed file by file in this order, except for those in files whose
names end in `mod.rs`.  So the list is that of the files not named `mod.rs` exactly if no file with
a longer name of that kind has a handler in it. -/
theorem handlerModules_lists {workspace : Workspace} {directory : String} {place : List String}
    (distinct : (workspace.files.map PlacedFile.names).Nodup)
    (located : workspace.locate directory = .ok place)
    (isDirectory : workspace.isDirectory place = true) :
    ∃ files sorted, workspace.filesBelow directory = some files ∧
      sorted.Pairwise PlacedFile.Precedes ∧
      (∀ file, file ∈ sorted ↔ ⟨place ++ file.names, file.text⟩ ∈ workspace.files) ∧
      handlerModules files =
        listing (fun file => "mod.rs".toList <:+ file.fileName.toList) sorted ∧
      (handlerModules files = listing (fun file => file.fileName = "mod.rs") sorted ↔
        ∀ file ∈ sorted, "mod.rs".toList <:+ file.fileName.toList → file.fileName ≠ "mod.rs" →
          ∀ verb : Verb, ¬ verb.mark.toList <:+: file.text.toList) := by
  refine ⟨workspace.below place, (workspace.below place).mergeSort PlacedFile.before, ?_,
    PlacedFile.pairwise_mergeSort (Workspace.nodup_below place distinct), fun file => ?_,
    handlerModules_eq _, ?_⟩
  · rw [Workspace.filesBelow, located]
    exact if_pos isDirectory
  · rw [List.mem_mergeSort, Workspace.mem_below]
  · rw [handlerModules_eq, listing_eq_iff fun file named => named ▸ List.suffix_rfl]
    simp only [PlacedFile.handlerNames_eq_nil, ne_eq]

/-- A directory with files that gather modules, one of them below it, and with a file outside of the
directory. -/
def userRoutes : Workspace where
  files := [
    ⟨["routes", "users", "mod.rs"], "pub mod _id;"⟩,
    ⟨["routes", "users", "_id.rs"], "async fn put() {} async fn get() {}"⟩,
    ⟨["routes", "mod.rs"], "async fn get() {}"⟩,
    ⟨["src", "main.rs"], "fn main() {}"⟩]

/-- Handlers of users, with nothing lost. -/
theorem handlerModules_lists_users :
    ∃ files sorted, userRoutes.filesBelow "./routes/" = some files ∧
      sorted.Pairwise PlacedFile.Precedes ∧
      (∀ file, file ∈ sorted ↔ ⟨["routes"] ++ file.names, file.text⟩ ∈ userRoutes.files) ∧
      handlerModules files = listing (fun file => file.fileName = "mod.rs") sorted := by
  obtain ⟨files, sorted, found, inOrder, members, -, lossless⟩ :=
    @handlerModules_lists userRoutes "./routes/" ["routes"] (by decide) (by decide) (by decide)
  have noneLonger : ∀ file ∈ userRoutes.below ["routes"],
      "mod.rs".toList <:+ file.fileName.toList → file.fileName = "mod.rs" := by
    decide
  refine ⟨files, sorted, found, inOrder, members, lossless.mpr fun file listed ends longer => ?_⟩
  exact absurd (noneLonger file (Workspace.mem_below.mpr ((members file).mp listed)) ends) longer

/-- The handler in a file with a longer name of that kind is lost. -/
theorem handlerModules_longerName :
    ¬ ∀ (workspace : Workspace) (directory : String) (place : List String)
      (files sorted : List PlacedFile),
      (workspace.files.map PlacedFile.names).Nodup → workspace.locate directory = .ok place →
      workspace.filesBelow directory = some files → sorted.Pairwise PlacedFile.Precedes →
      (∀ file, file ∈ sorted ↔ ⟨place ++ file.names, file.text⟩ ∈ workspace.files) →
      handlerModules files = listing (fun file => file.fileName = "mod.rs") sorted := by
  intro holds
  have same := holds ⟨[⟨["routes", "commod.rs"], "async fn get() {}"⟩]⟩ "routes" ["routes"]
    [⟨["commod.rs"], "async fn get() {}"⟩] [⟨["commod.rs"], "async fn get() {}"⟩]
    (by decide) (by decide) (by decide) (List.pairwise_singleton _ _)
    (fun file => by rw [← Workspace.mem_below]; rfl)
  rw [handlerModules_eq, List.mergeSort_singleton] at same
  exact absurd same (by decide)

end OpenResponse
