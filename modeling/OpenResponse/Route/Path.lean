import OpenResponse.Text.Separated

/-!
# Paths of files and the paths they serve

A handler file serves the path that its own place below the source root spells.  Names that begin
with an underscore are parameters and stand between braces in the served path, the suffix of the
file is left out, and so is the source root.

The steps work on texts.  The root and the suffix are removed wherever they occur, and a parameter
goes from any underscore to the next slash or suffix; that they usually occur in one place each is a
matter of the files and is not checked.

## Main definitions

* `FilePath`: a path without empty names and names that stay in place.
* `bracedParameters`: a path with its parameters between braces.
* `servedPath`: the path that a file serves.

## Design notes

A path is put in its shortest spelling before anything is removed, so repeated slashes and single
dots make no difference.  Two dots stay as they are.

Braces are put around parameters with a slash behind, also at the end of a path, and slashes at the
end are taken away as the last step.
-/

namespace OpenResponse

/-- A path: whether and how it begins at the top, and the names on the way. -/
structure FilePath where
  /-- The slashes that the path begins with: none, one, or two, which some systems tell from one. -/
  top : List Char
  /-- The names on the way, none of them empty or a single dot. -/
  names : List (List Char)
deriving DecidableEq, Repr

namespace FilePath

/-- The slashes that count at the beginning of a path.  Three or more are as good as one. -/
def topOf (text : List Char) : List Char :=
  match (text.takeWhile (· == '/')).length with
  | 0 => []
  | 2 => ['/', '/']
  | _ => ['/']

/-- Whether a part of a path is a name to go to. -/
def isStep (part : List Char) : Bool := part != [] && part != ['.']

/-- The path that a text spells. -/
def ofChars (text : List Char) : FilePath := ⟨topOf text, (cutAt '/' text).filter isStep⟩

/-- The shortest text that spells a path; a dot spells the one that goes nowhere. -/
def chars (path : FilePath) : List Char :=
  if path.top = [] ∧ path.names = [] then ['.'] else path.top ++ joinWith '/' path.names

/-- The names on the way of a path are neither empty nor a single dot, and hold no slash. -/
theorem names_ofChars {text part : List Char} (h : part ∈ (ofChars text).names) :
    part ≠ [] ∧ part ≠ ['.'] ∧ '/' ∉ part := by
  obtain ⟨cut, step⟩ := List.mem_filter.mp h
  exact ⟨by simp_all [isStep], by simp_all [isStep], not_mem_of_mem_cutAt '/' text part cut⟩

end FilePath

/-! ### Parameters

The text is gone through once.  A number of characters to be passed over stands for the parameter
that was just put in braces. -/

/--
The name of a parameter, and how many characters it takes together with what ends it, a slash or
the suffix of the file.  No name goes over the end of a line.
-/
def parameter? : List Char → Option (List Char × Nat)
  | [] => none
  | '/' :: _ => some ([], 1)
  | '.' :: 'r' :: 's' :: _ => some ([], 3)
  | c :: rest =>
    if c = '\n' then none
    else (parameter? rest).map fun (name, length) => (c :: name, length + 1)

/-- A path with its parameters between braces; the first `skip` characters belong to one already. -/
def bracedFrom : Nat → List Char → List Char
  | _, [] => []
  | skip + 1, _ :: rest => bracedFrom skip rest
  | 0, c :: rest =>
    if c = '_' then
      match parameter? rest with
      | some (name, length) => '{' :: (name ++ '}' :: '/' :: bracedFrom length rest)
      | none => c :: bracedFrom 0 rest
    else c :: bracedFrom 0 rest

/-- A path with its parameters between braces: every underscore begins one that a slash or the
suffix of the file ends, and a slash follows it. -/
def bracedParameters (path : List Char) : List Char := bracedFrom 0 path

/-! ### The served path

The order of the steps matters: the suffix ends a name, so parameters are found before it is
removed. -/

/-- The suffix of handler files. -/
def handlerSuffix : List Char := ['.', 'r', 's']

/-- The directory that handler files are under, if no other is given. -/
def defaultRoutesDirectory : String := "src/routes"

/-- A text without the slashes at its end. -/
def withoutTrailingSlashes (text : List Char) : List Char :=
  (text.reverse.dropWhile (· == '/')).reverse

/-- The path that a file serves, given the source root that is not part of it. -/
def servedPath (sourceRoot file : String) : String :=
  let relative := removeAll sourceRoot.toList (FilePath.ofChars file.toList).chars
  String.ofList
    (withoutTrailingSlashes (removeAll handlerSuffix (bracedParameters relative)))

end OpenResponse
