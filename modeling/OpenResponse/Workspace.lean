import OpenResponse.Fault
import OpenResponse.Route.Handler
import OpenResponse.Route.Path

/-!
# Workspaces

What is read from files is read through a `Host`, so that the same program runs on a real directory
and on a workspace, which is a directory given by the files in it.  A directory exists if a file
lies below it; the workspace itself always does.

A host is a record of two functions in a monad.  For a workspace the monad does nothing, and
everything that a command does is a function of the files; that is what the laws about commands are
stated with.

## Main definitions

* `Host`: how files are read.
* `Workspace`: a directory as the list of its files.
* `Workspace.locate`: where a path leads to.
* `Workspace.host`: the host whose files are those of a workspace.

## Main statements

* `mem_below`: the files below a place are those whose names begin with its own.

## Design notes

Directories are not listed; there is one wherever a file lies below.  So an empty directory cannot
be told from none.

A path is followed name by name, and a name that leads through a file is another fault than one that
leads nowhere.  Paths that begin at the top lead out of the workspace.
-/

namespace OpenResponse

/-- How files are read.  Commands are written for any monad, so that the same text runs on the files
of a system and on a workspace. -/
structure Host (m : Type → Type) where
  /-- The text of the file that a path leads to. -/
  content : String → m (Except Cause String)
  /-- The files below the directory that a path leads to, if there is one. -/
  filesBelow : String → m (Option (List PlacedFile))

/-- A directory, given by the files below it.  It is what commands are evaluated on when nothing
outside may be touched. -/
structure Workspace where
  /-- The files. -/
  files : List PlacedFile
deriving Repr

namespace Workspace

/-- Whether names lead to a directory of the workspace. -/
def isDirectory (workspace : Workspace) (names : List String) : Bool :=
  names.isEmpty || workspace.files.any fun file =>
    names.isPrefixOf file.names && names != file.names

/-- The text of the file that names lead to. -/
def text? (workspace : Workspace) (names : List String) : Option String :=
  (workspace.files.find? (·.names == names)).map (·.text)

/--
Follow the names of `path` from a place in the workspace.  Two dots lead back, and nothing outside
of the workspace is found.
-/
def follow (workspace : Workspace) (path : String) (place : List String) :
    List String → Except Cause (List String)
  | [] => .ok place
  | name :: rest =>
    if workspace.isDirectory place then
      if name = ".." then
        if place.isEmpty then .error (.noSuchFile path)
        else follow workspace path place.dropLast rest
      else follow workspace path (place ++ [name]) rest
    else if (workspace.text? place).isSome then .error (.fileAsDirectory path)
    else .error (.noSuchFile path)

/-- The place that a path leads to.  A path that begins at the top leads nowhere, and names between
separators are followed one by one. -/
def locate (workspace : Workspace) (path : String) : Except Cause (List String) :=
  let spelled := FilePath.ofChars path.toList
  if spelled.top = [] then follow workspace path [] (spelled.names.map String.ofList)
  else .error (.noSuchFile path)

/-- The text of the file that a path leads to. -/
def content (workspace : Workspace) (path : String) : Except Cause String := do
  let place ← workspace.locate path
  match workspace.text? place with
  | some text => .ok text
  | none =>
    if workspace.isDirectory place then .error (.directoryGiven path)
    else .error (.noSuchFile path)

/-- The files below a place, by their names from there. -/
def below (workspace : Workspace) (place : List String) : List PlacedFile :=
  (workspace.files.filter (place.isPrefixOf ·.names)).map fun file =>
    { file with names := file.names.drop place.length }

/-- The files below the directory that a path leads to, if there is one. -/
def filesBelow (workspace : Workspace) (path : String) : Option (List PlacedFile) :=
  match workspace.locate path with
  | .ok place => if workspace.isDirectory place then some (workspace.below place) else none
  | .error _ => none

/-- The host whose files are those of the workspace.  Nothing but the workspace decides what is
read, so that a command on it is a function. -/
def host (workspace : Workspace) : Host Id := ⟨workspace.content, workspace.filesBelow⟩

/-- The files below a place are those whose names begin with its own. -/
theorem mem_below {workspace : Workspace} {place : List String} {file : PlacedFile} :
    file ∈ workspace.below place ↔ ⟨place ++ file.names, file.text⟩ ∈ workspace.files := by
  simp only [below, List.mem_map, List.mem_filter, List.isPrefixOf_iff_prefix]
  constructor
  · rintro ⟨other, ⟨mem, rest, same⟩, rfl⟩
    obtain ⟨names, text⟩ := other
    simp only at same
    subst same
    simpa using mem
  · intro mem
    exact ⟨_, ⟨mem, List.prefix_append ..⟩, by simp⟩

end Workspace

end OpenResponse
