import OpenResponse.Command.Outcome

/-!
# The program

Reads files from the directory that it runs in, and ends with the exit code of its outcome.

The program is a thin layer.  It finds the variables of its environment and gives the rest of the
program a host that reads real files; the outcome that comes back says what is printed and with
which exit code.  Nothing is decided here, so what holds of `run` for every host holds of the
program.

A fault that stands for a wrong use of the command line ends the program with exit code two, a fault
that no message is foreseen for with exit code one.

## Limits

Files that are read are texts.  A file that is no text in the encoding of the system, or that cannot
be opened for another reason than that it is missing or is a directory, ends the program with the
fault of the system; a host has no word for it.
-/

namespace OpenResponse

/-- How the program is used. -/
def explanation : String := String.intercalate "\n" [
  "Compile response attributes into builders of OpenAPI responses.",
  "",
  "  [-v] compile FILE [--type NAME] [--format builder|openapi]",
  "  [-v] responses TEXT [--source FILE] [--format builder|openapi]",
  "  [-v] status LITERAL...",
  "  [-v] routes modules [DIRECTORY]",
  "  [-v] routes path FILE [--source-root DIRECTORY]"]

/-- The text of a file.  The path is read in its shortest spelling, and reported as it was given. -/
def readTextFile (path : String) : IO (Except Cause String) := do
  let spelled := String.ofList (FilePath.ofChars path.toList).chars
  try
    return .ok (← IO.FS.readFile spelled)
  catch error =>
    match error with
    | .noFileOrDirectory .. => return .error (.noSuchFile path)
    | .inappropriateType .. => return .error (.directoryGiven path)
    | other => throw other

/-- Collect the files of a directory, given the names on the way to it. -/
partial def collectFiles (names : List String) (entries : Array IO.FS.DirEntry) :
    IO (List PlacedFile) := do
  let mut files : List PlacedFile := []
  for entry in entries do
    let place := names ++ [entry.fileName]
    if ← entry.path.isDir then
      files := files ++ (← collectFiles place (← entry.path.readDir))
    else
      files := files ++ [⟨place, ← IO.FS.readFile entry.path⟩]
  return files

/-- The files below a directory, if there is one. -/
def readDirectory (path : String) : IO (Option (List PlacedFile)) := do
  let spelled := String.ofList (FilePath.ofChars path.toList).chars
  try
    let root ← IO.FS.realPath spelled
    if ← root.isDir then return some (← collectFiles [] (← root.readDir))
    else return none
  catch error =>
    match error with
    | .noFileOrDirectory .. => return none
    | other => throw other

/-- The host whose files are those of the directory that the program runs in. -/
def fileHost : Host IO := ⟨readTextFile, readDirectory⟩

end OpenResponse

open OpenResponse in
/-- Run a command line. -/
def main (args : List String) : IO UInt32 := do
  let environment ← Environment.lookup fun name => IO.getEnv name
  match ← run fileHost environment args with
  | .printed code output =>
    IO.print output
    return code.toUInt32
  | .explained =>
    IO.println explanation
    return 0
  | .misused fault =>
    IO.eprintln fault.message
    return 2
  | .failed fault =>
    IO.eprintln fault.message
    return 1
