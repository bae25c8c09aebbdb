import PageLayout.CommandLine.Run

/-!
# The program

Reads the files that a command can need, carries it out, and prints what comes of
it.  Errors go to the other stream.

A description names other files, and which ones is known only while it is
compiled.  So all files below the working directory are read first, and those
below the directories of the files in the arguments that lie elsewhere.
-/

namespace PageLayout.CommandLine

/-! ## Files -/

/-- How many directories deep files are looked for. -/
def deepestDirectory : Nat := 32

/-- The text of a file.  There is none if its bytes are no text. -/
def readText (path : String) : IO (Option String) := do
  return String.fromUTF8? (← IO.FS.readBinFile path)

/-- The entries of a directory.  A directory that cannot be read has none. -/
def entriesOf (path : String) : IO (Array IO.FS.DirEntry) :=
  try return (← (← IO.FS.realPath path).readDir)
  catch _ => return #[]

/-- The files below a directory, by their paths as seen from where the directory
is seen.  Only files that can be read and are no devices count. -/
def gather : (levels : Nat) → (directory : String) → IO (List (String × Option String))
  | 0, _ => return []
  | levels + 1, directory => do
      let mut files := []
      for entry in ← entriesOf directory do
        let path := directory ++ "/" ++ entry.fileName
        let found ←
          try
            match (← entry.path.metadata).type with
            | .dir => gather levels path
            | .file => pure [(path, ← readText path)]
            | _ => pure []
          catch _ => pure []
        files := files ++ found
      return files

/-- The paths that a task names. -/
def Task.paths : Task → List String
  | .check input page _ _ => input.path :: page :: input.settings.toList
  | .outline input page _ => input.path :: (page.toList ++ input.settings.toList)

/-- Whether a path leads out of the working directory. -/
def leadsOut (path : String) : Bool :=
  let cs := path.toList
  Path.isAbsolute cs || (Path.normalSegments cs).head? == some ['.', '.']

/-- The directories whose files a task can need, each once. -/
def Task.directories (t : Task) : List String :=
  "." :: ((t.paths.filter leadsOut).map fun path => Path.directory (Path.normalize path)).eraseDups

/-! ## Commands -/

/-- What is printed for arguments that are not carried out. -/
def usage : String :=
  "Usage: pagelayout check FILE --page FILE [--tags TAG,...] [--format text|json]\n" ++
  "       pagelayout parse FILE [--page FILE] [--format text|json]\n" ++
  "Options: -P NAME=VALUE, --config FILE, --color auto|always|never, -q, -v\n"

/-- Does what the program is asked for. -/
def perform (a : Arguments) : IO UInt32 := do
  let files ← a.task.directories.flatMapM (gather deepestDirectory)
  let working := (← IO.currentDir).toString
  let terminal ← (← IO.getStdout).isTty
  let result := run terminal (.directory working files) a
  IO.print result.output
  match result.error with
  | none => return 0
  | some error =>
      IO.eprintln ("Error: " ++ error.message)
      return 1

end PageLayout.CommandLine

/-- The program. -/
def main (arguments : List String) : IO UInt32 :=
  match PageLayout.CommandLine.Arguments.ofList arguments with
  | .ok a => PageLayout.CommandLine.perform a
  | .error .help => do
      IO.print PageLayout.CommandLine.usage
      return 0
  | .error .version => do
      IO.println "pagelayout 0.4.0"
      return 0
  | .error _ => do
      IO.eprint PageLayout.CommandLine.usage
      return 2
