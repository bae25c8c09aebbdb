import PageLayout.Import.Digest
import PageLayout.Import.Path
import PageLayout.Text.Blank

/-!
# The trail of a compilation

A file names other files by paths that are relative to its own directory.  The
trail of a compilation keeps the directories of the files that are being read,
the innermost first, and the identities of all files that were read.  A file is
identified by its name and its content, so that a file which two paths lead to
is read once.
-/

namespace PageLayout

/-- The identity of a file: its name and the digest of its content. -/
def fileIdentity (path text : String) : String :=
  Path.fileName path ++ ":" ++ Digest.hexDigest text

/-- The files that are being read and those that were. -/
structure Trail where
  /-- The directories of the files that are being read, the innermost first. -/
  directories : List String
  /-- The identities of the files that were read, the last one first. -/
  loaded : List String
deriving DecidableEq, Repr, Inhabited

namespace Trail

/-- The trail before any file. -/
def start : Trail := ⟨[], []⟩

/-- The normal form of a path that is written in a file, as seen from the working
directory.  Blanks around the path do not count. -/
def resolve (t : Trail) (requested : String) : String :=
  let path := Text.trimmed requested
  match t.directories with
  | [] => Path.normalize path
  | directory :: _ => Path.seenFrom directory path

/-- The trail inside a file. -/
def enter (t : Trail) (path : String) : Trail :=
  { t with directories := Path.directory path :: t.directories }

/-- The trail after the innermost file. -/
def leave (t : Trail) : Trail := { t with directories := t.directories.drop 1 }

/-- Whether a file was read. -/
def hasLoaded (t : Trail) (identity : String) : Bool := t.loaded.contains identity

/-- The trail after a file was read. -/
def mark (t : Trail) (identity : String) : Trail :=
  if t.hasLoaded identity then t else { t with loaded := identity :: t.loaded }

end Trail

end PageLayout
