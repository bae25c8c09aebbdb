import PageLayout.Import.Path
import PageLayout.Table

/-!
# Sources of files

A source answers for every path with the text of a file, or with the reason why
there is none.  It has finitely many files, and their number bounds how deep
files can import one another.

A source in memory keeps its files by their normal paths.  A source in a
directory is a tree of directories and files with a working directory in it, from
which paths are followed unless they start at the root.  Its files can hold bytes
that are no text.
-/

namespace PageLayout

/-- Where files are read from. -/
structure Source where
  /-- The text of a file, or the reason why it cannot be read. -/
  read : String → Except String String
  /-- No fewer than the files that can be read. -/
  size : Nat

namespace Source

/-! ## Files in memory -/

/-- The reason for a file that is not in memory. -/
def noSuchFile : String := "no such file"

/-- The files by their normal paths.  The last file of a path counts. -/
def byNormalPath (files : List (String × String)) : Table String :=
  Table.ofList (files.map fun file => (Path.normalize file.1, file.2))

/-- The source of some files in memory. -/
def memory (files : List (String × String)) : Source :=
  let table := byNormalPath files
  { read := fun path =>
      match table.get? path with
      | some text => .ok text
      | none => .error noSuchFile
    size := files.length }

/-! ## Files in a directory -/

/-- Why a file in a directory cannot be read. -/
inductive ReadFault where
  /-- There is nothing at the path. -/
  | missing
  /-- A part of the path that has to be a directory is a file. -/
  | notDirectory
  /-- The path is that of a directory. -/
  | directory
  /-- The file holds bytes that are no text. -/
  | notText
  /-- A segment of the path is longer than any name of a file. -/
  | tooLong
  /-- The path has a character that no path can have. -/
  | nulCharacter
deriving DecidableEq, Repr

/-- The text of a reason. -/
def ReadFault.message : ReadFault → String
  | .missing => "No such file or directory (os error 2)"
  | .notDirectory => "Not a directory (os error 20)"
  | .directory => "Is a directory (os error 21)"
  | .notText => "stream did not contain valid UTF-8"
  | .tooLong => "File name too long (os error 36)"
  | .nulCharacter => "file name contained an unexpected NUL byte"

/-- A file or a directory.  A file whose bytes are no text has none. -/
inductive Entry where
  /-- A file. -/
  | file (text : Option String)
  /-- A directory with the names in it. -/
  | directory (entries : List (String × Entry))
deriving Inhabited

namespace Entry

/-- The greatest length of a name, in bytes. -/
def longestName : Nat := 255

/-- The first entry of a name. -/
def named? (name : String) : List (String × Entry) → Option Entry
  | [] => none
  | (n, e) :: rest => if n = name then some e else named? name rest

/-- What is found along the segments of a path, and the directories it lies in.
The directories are given from the innermost out.  Above the root is the root. -/
def walk : List Entry → Entry → List String → Except ReadFault Entry
  | _, here, [] => .ok here
  | _, .file _, _ :: _ => .error .notDirectory
  | outer, .directory entries, name :: rest =>
      if name = "." then walk outer (.directory entries) rest
      else if name = ".." then
        match outer with
        | [] => walk [] (.directory entries) rest
        | parent :: others => walk others parent rest
      else if longestName < name.utf8ByteSize then .error .tooLong
      else
        match named? name entries with
        | none => .error .missing
        | some e => walk (.directory entries :: outer) e rest

/-- The segments of a path as they are followed one by one. -/
def steps (path : String) : List String :=
  ((Text.splitAt (· == '/') path.toList).filter fun s => !s.isEmpty).map String.ofList

/-- The text at a path that is followed from a working directory.  A path that ends
in a slash is that of a directory. -/
def text (root : Entry) (working path : String) : Except ReadFault String :=
  let cs := path.toList
  let front := if Path.isAbsolute cs then [] else steps working
  if cs.contains '\x00' then .error .nulCharacter
  else if cs.isEmpty then .error .missing
  else
    match walk [] root (front ++ steps path) with
    | .error fault => .error fault
    | .ok (.directory _) => .error .directory
    | .ok (.file text) =>
        if cs.getLast? == some '/' then .error .notDirectory
        else
          match text with
          | some text => .ok text
          | none => .error .notText

/-- An entry with one more file at a path of segments. -/
def withFile (text : Option String) : List String → Entry → Entry
  | [], _ => .file text
  | name :: rest, .directory entries =>
      let below := (named? name entries).getD (.directory [])
      .directory ((name, withFile text rest below) :: entries.filter fun e => e.1 != name)
  | name :: rest, .file _ => .directory [(name, withFile text rest (.directory []))]

/-- The tree of a working directory and some files.  Their paths are followed from
there. -/
def ofFiles (working : String) (files : List (String × Option String)) : Entry :=
  let bare := (steps working).foldr (fun name e => .directory [(name, e)]) (.directory [])
  files.foldl (fun root file => root.withFile file.2 (steps (Path.seenFrom working file.1))) bare

end Entry

/-- The source of some files, with a working directory given by its path from the
root. -/
def directory (working : String) (files : List (String × Option String)) : Source :=
  let root := Entry.ofFiles working files
  { read := fun path => (root.text working path).mapError ReadFault.message
    size := files.length }

end Source

end PageLayout
