import PageLayout.Text.Blank

/-!
# Paths

Paths are texts with segments between slashes.  Empty segments and segments that
are a single dot say nothing.  `Path.normalize` drops them, and lets a double dot
take away the segment before it.  A double dot at the root says nothing, and one
with nothing before it stays.

The normal form of a path that says nothing is a single dot.  The file system is
never asked, so a link is a segment like any other.
-/

namespace PageLayout.Path

/-- Whether a path starts at the root. -/
def isAbsolute (path : List Char) : Bool := path.head? == some '/'

/-- The segments of a path that say something. -/
def segments (path : List Char) : List (List Char) :=
  (Text.splitAt (· == '/') path).filter fun s => !s.isEmpty && s != ['.']

/-- The segments after one more segment, the last one first. -/
def follow (absolute : Bool) (before : List (List Char)) (s : List Char) : List (List Char) :=
  if s == ['.', '.'] then
    match before with
    | [] => if absolute then [] else [s]
    | last :: rest => if last == ['.', '.'] then s :: last :: rest else rest
  else s :: before

/-- A path of given segments. -/
def join (absolute : Bool) (segments : List (List Char)) : List Char :=
  match absolute, segments with
  | true, segments => '/' :: ['/'].intercalate segments
  | false, [] => ['.']
  | false, segments => ['/'].intercalate segments

/-- The segments of the normal form of a path. -/
def normalSegments (path : List Char) : List (List Char) :=
  ((segments path).foldl (follow (isAbsolute path)) []).reverse

/-- The normal form of a path. -/
def normalizeChars (path : List Char) : List Char := join (isAbsolute path) (normalSegments path)

/-- The normal form of a path. -/
def normalize (path : String) : String := String.ofList (normalizeChars path.toList)

/-- The normal form of a path as it is seen from a directory. -/
def seenFrom (directory path : String) : String :=
  if isAbsolute path.toList then normalize path else normalize (directory ++ "/" ++ path)

/-- The directory of a file.  A path without segments lies in the working
directory. -/
def directory (path : String) : String :=
  let cs := path.toList
  match segments cs with
  | [] => "."
  | s :: rest => String.ofList (join (isAbsolute cs) (s :: rest).dropLast)

/-- The name of a file, which is the last segment of its path.  A path that ends
in a double dot names no file. -/
def fileName (path : String) : String :=
  match (segments path.toList).getLast? with
  | none => ""
  | some s => if s == ['.', '.'] then "" else String.ofList s

end PageLayout.Path
