import PageLayout.Error
import PageLayout.Text.Blank

/-!
# Lines and their indentation

A page description is read line by line.  Blank lines and lines that start with
`#` do not count.  A line is indented or not.  The indented lines that follow
one another form a block, and they all have the same indentation of one to eight
spaces.

`Line.scan` gives the lines that count, with their places, or the first line
whose indentation breaks these rules.
-/

namespace PageLayout

/-- The widest indentation. -/
def widestIndent : Nat := 8

/-- A line that counts. -/
structure Line where
  /-- The text without blanks at its ends. -/
  text : String
  /-- Where the line stands. -/
  place : Place
  /-- Whether the line is indented. -/
  indented : Bool
deriving DecidableEq, Repr, Inhabited

namespace Line

/-- Whether a line says nothing: it has only blanks, or its first other
character is `#`. -/
def isSilent (raw : List Char) : Bool :=
  match Text.trimStart raw with
  | [] => true
  | c :: _ => c == '#'

/-- The blanks in front of a line. -/
def margin (raw : List Char) : List Char := raw.takeWhile isBlank

/-- What is wrong with the characters of a margin. -/
def marginFault? (m : List Char) : Option IndentFault :=
  if m.contains '\t' then some .tab
  else if m.any (· != ' ') then some .notSpaces
  else none

/-- What is wrong with the width of a margin below a line of another. -/
def widthFault? (above width : Nat) : Option IndentFault :=
  if width == 0 then none
  else if above == 0 then if widestIndent < width then some .tooWide else none
  else if width != above then some .uneven
  else none

/-- The lines of a file that count.  `above` is the indentation of the last one
before them, and `number` the number of the first. -/
def scanFrom (file : String) : (above number : Nat) → List (List Char) →
    Except LayoutError (List Line)
  | _, _, [] => .ok []
  | above, number, raw :: rest =>
      if isSilent raw then scanFrom file above (number + 1) rest
      else
        let place : Place := ⟨file, number⟩
        let width := (margin raw).length
        match (marginFault? (margin raw)).or (widthFault? above width) with
        | some cause => .error (.indentation cause place)
        | none => do
            let lines ← scanFrom file width (number + 1) rest
            return ⟨String.ofList (Text.trim raw), place, width != 0⟩ :: lines

/-- The lines of a text that count.  The first line has the number after
`offset`. -/
def scan (text file : String) (offset : Nat) : Except LayoutError (List Line) :=
  scanFrom file 0 (offset + 1) (Text.lines text.toList)

end Line

end PageLayout
