/-!
# Blank characters and the pieces of a text

A *blank* is a character with the Unicode property `White_Space`.  Blanks
separate words and are cut off at both ends of almost every piece of a page
description.  Scanning works on lists of characters.  The functions here come
in two forms: the scanner on `List Char`, and its wrapper on `String`.

* `trim` cuts the blanks off both ends, `trimStart` and `trimEnd` off one.
* `words` are the maximal runs of characters that are not blank.
* `lines` are the pieces between line feeds.  A carriage return before the
  line feed belongs to the line end, and a last piece that is empty is no line.
* `splitOnce` cuts at the first occurrence of a separator.
-/

namespace PageLayout

/-! ## Blanks -/

/-- Whether a character has the Unicode property `White_Space`. -/
def isBlank (c : Char) : Bool :=
  let n := c.toNat
  (9 ≤ n && n ≤ 13) || n == 0x20 || n == 0x85 || n == 0xA0 || n == 0x1680 ||
    (0x2000 ≤ n && n ≤ 0x200A) || n == 0x2028 || n == 0x2029 || n == 0x202F ||
    n == 0x205F || n == 0x3000

/-- Whether a character is not blank. -/
abbrev isInk (c : Char) : Bool := !isBlank c

namespace Text

/-- A text without the blanks in front. -/
def trimStart (cs : List Char) : List Char := cs.dropWhile isBlank

/-- A text without the characters of a class at its end. -/
def dropEndWhile (p : Char → Bool) : List Char → List Char
  | [] => []
  | c :: cs =>
      match dropEndWhile p cs with
      | [] => if p c then [] else [c]
      | d :: ds => c :: d :: ds

/-- A text without the blanks at its end. -/
def trimEnd (cs : List Char) : List Char := dropEndWhile isBlank cs

/-- A text without the blanks at either end. -/
def trim (cs : List Char) : List Char := trimEnd (trimStart cs)

/-! ## Prefixes and suffixes -/

/-- The rest of a text after a given beginning. -/
def dropPrefix? : List Char → List Char → Option (List Char)
  | [], cs => some cs
  | _ :: _, [] => none
  | p :: ps, c :: cs => if p = c then dropPrefix? ps cs else none

/-- The part of a text before a given end. -/
def dropSuffix? (suffix cs : List Char) : Option (List Char) :=
  (dropPrefix? suffix.reverse cs.reverse).map List.reverse

/-- The parts of a text before and after the first occurrence of a separator.
The separator is not empty at any use. -/
def splitOnce (sep : List Char) : List Char → Option (List Char × List Char)
  | [] => none
  | c :: cs =>
      match dropPrefix? sep (c :: cs) with
      | some rest => some ([], rest)
      | none => (splitOnce sep cs).map fun (before, after) => (c :: before, after)

/-- Whether a text occurs in another. -/
def occursIn (needle : List Char) : List Char → Bool
  | [] => needle.isEmpty
  | c :: cs => (dropPrefix? needle (c :: cs)).isSome || occursIn needle cs

theorem length_trimStart_le (cs : List Char) : (trimStart cs).length ≤ cs.length :=
  (List.dropWhile_sublist _).length_le

theorem length_dropPrefix? {p cs rest : List Char} (h : dropPrefix? p cs = some rest) :
    rest.length + p.length = cs.length := by
  induction p generalizing cs with
  | nil => simp_all [dropPrefix?]
  | cons c p ih =>
    cases cs with
    | nil => simp [dropPrefix?] at h
    | cons d ds =>
      simp only [dropPrefix?] at h
      split at h
      · have := ih h
        simp only [List.length_cons]
        omega
      · simp at h

theorem length_splitOnce {sep cs before after : List Char}
    (h : splitOnce sep cs = some (before, after)) : after.length ≤ cs.length := by
  induction cs generalizing before after with
  | nil => simp [splitOnce] at h
  | cons c cs ih =>
    unfold splitOnce at h
    split at h
    · next rest hrest =>
      simp only [Option.some.injEq, Prod.mk.injEq] at h
      have := length_dropPrefix? hrest
      rw [← h.2]
      omega
    · next hnone =>
      simp only [Option.map_eq_some_iff] at h
      obtain ⟨⟨x, y⟩, hxy, hx⟩ := h
      simp only [Prod.mk.injEq] at hx
      rw [← hx.2]
      exact Nat.le_succ_of_le (ih hxy)

/-! ## Words, items and lines -/

/-- The pieces of a text between the characters of a class.  There is one more
piece than there are such characters. -/
def splitAt (p : Char → Bool) : List Char → List (List Char)
  | [] => [[]]
  | c :: cs =>
      if p c then [] :: splitAt p cs
      else
        match splitAt p cs with
        | [] => [[c]]
        | piece :: pieces => (c :: piece) :: pieces

/-- The maximal runs of characters that are not blank. -/
def words (cs : List Char) : List (List Char) :=
  (splitAt isBlank cs).filter fun w => !w.isEmpty

/-- The first word of a text, and the rest without blanks at its ends. -/
def firstWord (cs : List Char) : List Char × List Char :=
  let cs := trimStart cs
  (cs.takeWhile isInk, trim (cs.dropWhile isInk))

/-- A line without the carriage return that belongs to its end. -/
def dropReturn (cs : List Char) : List Char :=
  (dropSuffix? ['\r'] cs).getD cs

/-- The lines of a text.  Only a line that a line feed ends gives up its
carriage return. -/
def lines (cs : List Char) : List (List Char) :=
  match (splitAt (· == '\n') cs).reverse with
  | [] => []
  | [] :: ended => (ended.map dropReturn).reverse
  | last :: ended => (last :: ended.map dropReturn).reverse

end Text

/-! ## The same on strings -/

namespace Text

/-- A string without the blanks at either end. -/
def trimmed (s : String) : String := String.ofList (trim s.toList)

end Text

end PageLayout
