import PageLayout.Pattern.Tree
import PageLayout.Text.Blank
import PageLayout.Text.Letter

/-!
# Reading patterns

A pattern is read from left to right, with a stack of the groups that are open.
Inside a class there is a stack of its own.  A text that breaks the rules is no
pattern, and nothing more is said about it.

* Characters stand for themselves, but for `\ . + * ? ( ) | [ { ^ $`.
* A repetition follows what it repeats: `?`, `*`, `+`, `{n}`, `{n,}` or `{n,m}`.
  A further `?` says which match is preferred and does not matter here.
* `(…)`, `(?<name>…)`, `(?P<name>…)` and `(?flags:…)` are groups, and `(?flags)`
  changes flags up to the end of the group.
* A class lists characters, ranges and other classes between brackets.  The
  operators `&&`, `--` and `~~` combine what stands to their left and right.
* Neither looking around nor referring back is possible.

While the flag `x` is set, blanks and comments in the pattern are skipped.
-/

namespace PageLayout.Pattern

/-! ## Blanks in a pattern -/

/-- A text without the blanks and comments in front.  A comment goes from `#` to
the end of the line. -/
def skipBlanks : (inComment : Bool) → List Char → List Char
  | _, [] => []
  | true, c :: cs => skipBlanks (c != '\n') cs
  | false, c :: cs =>
      if isBlank c then skipBlanks false cs
      else if c == '#' then skipBlanks true cs
      else c :: cs

/-- A text without what is skipped in front of it. -/
def skip (spaced : Bool) (cs : List Char) : List Char :=
  if spaced then skipBlanks false cs else cs

theorem length_skipBlanks_le (b : Bool) (cs : List Char) :
    (skipBlanks b cs).length ≤ cs.length := by
  induction cs generalizing b with
  | nil => cases b <;> simp [skipBlanks]
  | cons c cs ih =>
    cases b with
    | true => exact Nat.le_succ_of_le (ih _)
    | false =>
      simp only [skipBlanks]
      split
      · exact Nat.le_succ_of_le (ih _)
      · split
        · exact Nat.le_succ_of_le (ih _)
        · exact Nat.le_refl _

theorem length_skip_le (spaced : Bool) (cs : List Char) : (skip spaced cs).length ≤ cs.length := by
  unfold skip
  split
  · exact length_skipBlanks_le _ _
  · exact Nat.le_refl _

/-- The characters up to a closing brace, without what is skipped, and the
rest. -/
def readBraced (spaced : Bool) (cs : List Char) : Option (List Char × List Char) :=
  match h : skip spaced cs with
  | [] => none
  | c :: rest =>
      if c == '\x7d' then some ([], rest)
      else
        have : rest.length < cs.length := by
          have := length_skip_le spaced cs
          rw [h] at this
          exact this
        (readBraced spaced rest).map fun (inner, rest) => (c :: inner, rest)
termination_by cs.length

/-! ## Escapes -/

/-- The characters with a meaning of their own. -/
def isMeta (c : Char) : Bool := "\\.+*?()|[]\x7b\x7d^$#&-~".toList.contains c

/-- The characters that a backslash leaves as they are. -/
def isEscapable (c : Char) : Bool :=
  isMeta c || (c.toNat < 0x80 && !c.isAlphanum && c != '<' && c != '>')

/-- The value of a hexadecimal digit. -/
def hexDigit? (c : Char) : Option Nat :=
  if '0' ≤ c && c ≤ '9' then some (c.toNat - '0'.toNat)
  else if 'a' ≤ c && c ≤ 'f' then some (c.toNat - 'a'.toNat + 10)
  else if 'A' ≤ c && c ≤ 'F' then some (c.toNat - 'A'.toNat + 10)
  else none

/-- The character with a given code point. -/
def charOfCode? (n : Nat) : Option Char :=
  if n < 0xD800 || (0xE000 ≤ n && n ≤ 0x10FFFF) then some (Char.ofNat n) else none

/-- The number that hexadecimal digits spell. -/
def spellHex : (value : Nat) → List Char → Option Nat
  | value, [] => some value
  | value, c :: cs => (hexDigit? c).bind fun d => spellHex (16 * value + d) cs

/-- A given number of digits, without what is skipped, and the rest. -/
def readDigits (spaced : Bool) : (count : Nat) → List Char → Option (List Char × List Char)
  | 0, cs => some ([], cs)
  | count + 1, cs =>
      match skip spaced cs with
      | [] => none
      | c :: rest =>
          (readDigits spaced count rest).map fun (digits, rest) => (c :: digits, rest)

/-- The character of an escape with hexadecimal digits, in braces or of a given
number. -/
def readHex (spaced : Bool) (count : Nat) (cs : List Char) : Option (Tree × List Char) :=
  match skip spaced cs with
  | '\x7b' :: rest => do
      let (digits, rest) ← readBraced spaced rest
      let code ← if digits.isEmpty then none else spellHex 0 digits
      let c ← charOfCode? code
      return (.symbol ⟨c, false⟩, rest)
  | cs => do
      let (digits, rest) ← readDigits spaced count cs
      let code ← spellHex 0 digits
      let c ← charOfCode? code
      return (.symbol ⟨c, count == 2⟩, rest)

/-- The property that is asked for by a text between braces. -/
def queryOf (inner : List Char) : Bool × PropertyQuery :=
  match Text.splitOnce ['!', '='] inner with
  | some (name, value) => (true, .valued name value)
  | none =>
      match Text.splitOnce [':'] inner with
      | some (name, value) => (false, .valued name value)
      | none =>
          match Text.splitOnce ['='] inner with
          | some (name, value) => (false, .valued name value)
          | none => (false, .named inner)

/-- A property after its letter. -/
def readProperty (spaced negated : Bool) (cs : List Char) : Option (Tree × List Char) :=
  match skip spaced cs with
  | [] => none
  | '\x7b' :: rest => do
      let (inner, rest) ← readBraced spaced rest
      let (flipped, query) := queryOf inner
      return (.property (negated != flipped) query, rest)
  | '\\' :: _ => none
  | c :: rest => some (.property negated (.named [c]), rest)

/-- The kind of word edge that is named after `\b`. -/
def edgeOf? : String → Option WordEdge
  | "start" => some .start
  | "end" => some .stop
  | "start-half" => some .afterNoWord
  | "end-half" => some .beforeNoWord
  | _ => none

/-- A letter or a hyphen, as in the names of word edges. -/
def isEdgeNamePart (c : Char) : Bool := isLatinLetter c || c == '-'

/-- A word edge after its letter.  Braces that do not start with a letter or a
hyphen are a repetition. -/
def readEdge (spaced : Bool) (cs : List Char) : Option (Tree × List Char) :=
  match cs with
  | '\x7b' :: rest =>
      match skip spaced rest with
      | [] => none
      | c :: _ =>
          if isEdgeNamePart c then do
            let (name, rest) ← readBraced spaced rest
            let edge ← if name.all isEdgeNamePart then edgeOf? (String.ofList name) else none
            return (.anchor (.word edge), rest)
          else some (.anchor (.word .oneSide), cs)
  | cs => some (.anchor (.word .oneSide), cs)

/-- What a backslash introduces, and the rest. -/
def readEscape (spaced : Bool) : List Char → Option (Tree × List Char)
  | [] => none
  | c :: cs =>
      let plain := fun (c : Char) => some (Tree.symbol ⟨c, false⟩, cs)
      match c with
      | 'x' => readHex spaced 2 cs
      | 'u' => readHex spaced 4 cs
      | 'U' => readHex spaced 8 cs
      | 'p' => readProperty spaced false cs
      | 'P' => readProperty spaced true cs
      | 'd' => some (.shorthand false .digit, cs)
      | 's' => some (.shorthand false .space, cs)
      | 'w' => some (.shorthand false .word, cs)
      | 'D' => some (.shorthand true .digit, cs)
      | 'S' => some (.shorthand true .space, cs)
      | 'W' => some (.shorthand true .word, cs)
      | 'a' => plain '\x07'
      | 'f' => plain '\x0c'
      | 't' => plain '\t'
      | 'n' => plain '\n'
      | 'r' => plain '\r'
      | 'v' => plain '\x0b'
      | 'A' => some (.anchor .textStart, cs)
      | 'z' => some (.anchor .textEnd, cs)
      | 'b' => readEdge spaced cs
      | 'B' => some (.anchor (.word .evenSides), cs)
      | '<' => some (.anchor (.word .start), cs)
      | '>' => some (.anchor (.word .stop), cs)
      | c => if isEscapable c then plain c else none

/-! ## Classes -/

/-- The names of the classes of ASCII characters. -/
def asciiClassNames : List String :=
  ["alnum", "alpha", "ascii", "blank", "cntrl", "digit", "graph", "lower", "print", "punct",
   "space", "upper", "word", "xdigit"]

/-- A class of ASCII characters after its opening bracket, if it is one. -/
def readAsciiClass : List Char → Option (ClassTree × List Char)
  | ':' :: cs =>
      let (negated, cs) :=
        match cs with
        | '^' :: rest => (true, rest)
        | cs => (false, cs)
      let name := cs.takeWhile (· != ':')
      match cs.dropWhile (· != ':') with
      | ':' :: ']' :: rest =>
          if asciiClassNames.contains (String.ofList name) then some (.ascii negated name, rest)
          else none
      | _ => none
  | _ => none

/-- The hyphens at the start of a class, and the rest. -/
def readHyphens (spaced : Bool) (cs : List Char) : List ClassTree × List Char :=
  match h : skip spaced cs with
  | '-' :: rest =>
      have : rest.length < cs.length := by
        have := length_skip_le spaced cs
        rw [h] at this
        exact this
      let (hyphens, rest) := readHyphens spaced rest
      (.symbol ⟨'-', false⟩ :: hyphens, rest)
  | cs => ([], cs)
termination_by cs.length

/-- The start of a class after its bracket: whether it is negated, and the items
that have a meaning of their own elsewhere. -/
def readClassStart (spaced : Bool) (cs : List Char) : Option (Bool × List ClassTree × List Char) :=
  let (negated, cs) :=
    match skip spaced cs with
    | '^' :: rest => (true, rest)
    | cs => (false, cs)
  match readHyphens spaced cs with
  | (_, []) => none
  | ([], ']' :: rest) => some (negated, [.symbol ⟨']', false⟩], rest)
  | (hyphens, rest) => some (negated, hyphens, rest)

/-- A single item of a class. -/
def readClassItem (spaced : Bool) : List Char → Option (Tree × List Char)
  | [] => none
  | '\\' :: cs => readEscape spaced cs
  | c :: cs => some (.symbol ⟨c, false⟩, cs)

/-- An item of a class that is no end of a range. -/
def itemOf? : Tree → Option ClassTree
  | .symbol s => some (.symbol s)
  | .shorthand negated kind => some (.shorthand negated kind)
  | .property negated query => some (.property negated query)
  | _ => none

/-- The range between two items. -/
def rangeOf? : Tree → Tree → Option ClassTree
  | .symbol low, .symbol high => if low.char ≤ high.char then some (.range low high) else none
  | _, _ => none

/-- An item of a class, or a range.  A hyphen before a bracket or another hyphen
makes no range. -/
def readClassRange (spaced : Bool) (cs : List Char) : Option (ClassTree × List Char) := do
  let (first, rest) ← readClassItem spaced cs
  match skip spaced rest with
  | [] => none
  | '-' :: after =>
      match skip spaced after with
      | [] => none
      | ']' :: _ => (itemOf? first).map fun item => (item, '-' :: after)
      | '-' :: _ => (itemOf? first).map fun item => (item, '-' :: after)
      | second => do
          let (last, rest) ← readClassItem spaced second
          let range ← rangeOf? first last
          return (range, rest)
  | rest => (itemOf? first).map fun item => (item, rest)

/-- What is still open inside a class. -/
inductive ClassFrame where
  /-- A class, and the items before it in the class around it, the last one
  first. -/
  | opened (negated : Bool) (before : List ClassTree)
  /-- An operator and what stands to its left. -/
  | combining (op : SetOperator) (left : ClassTree)

/-- Items, the last one first, with the operator before them. -/
def closeOperator (items : List ClassTree) : List ClassFrame → ClassTree × List ClassFrame
  | .combining op left :: frames => (.combined op left (.ofItems items.reverse), frames)
  | frames => (.ofItems items.reverse, frames)

/-- Reads up to the end of the outermost class.  Every step uses up a character,
and `fuel` is no less than their number. -/
def readClassFrom (spaced : Bool) : (fuel : Nat) → List ClassFrame → List ClassTree →
    List Char → Option (Tree × List Char)
  | 0, _, _, _ => none
  | fuel + 1, frames, items, cs =>
      let combine := fun (op : SetOperator) (rest : List Char) =>
        let (left, frames) := closeOperator items frames
        readClassFrom spaced fuel (.combining op left :: frames) [] rest
      match skip spaced cs with
      | [] => none
      | '[' :: rest =>
          match readAsciiClass rest with
          | some (item, rest) => readClassFrom spaced fuel frames (item :: items) rest
          | none => do
              let (negated, first, rest) ← readClassStart spaced rest
              readClassFrom spaced fuel (.opened negated items :: frames) first.reverse rest
      | ']' :: rest =>
          match closeOperator items frames with
          | (inner, [.opened negated _]) => some (.bracket negated inner, rest)
          | (inner, .opened negated before :: frames) =>
              readClassFrom spaced fuel frames (.bracket negated inner :: before) rest
          | _ => none
      | '&' :: '&' :: rest => combine .intersection rest
      | '-' :: '-' :: rest => combine .difference rest
      | '~' :: '~' :: rest => combine .symmetricDifference rest
      | cs => do
          let (item, rest) ← readClassRange spaced cs
          readClassFrom spaced fuel frames (item :: items) rest

/-- A class after its opening bracket. -/
def readClass (spaced : Bool) (cs : List Char) : Option (Tree × List Char) := do
  let (negated, first, rest) ← readClassStart spaced cs
  readClassFrom spaced (cs.length + 1) [.opened negated []] first.reverse rest

/-! ## Groups and flags -/

/-- The flag that a letter stands for. -/
def Flag.ofChar? : Char → Option Flag
  | 'i' => some .caseInsensitive
  | 'm' => some .multiLine
  | 's' => some .dotAll
  | 'U' => some .swapGreed
  | 'u' => some .unicode
  | 'R' => some .crlf
  | 'x' => some .spaced
  | _ => none

/-- The flags up to a colon or a parenthesis, which is returned with the rest.
No flag is named twice, and a hyphen stands once, before at least one flag. -/
def readFlags : (change : FlagChange) → (cleared dangling : Bool) → List Char →
    Option (FlagChange × Char × List Char)
  | _, _, _, [] => none
  | change, cleared, dangling, c :: cs =>
      if c == ':' || c == ')' then if dangling then none else some (change, c, cs)
      else if c == '-' then if cleared then none else readFlags change true true cs
      else
        match Flag.ofChar? c with
        | none => none
        | some flag =>
            if change.any fun e => e.1 == flag then none
            else readFlags (change ++ [(flag, !cleared)]) cleared false cs

/-- Whether a change of flags sets or clears a flag. -/
def FlagChange.lookup? (change : FlagChange) (flag : Flag) : Option Bool :=
  (change.find? fun e => e.1 == flag).map (·.2)

/-- Whether a character can stand in the name of a group. -/
def isGroupNamePart (c : Char) : Bool :=
  c == '_' || c == '.' || c == '[' || c == ']' || isLetterOrNumeral c

/-- The name of a group up to its closing angle, and the rest. -/
def readGroupName (cs : List Char) : Option (List Char × List Char) :=
  let name := cs.takeWhile (· != '>')
  match name, cs.dropWhile (· != '>') with
  | first :: others, _ :: rest =>
      if (first == '_' || isLetter first) && others.all isGroupNamePart then some (name, rest)
      else none
  | _, _ => none

/-- A group that is open, with what was read before it, the last one first. -/
structure Frame where
  /-- The parts of the branch that the group belongs to. -/
  parts : List Tree
  /-- The branches before that one. -/
  branches : List Tree
  /-- The flags of the group. -/
  change : FlagChange
  /-- Whether blanks were skipped before the group. -/
  spaced : Bool

/-- What has been read of a pattern, the last one first. -/
structure Reading where
  /-- The parts of the branch that is read. -/
  parts : List Tree := []
  /-- The branches before that one in the group. -/
  branches : List Tree := []
  /-- The groups that are open, the innermost first. -/
  frames : List Frame := []
  /-- Whether blanks are skipped. -/
  spaced : Bool := false
  /-- The names of the groups. -/
  names : List (List Char) := []

namespace Reading

/-- The reading with one more part. -/
def push (r : Reading) (t : Tree) : Reading := { r with parts := t :: r.parts }

/-- What the innermost group holds. -/
def body (r : Reading) : Tree :=
  .ofBranches (Tree.ofParts r.parts.reverse :: r.branches).reverse

/-- The reading after the start of a group. -/
def openGroup (r : Reading) (change : FlagChange) : Reading :=
  { r with
    parts := []
    branches := []
    frames := ⟨r.parts, r.branches, change, r.spaced⟩ :: r.frames
    spaced := (change.lookup? .spaced).getD r.spaced }

/-- The reading after the end of a group. -/
def closeGroup? (r : Reading) : Option Reading :=
  match r.frames with
  | [] => none
  | f :: frames =>
      some { r with
        parts := .group f.change r.body :: f.parts
        branches := f.branches
        frames
        spaced := f.spaced }

/-- The reading after a change of flags. -/
def changeFlags (r : Reading) (change : FlagChange) : Reading :=
  { r.push (.flags change) with spaced := (change.lookup? .spaced).getD r.spaced }

/-- The reading after the start of a group with a name. -/
def openNamed (r : Reading) (cs : List Char) : Option (Reading × List Char) := do
  let (name, rest) ← readGroupName cs
  if r.names.contains name then none
  else some ({ r.openGroup [] with names := name :: r.names }, rest)

/-- Reads what follows an opening parenthesis. -/
def readOpening (r : Reading) (cs : List Char) : Option (Reading × List Char) :=
  match skip r.spaced cs with
  | '?' :: '=' :: _ => none
  | '?' :: '!' :: _ => none
  | '?' :: '<' :: '=' :: _ => none
  | '?' :: '<' :: '!' :: _ => none
  | '?' :: 'P' :: '<' :: rest => r.openNamed rest
  | '?' :: '<' :: rest => r.openNamed rest
  | '?' :: rest => do
      let (change, closing, rest) ← readFlags [] false false rest
      if closing == ':' then some (r.openGroup change, rest)
      else if change.isEmpty then none
      else some (r.changeFlags change, rest)
  | cs => some (r.openGroup [], cs)

/-! ## Repetitions -/

/-- The reading with its last part repeated.  A change of flags cannot be. -/
def repeatLast? (r : Reading) (min : Nat) (max : Option Nat) : Option Reading :=
  match r.parts with
  | [] => none
  | .empty :: _ => none
  | .flags _ :: _ => none
  | t :: parts => some { r with parts := .repeated min max t :: parts }

/-- A text without the mark of a repetition that prefers few. -/
def dropLazy : List Char → List Char
  | '?' :: cs => cs
  | cs => cs

/-- The digits in front of a text, without what is skipped, and the rest. -/
def readDecimals (spaced : Bool) (cs : List Char) : List Char × List Char :=
  match cs with
  | [] => ([], [])
  | c :: rest =>
      if isLatinDigit c then
        have : (skip spaced rest).length < rest.length + 1 :=
          Nat.lt_succ_of_le (length_skip_le spaced rest)
        let (digits, rest) := readDecimals spaced (skip spaced rest)
        (c :: digits, rest)
      else ([], c :: rest)
termination_by cs.length

/-- The number of a repetition, with the blanks around it, and the rest.  There
is no number without digits, and none beyond 32 bits. -/
def readCount (spaced : Bool) (cs : List Char) : Option Nat × List Char :=
  let (digits, rest) := readDecimals spaced (cs.dropWhile isBlank)
  let rest := skip spaced (rest.dropWhile isBlank)
  let value := digits.foldl (fun n c => 10 * n + (c.toNat - '0'.toNat)) 0
  (if digits.isEmpty || UInt32.size ≤ value then none else some value, rest)

/-- A repetition in braces after its opening brace. -/
def readBounds (spaced : Bool) (cs : List Char) : Option (Nat × Option Nat × List Char) :=
  match readCount spaced (skip spaced cs) with
  | (some min, '\x7d' :: rest) => some (min, some min, rest)
  | (some min, ',' :: rest) =>
      match skip spaced rest with
      | '\x7d' :: rest => some (min, none, rest)
      | rest =>
          match readCount spaced rest with
          | (some max, '\x7d' :: rest) => if min ≤ max then some (min, some max, rest) else none
          | _ => none
  | _ => none

/-! ## Patterns -/

/-- Reads one part of a pattern that starts with `c` and goes on in `cs`. -/
def step (r : Reading) (c : Char) (cs : List Char) : Option (Reading × List Char) :=
  let part := fun (p : Option (Tree × List Char)) => p.map fun (t, rest) => (r.push t, rest)
  let repetition := fun (min : Nat) (max : Option Nat) =>
    (r.repeatLast? min max).map fun r => (r, dropLazy cs)
  match c with
  | '(' => r.readOpening cs
  | ')' => r.closeGroup?.map fun r => (r, cs)
  | '|' =>
      some ({ r with parts := [], branches := Tree.ofParts r.parts.reverse :: r.branches }, cs)
  | '[' => part (readClass r.spaced cs)
  | '?' => repetition 0 (some 1)
  | '*' => repetition 0 none
  | '+' => repetition 1 none
  | '\x7b' => do
      let (min, max, rest) ← readBounds r.spaced cs
      let r ← r.repeatLast? min max
      return (r, dropLazy (skip r.spaced rest))
  | '\\' => part (readEscape r.spaced cs)
  | '.' => some (r.push .dot, cs)
  | '^' => some (r.push (.anchor .lineStart), cs)
  | '$' => some (r.push (.anchor .lineEnd), cs)
  | c => some (r.push (.symbol ⟨c, false⟩), cs)

/-- Reads up to the end of a pattern.  Every step uses up a character, and `fuel`
is no less than their number. -/
def finish (r : Reading) : (fuel : Nat) → List Char → Option Tree
  | 0, _ => none
  | fuel + 1, cs =>
      match skip r.spaced cs with
      | [] => if r.frames.isEmpty then some r.body else none
      | c :: cs => do
          let (r, rest) ← r.step c cs
          r.finish fuel rest

end Reading

/-- How deep a pattern may be nested. -/
def depthLimit : Nat := 250

/-- The tree of a pattern. -/
def Tree.ofText? (cs : List Char) : Option Tree :=
  match Reading.finish {} (cs.length + 1) cs with
  | some t => if t.depth ≤ depthLimit then some t else none
  | none => none

end PageLayout.Pattern
