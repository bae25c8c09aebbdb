import PageLayout.Json.Reader
import PageLayout.Text.Blank
import PageLayout.Yaml.Basic

/-!
# Reading YAML

The part of YAML that settings are written in: records and lists in lines that
are indented, records and lists in brackets, and scalars with or without quotes.
There are no anchors, tags, block scalars or directives, and one document at
most.

A reader of indented lines takes the lines from its place on.  What has been read
of the first line is replaced by spaces, so the columns stay what they were.  A
reader of brackets and quotes takes characters.  It goes over line ends.
-/

namespace PageLayout.Yaml

/-! ## Characters -/

/-- A space or a tab. -/
def isGap (c : Char) : Bool := c == ' ' || c == '\t'

/-- Whether a text ends or goes on with a gap or a line end. -/
def atGap : List Char → Bool
  | [] => true
  | c :: _ => isGap c || c == '\n'

/-- Whether a line has no more than a comment. -/
def isSilent (cs : List Char) : Bool :=
  match cs.dropWhile isGap with
  | [] => true
  | c :: _ => c == '#'

/-- The rest of a text after blanks, line ends and comments. -/
def skipAll : (blank : Bool) → List Char → List Char
  | _, [] => []
  | blank, c :: cs =>
      if isGap c || c == '\n' then skipAll true cs
      else if blank && c == '#' then skipAll true (cs.dropWhile (· != '\n'))
      else c :: cs
termination_by _ cs => cs.length
decreasing_by
  · simp
  · have := (List.dropWhile_sublist (· != '\n') (l := cs)).length_le
    simp only [List.length_cons]
    omega

/-- Whether a character has a meaning of its own at the start of a scalar. -/
def isIndicator (c : Char) : Bool := ",[]\x7b\x7d#&*!|>'\"%@\x60".toList.contains c

/-- Whether a scalar without quotes can start a text. -/
def startsPlain : List Char → Bool
  | [] => false
  | c :: rest =>
      if c == '-' || c == '?' || c == ':' then !atGap rest else !isIndicator c

/-! ## Quotes -/

/-- A text with its line ends folded: one becomes a space, and more become one
less. -/
def fold : List Char → List Char
  | [] => []
  | c :: cs =>
      if c == '\n' then
        let ends := 1 + ((cs.takeWhile fun c => isGap c || c == '\n').filter (· == '\n')).length
        let rest := cs.dropWhile fun c => isGap c || c == '\n'
        (if ends == 1 then [' '] else List.replicate (ends - 1) '\n') ++ fold rest
      else if isGap c && (cs.dropWhile isGap).head? == some '\n' then fold (cs.dropWhile isGap)
      else c :: fold cs
termination_by cs => cs.length
decreasing_by
  · have := (List.dropWhile_sublist (fun c => isGap c || c == '\n') (l := cs)).length_le
    simp only [List.length_cons]
    omega
  · have := (List.dropWhile_sublist isGap (l := cs)).length_le
    simp only [List.length_cons]
    omega
  · simp

/-- The text up to a single quote that is not doubled, and the rest. -/
def readSingle? : List Char → Option (List Char × List Char)
  | [] => none
  | '\'' :: '\'' :: rest => (readSingle? rest).map fun (s, rest) => ('\'' :: s, rest)
  | '\'' :: rest => some ([], rest)
  | c :: rest => (readSingle? rest).map fun (s, rest) => (c :: s, rest)

/-- The character that a letter after a backslash stands for. -/
def escaped? (c : Char) : Option Char :=
  match c with
  | '0' => some '\x00'
  | 'a' => some '\x07'
  | 'b' => some '\x08'
  | 't' => some '\t'
  | '\t' => some '\t'
  | 'n' => some '\n'
  | 'v' => some '\x0b'
  | 'f' => some '\x0c'
  | 'r' => some '\r'
  | 'e' => some '\x1b'
  | ' ' => some ' '
  | '"' => some '"'
  | '/' => some '/'
  | '\\' => some '\\'
  | 'N' => some '\u0085'
  | '_' => some '\u00a0'
  | 'L' => some '\u2028'
  | 'P' => some '\u2029'
  | _ => none

/-- The number of digits of a character that is named by its number. -/
def codeLength? (c : Char) : Option Nat :=
  if c == 'x' then some 2 else if c == 'u' then some 4 else if c == 'U' then some 8 else none

/-- The character of a number. -/
def charOf? (code : Nat) : Option Char :=
  let c := Char.ofNat code
  if c.toNat == code then some c else none

/-- The text up to the next double quote, and the rest. -/
def readDouble? (cs : List Char) : Option (List Char × List Char) :=
  match cs with
  | [] => none
  | '"' :: rest => some ([], rest)
  | '\\' :: c :: rest =>
      match codeLength? c with
      | some n => do
          let code ← spellIn? 16 (rest.take n)
          let c ← charOf? code
          let (s, rest) ← readDouble? (rest.drop n)
          some (c :: s, rest)
      | none => do
          let c ← escaped? c
          let (s, rest) ← readDouble? rest
          some (c :: s, rest)
  | c :: rest => (readDouble? rest).map fun (s, rest) => (c :: s, rest)
termination_by cs.length
decreasing_by all_goals simp; try omega

/-- A scalar in quotes, after the first of them, and the rest. -/
def readQuoted? (quote : Char) (cs : List Char) : Option (Yaml × List Char) := do
  let (s, rest) ← if quote == '"' then readDouble? cs else readSingle? cs
  some (.scalar false (String.ofList (fold s)), rest)

/-! ## Brackets -/

/-- Whether a character ends or separates what stands in brackets. -/
def isBracketMark (c : Char) : Bool := ",[]\x7b\x7d".toList.contains c

/-- The characters of a scalar without quotes inside brackets, and the rest. -/
def splitPlain : List Char → List Char × List Char
  | [] => ([], [])
  | c :: cs =>
      if isBracketMark c then ([], c :: cs)
      else if c == ':' && (atGap cs || isBracketMark (cs.headD ' ')) then ([], c :: cs)
      else if isGap c && cs.head? == some '#' then ([], c :: cs)
      else
        let (s, rest) := splitPlain cs
        (c :: s, rest)

mutual

/-- A value inside brackets, and the rest.  The number bounds the tokens. -/
def readFlow? : (tokens : Nat) → List Char → Option (Yaml × List Char)
  | 0, _ => none
  | tokens + 1, cs =>
      match skipAll true cs with
      | '[' :: rest => (readItems? tokens rest).map fun (items, rest) => (.list items, rest)
      | '\x7b' :: rest => (readFields? tokens rest).map fun (fields, rest) => (.record fields, rest)
      | '"' :: rest => readQuoted? '"' rest
      | '\'' :: rest => readQuoted? '\'' rest
      | cs =>
          let (s, rest) := splitPlain cs
          if startsPlain cs && !s.isEmpty then
            some (.scalar true (String.ofList (fold (Text.trim s))), rest)
          else none

/-- The items of a list up to its closing bracket, and the rest. -/
def readItems? : (tokens : Nat) → List Char → Option (List Yaml × List Char)
  | 0, _ => none
  | tokens + 1, cs =>
      match skipAll true cs with
      | ']' :: rest => some ([], rest)
      | cs => do
          let (item, rest) ← readFlow? tokens cs
          let (item, rest) ← readPair? tokens item (skipAll false rest)
          match rest with
          | ',' :: rest => do
              let (items, rest) ← readItems? tokens rest
              some (item :: items, rest)
          | ']' :: rest => some ([item], rest)
          | _ => none

/-- An item of a list.  One that a colon follows is the name of a field. -/
def readPair? : (tokens : Nat) → Yaml → List Char → Option (Yaml × List Char)
  | 0, _, _ => none
  | tokens + 1, item, ':' :: rest => do
      let name ← item.toText?
      let (value, rest) ← readFlow? tokens rest
      some (.record [(name, value)], skipAll false rest)
  | _, item, rest => some (item, rest)

/-- The fields of a record up to its closing brace, and the rest. -/
def readFields? : (tokens : Nat) → List Char → Option (List (String × Yaml) × List Char)
  | 0, _ => none
  | tokens + 1, cs =>
      match skipAll true cs with
      | '\x7d' :: rest => some ([], rest)
      | cs => do
          let (key, rest) ← readFlow? tokens cs
          let name ← key.toText?
          let (value, rest) ← readFieldValue? tokens (skipAll false rest)
          match skipAll false rest with
          | ',' :: rest => do
              let (fields, rest) ← readFields? tokens rest
              some ((name, value) :: fields, rest)
          | '\x7d' :: rest => some ([(name, value)], rest)
          | _ => none

/-- The value after the name of a field.  It may be left out. -/
def readFieldValue? : (tokens : Nat) → List Char → Option (Yaml × List Char)
  | 0, _ => none
  | tokens + 1, ':' :: rest =>
      match skipAll true rest with
      | ',' :: rest => some (empty, ',' :: rest)
      | '\x7d' :: rest => some (empty, '\x7d' :: rest)
      | rest => readFlow? tokens rest
  | _, rest => some (empty, rest)

end

/-! ## Lines -/

/-- The number of spaces in front of a line. -/
def depth (line : List Char) : Nat := (line.takeWhile (· == ' ')).length

/-- A text behind a number of spaces. -/
def behind (spaces : Nat) (text : List Char) : List Char := List.replicate spaces ' ' ++ text

/-- The lines from the first one that says something on. -/
def skipSilent (lines : List (List Char)) : List (List Char) := lines.dropWhile isSilent

/-- Whether a text is an item of a list. -/
def isItem : List Char → Bool
  | '-' :: rest => atGap rest
  | _ => false

/-- The name of a field without quotes, and the text after its colon. -/
def splitName? : List Char → Option (List Char × List Char)
  | [] => none
  | ':' :: rest =>
      if atGap rest then some ([], rest)
      else (splitName? rest).map fun (s, rest) => (':' :: s, rest)
  | c :: rest =>
      if isGap c && rest.head? == some '#' then none
      else (splitName? rest).map fun (s, rest) => (c :: s, rest)

/-- The name of a field, and the text after its colon. -/
def readName? (cs : List Char) : Option (String × List Char) :=
  let quoted (q : Char) (rest : List Char) : Option (String × List Char) := do
    let (name, rest) ← readQuoted? q rest
    match rest.dropWhile isGap with
    | ':' :: rest => if atGap rest then name.toText?.map fun name => (name, rest) else none
    | _ => none
  match cs with
  | '"' :: rest => quoted '"' rest
  | '\'' :: rest => quoted '\'' rest
  | cs =>
      if startsPlain cs then
        (splitName? cs).map fun (name, rest) => (String.ofList (Text.trim name), rest)
      else none

/-- The text of a line before its comment. -/
def beforeComment : (blank : Bool) → List Char → List Char
  | _, [] => []
  | blank, c :: cs => if blank && c == '#' then [] else c :: beforeComment (isGap c) cs

/-- The lines of a text. -/
def linesOf (cs : List Char) : List (List Char) := Text.splitAt (· == '\n') cs

/-- A scalar without quotes that goes on over lines, which have at least some
depth. -/
def readPlainLines? (least : Nat) (first : List Char) :
    List (List Char) → Option (List Char × List (List Char))
  | [] => some (first, [])
  | line :: rest =>
      if isSilent line || depth line < least then some (first, line :: rest)
      else if (splitName? (line.dropWhile isGap)).isSome then none
      else readPlainLines? least (first ++ ' ' :: Text.trim (beforeComment true line)) rest

/-- A value that starts on a line, after what stands in front of it.  The lines it
goes on over have at least some depth. -/
def readInline? (least : Nat) (cs : List Char) (rest : List (List Char)) :
    Option (Yaml × List (List Char)) :=
  let all := cs ++ rest.flatMap fun line => '\n' :: line
  let bracketed (result : Option (Yaml × List Char)) : Option (Yaml × List (List Char)) := do
    let (value, after) ← result
    match linesOf after with
    | [] => some (value, [])
    | line :: rest => if isSilent line then some (value, rest) else none
  match cs with
  | '[' :: _ => bracketed (readFlow? (2 * all.length + 2) all)
  | '\x7b' :: _ => bracketed (readFlow? (2 * all.length + 2) all)
  | '"' :: _ => bracketed (readFlow? 1 all)
  | '\'' :: _ => bracketed (readFlow? 1 all)
  | cs =>
      if !startsPlain cs || (splitName? cs).isSome then none
      else do
        let (s, rest) ← readPlainLines? least (Text.trim (beforeComment false cs)) rest
        some (.scalar true (String.ofList s), rest)

mutual

/-- A value in lines of at least some depth, and the rest.  The first number
bounds the values that are read. -/
def readBlock? : (values : Nat) → (least : Nat) → List (List Char) →
    Option (Yaml × List (List Char))
  | 0, _, _ => none
  | values + 1, least, lines =>
      match skipSilent lines with
      | [] => some (empty, [])
      | line :: rest =>
          let n := depth line
          let cs := line.drop n
          if n < least then some (empty, line :: rest)
          else if isItem cs then
            (readBlockItems? values n (line :: rest)).map fun (items, rest) => (.list items, rest)
          else if (readName? cs).isSome then
            (readBlockFields? values n (line :: rest)).map fun (fields, rest) =>
              (.record fields, rest)
          else readInline? least cs rest

/-- The items of a list in lines of some depth, and the rest. -/
def readBlockItems? : (values : Nat) → (column : Nat) → List (List Char) →
    Option (List Yaml × List (List Char))
  | 0, _, _ => none
  | values + 1, column, lines =>
      match skipSilent lines with
      | [] => some ([], [])
      | line :: rest =>
          if column < depth line then none
          else if depth line < column || !isItem (line.drop column) then some ([], line :: rest)
          else do
            let inner := behind (column + 1) (line.drop (column + 1))
            let (item, rest) ← readBlock? values (column + 1) (inner :: rest)
            let (items, rest) ← readBlockItems? values column rest
            some (item :: items, rest)

/-- The fields of a record in lines of some depth, and the rest. -/
def readBlockFields? : (values : Nat) → (column : Nat) → List (List Char) →
    Option (List (String × Yaml) × List (List Char))
  | 0, _, _ => none
  | values + 1, column, lines =>
      match skipSilent lines with
      | [] => some ([], [])
      | line :: rest =>
          if column < depth line then none
          else if depth line < column then some ([], line :: rest)
          else do
            let (name, after) ← readName? (line.drop column)
            let (value, rest) ←
              if !isSilent after then readInline? (column + 1) (after.dropWhile isGap) rest
              else
                match skipSilent rest with
                | next :: others =>
                    if depth next == column && isItem (next.drop column) then
                      (readBlockItems? values column (next :: others)).map fun (items, rest) =>
                        (.list items, rest)
                    else readBlock? values (column + 1) (next :: others)
                | [] => some (empty, [])
            let (fields, rest) ← readBlockFields? values column rest
            some ((name, value) :: fields, rest)

end

/-! ## Documents -/

/-- Whether a line marks the start of a document. -/
def isStart (line : List Char) : Bool :=
  match Text.dropPrefix? ['-', '-', '-'] line with
  | some rest => atGap rest
  | none => false

/-- The value of a text with one document.  A text without one is an empty
value. -/
def read? (text : String) : Option Yaml := do
  let lines := (linesOf text.toList).map Text.dropReturn
  let lines :=
    match skipSilent lines with
    | line :: rest => if isStart line then behind 3 (line.drop 3) :: rest else line :: rest
    | [] => []
  let (value, rest) ← readBlock? (2 * text.length + 2) 0 lines
  match skipSilent rest with
  | [] => some value
  | line :: rest =>
      if line == ['.', '.', '.'] && (skipSilent rest).isEmpty then some value else none

end PageLayout.Yaml
