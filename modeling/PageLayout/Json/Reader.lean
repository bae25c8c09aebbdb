import PageLayout.Decimal.Reader
import PageLayout.Json.Basic

/-!
# Reading JSON

`Json.read?` reads a text that is one value with blanks around it.  Each reader
takes the text from its place on, and gives a value and the rest.

A number without a fraction and an exponent is an integer, if 64 bits are enough
for it.  Any other number is computed in doubles: as many of its digits as fit
into 64 bits, times a power of ten.  The result may differ from the nearest
double in its last digit.
-/

namespace PageLayout.Json

/-! ## Blanks -/

/-- Whether a character may stand between two tokens. -/
def isSpace (c : Char) : Bool := c == ' ' || c == '\n' || c == '\t' || c == '\r'

/-- A text without the blanks in front. -/
def skip (cs : List Char) : List Char := cs.dropWhile isSpace

/-! ## Numbers -/

/-- The greatest number of digits that are kept is that of this number. -/
def greatestSignificand : Nat := UInt64.size - 1

/-- The digits of a number that are kept, as a number, and the count of those
that are not. -/
def gather : (kept : Nat) → List Char → Nat × List Char
  | kept, [] => (kept, [])
  | kept, c :: cs =>
      let longer := 10 * kept + Decimal.digitValue c
      if greatestSignificand < longer then (kept, c :: cs) else gather longer cs

/-- A power of ten that is a double. -/
def powerOfTen (n : Nat) : Float := Float.ofScientific 1 false n

/-- The greatest power of ten that is a double. -/
def greatestPower : Nat := 308

/-- A double divided by a power of ten, in steps that are themselves doubles. -/
def divideByPower (x : Float) : (steps : Nat) → (power : Nat) → Float
  | 0, power => x / powerOfTen power
  | steps + 1, power =>
      if power ≤ greatestPower then x / powerOfTen power
      else if x == 0.0 then x
      else divideByPower (x / powerOfTen greatestPower) steps (power - greatestPower)

/-- A double times a power of ten, if that is a double. -/
def scale? (x : Float) (power : Int) : Option Float :=
  match power with
  | .negSucc n => some (divideByPower x (n / greatestPower + 1) (n + 1))
  | .ofNat n =>
      if n ≤ greatestPower then
        let y := x * powerOfTen n
        if y.isInf then none else some y
      else if x == 0.0 then some x
      else none

/-- The limits of an exponent that is not read as the greatest or the least. -/
def greatestExponent : Nat := 0x7FFFFFFF

/-- An exponent: the mark, an optional sign and digits.  Without a mark it is
zero. -/
def readExponent? (cs : List Char) : Option (Int × List Char) :=
  match cs with
  | c :: rest =>
      if c == 'e' || c == 'E' then
        let (negative, rest) := Decimal.splitSign rest
        let digits := rest.takeWhile Decimal.isDigit
        if digits.isEmpty then none
        else
          let n : Int := Decimal.spell digits
          some (if negative then -n else n, rest.dropWhile Decimal.isDigit)
      else some (0, cs)
  | [] => some (0, cs)

/-- A fraction: the point and digits.  Without a point there are no digits. -/
def readFraction? (cs : List Char) : Option (List Char × List Char) :=
  match cs with
  | '.' :: rest =>
      let digits := rest.takeWhile Decimal.isDigit
      if digits.isEmpty then none else some (digits, rest.dropWhile Decimal.isDigit)
  | cs => some ([], cs)

/-- The value of a number that is no integer of 64 bits. -/
def realOf (negative : Bool) (whole fraction : List Char) (exponent : Int) : Json :=
  let (kept, droppedWhole) := gather 0 whole
  let (kept, droppedFraction) := gather kept fraction
  let power := exponent + droppedWhole.length - (fraction.length - droppedFraction.length : Nat)
  let magnitude : Option Float :=
    if greatestExponent < exponent.natAbs then
      if kept != 0 && 0 < exponent then none else some 0.0
    else scale? (Float.ofNat kept) power
  match magnitude with
  | some x => .real (if negative then -x else x)
  | none => .broken

/-- The value of an integer, or of a number that is too large for one. -/
def integerOf (negative : Bool) (digits : List Char) : Json :=
  let n := Decimal.spell digits
  if negative then
    if n == 0 then .real (-0.0)
    else if n ≤ Decimal.leastInt.natAbs then .int (-(n : Int))
    else realOf negative digits [] 0
  else if n ≤ greatestSignificand then .int n
  else realOf negative digits [] 0

/-- A number, and the rest. -/
def readNumber? (cs : List Char) : Option (Json × List Char) := do
  let (negative, cs) := match cs with
    | '-' :: cs => (true, cs)
    | cs => (false, cs)
  let whole := cs.takeWhile Decimal.isDigit
  let rest := cs.dropWhile Decimal.isDigit
  if whole.isEmpty || (whole.length != 1 && whole.head? == some '0') then none
  else
    let (fraction, rest) ← readFraction? rest
    let marked := rest.head? == some 'e' || rest.head? == some 'E'
    let (exponent, rest) ← readExponent? rest
    let value :=
      if fraction.isEmpty && !marked then integerOf negative whole
      else realOf negative whole fraction exponent
    some (value, rest)

/-! ## Strings -/

/-- The value of a hexadecimal digit. -/
def hexValue? (c : Char) : Option Nat :=
  if Decimal.isDigit c then some (Decimal.digitValue c)
  else if 'a' ≤ c && c ≤ 'f' then some (c.toNat - 'a'.toNat + 10)
  else if 'A' ≤ c && c ≤ 'F' then some (c.toNat - 'A'.toNat + 10)
  else none

/-- The number that four hexadecimal digits spell, and the rest. -/
def readUnit? : List Char → Option (Nat × List Char)
  | a :: b :: c :: d :: rest => do
      let a ← hexValue? a
      let b ← hexValue? b
      let c ← hexValue? c
      let d ← hexValue? d
      some (((a * 16 + b) * 16 + c) * 16 + d, rest)
  | _ => none

/-- The character that a letter after a backslash stands for. -/
def escaped? (c : Char) : Option Char :=
  if c == '"' || c == '\\' || c == '/' then some c
  else if c == 'b' then some '\x08'
  else if c == 'f' then some '\x0c'
  else if c == 'n' then some '\n'
  else if c == 'r' then some '\r'
  else if c == 't' then some '\t'
  else none

/-- A character or half of a surrogate pair. -/
inductive Piece where
  /-- A character. -/
  | char (c : Char)
  /-- The first half of a pair. -/
  | high (unit : Nat)
  /-- The second half of a pair. -/
  | low (unit : Nat)

/-- The piece that a unit of 16 bits stands for. -/
def Piece.ofUnit (unit : Nat) : Piece :=
  if 0xD800 ≤ unit && unit < 0xDC00 then .high unit
  else if 0xDC00 ≤ unit && unit < 0xE000 then .low unit
  else .char (Char.ofNat unit)

/-- The pieces of a string up to its closing quote, and the rest. -/
def readPieces? (cs : List Char) : Option (List Piece × List Char) :=
  match cs with
  | [] => none
  | '"' :: rest => some ([], rest)
  | '\\' :: 'u' :: a :: b :: c :: d :: rest => do
      let (unit, _) ← readUnit? [a, b, c, d]
      let (pieces, rest) ← readPieces? rest
      some (.ofUnit unit :: pieces, rest)
  | '\\' :: c :: rest => do
      let c ← escaped? c
      let (pieces, rest) ← readPieces? rest
      some (.char c :: pieces, rest)
  | c :: rest =>
      if c.toNat < 0x20 then none
      else (readPieces? rest).map fun (pieces, rest) => (.char c :: pieces, rest)

/-- The characters of some pieces, if every half of a pair has the other. -/
def joinPieces : List Piece → Option (List Char)
  | [] => some []
  | .char c :: rest => (joinPieces rest).map (c :: ·)
  | .high h :: .low l :: rest =>
      (joinPieces rest).map (Char.ofNat (0x10000 + (h - 0xD800) * 0x400 + (l - 0xDC00)) :: ·)
  | _ => none

/-! ## Values -/

/-- A word and its value, if the text starts with it. -/
def readWord? (word : String) (value : Json) (cs : List Char) : Option (Json × List Char) :=
  if word.toList.isPrefixOf cs then some (value, cs.drop word.length) else none

mutual

/-- A value, and the rest.  The number bounds the tokens that are read. -/
def readValue : (tokens : Nat) → List Char → Option (Json × List Char)
  | 0, _ => none
  | tokens + 1, cs =>
      match skip cs with
      | '[' :: rest =>
          match skip rest with
          | ']' :: rest => some (.list [], rest)
          | rest => (readItems tokens rest).map fun (items, rest) => (.list items, rest)
      | '\x7b' :: rest =>
          match skip rest with
          | '\x7d' :: rest => some (.record [], rest)
          | rest => (readFields tokens rest).map fun (fields, rest) => (.record fields, rest)
      | '"' :: rest =>
          (readPieces? rest).map fun (pieces, rest) =>
            match joinPieces pieces with
            | some cs => (.text (String.ofList cs), rest)
            | none => (.broken, rest)
      | 'n' :: rest => readWord? "null" .null ('n' :: rest)
      | 't' :: rest => readWord? "true" (.bool true) ('t' :: rest)
      | 'f' :: rest => readWord? "false" (.bool false) ('f' :: rest)
      | rest => readNumber? rest

/-- The items of an array up to its closing bracket, and the rest. -/
def readItems : (tokens : Nat) → List Char → Option (List Json × List Char)
  | 0, _ => none
  | tokens + 1, cs => do
      let (item, rest) ← readValue tokens cs
      match skip rest with
      | ',' :: rest => do
          let (items, rest) ← readItems tokens rest
          some (item :: items, rest)
      | ']' :: rest => some ([item], rest)
      | _ => none

/-- The fields of an object up to its closing brace, and the rest. -/
def readFields : (tokens : Nat) → List Char → Option (List (String × Json) × List Char)
  | 0, _ => none
  | tokens + 1, cs =>
      match skip cs with
      | '"' :: rest => do
          let (pieces, rest) ← readPieces? rest
          let name ← joinPieces pieces
          match skip rest with
          | ':' :: rest => do
              let (value, rest) ← readValue tokens rest
              match skip rest with
              | ',' :: rest => do
                  let (fields, rest) ← readFields tokens rest
                  some ((String.ofList name, value) :: fields, rest)
              | '\x7d' :: rest => some ([(String.ofList name, value)], rest)
              | _ => none
          | _ => none
      | _ => none

end

/-- The value that a text spells.  Every token takes a character, so the length of
the text bounds their number. -/
def read? (text : String) : Option Json :=
  match readValue (2 * text.length + 2) text.toList with
  | some (value, rest) => if (skip rest).isEmpty then some value else none
  | none => none

end PageLayout.Json
