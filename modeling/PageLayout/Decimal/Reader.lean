import PageLayout.Decimal.Binary

/-!
# Reading numbers

`Decimal.read?` reads a number as it is written in a page description: an
optional sign, then digits with an optional point and an optional power of ten,
or one of the words for the numbers without digits.  At least one digit has to
stand before or after the point.  No blanks are allowed.  The double is the one
nearest to the decimal.

`Decimal.readInt64?` reads an integer of 64 bits, and `Decimal.readCount?` a
natural number of 64 bits.
-/

namespace PageLayout.Decimal

/-! ## Digits -/

/-- Whether a character is one of the digits from `0` to `9`. -/
def isDigit (c : Char) : Bool := '0' ≤ c && c ≤ '9'

/-- The value of a digit. -/
def digitValue (c : Char) : Nat := c.toNat - '0'.toNat

/-- The number that a run of digits spells. -/
def spell (digits : List Char) : Nat :=
  digits.foldl (fun n c => 10 * n + digitValue c) 0

/-- A sign in front of a text, if there is one, and the rest. -/
def splitSign : List Char → Bool × List Char
  | '-' :: cs => (true, cs)
  | '+' :: cs => (false, cs)
  | cs => (false, cs)

/-! ## Integers -/

/-- A run of digits that is not empty, as a natural number. -/
def readNat? (cs : List Char) : Option Nat :=
  if cs.isEmpty || !cs.all isDigit then none else some (spell cs)

/-- The least integer of 64 bits. -/
def leastInt : Int := -0x8000000000000000

/-- The greatest integer of 64 bits. -/
def greatestInt : Int := 0x7FFFFFFFFFFFFFFF

/-- Whether an integer fits into 64 bits. -/
def fitsInt64 (n : Int) : Bool := leastInt ≤ n && n ≤ greatestInt

/-- An integer of any size, with an optional sign. -/
def readInt? (cs : List Char) : Option Int :=
  let (negative, digits) := splitSign cs
  (readNat? digits).map fun n => if negative then -(n : Int) else n

/-- An integer of 64 bits, with an optional sign. -/
def readInt64? (cs : List Char) : Option Int :=
  (readInt? cs).bind fun n => if fitsInt64 n then some n else none

/-! ## Doubles -/

/-- The double nearest to `digits · 10^power`.  A decimal whose first digit lies
beyond every double is infinite or zero without being computed. -/
def nearest (digits : Nat) (power : Int) : Float :=
  if digits == 0 then 0.0
  else
    let point := power + (Nat.toDigits 10 digits).length
    if 400 < point then 1.0 / 0.0
    else if point < -400 then 0.0
    else
      match power with
      | .ofNat k => Float.ofScientific digits false k
      | .negSucc k => Float.ofScientific digits true (k + 1)

/-- The power of ten at the end of a number: a mark, an optional sign and at
least one digit.  An empty text stands for the power zero. -/
def readPower? : List Char → Option Int
  | [] => some 0
  | c :: cs => if c == 'e' || c == 'E' then readInt? cs else none

/-- The digits of a number before and after its point, and what follows. -/
def splitDigits (cs : List Char) : List Char × List Char × List Char :=
  let whole := cs.takeWhile isDigit
  match cs.dropWhile isDigit with
  | '.' :: rest => (whole, rest.takeWhile isDigit, rest.dropWhile isDigit)
  | rest => (whole, [], rest)

/-- A text without sign as a number. -/
def readMagnitude? (cs : List Char) : Option Float :=
  let word := String.ofList (cs.map Char.toLower)
  if word == "inf" || word == "infinity" then some (1.0 / 0.0)
  else if word == "nan" then some (0.0 / 0.0)
  else
    let (whole, part, rest) := splitDigits cs
    if whole.isEmpty && part.isEmpty then none
    else (readPower? rest).map fun power => nearest (spell (whole ++ part)) (power - part.length)

/-- A number with an optional sign. -/
def read? (cs : List Char) : Option Float :=
  let (negative, rest) := splitSign cs
  (readMagnitude? rest).map fun x => if negative then -x else x

end PageLayout.Decimal
