import PageLayout.Decimal.Shortest

/-!
# How a number is written

A `NumberFormat` says how the digits of a number become text: which powers of
ten are written out with zeros, whether a whole number keeps a `.0`, and what
stands for the numbers that have no digits.  Two formats are in use.

* `plain` writes every number out and keeps no `.0`.  It serves messages and
  the text of a value.
* `NumberFormat.json` keeps the `.0` and uses an exponent outside the powers
  from `-5` to `16`.  A number that has no digits is `null`.

`pixels` is the text of a length: a whole number below `10^15` is written as an
integer, so that a negative zero loses its sign.
-/

namespace PageLayout

/-- The decisions of a way to write numbers. -/
structure NumberFormat where
  /-- The least position of the point that is written out, if there is one. -/
  least? : Option Int
  /-- The greatest position of the point that is written out, if there is one. -/
  greatest? : Option Int
  /-- What follows the digits of a whole number. -/
  wholeMark : String
  /-- The text of a number that is undefined. -/
  nan : String
  /-- The text of the infinities, without sign. -/
  infinity : String
  /-- Whether a negative infinity has a sign. -/
  signedInfinity : Bool
  /-- Which of two shortest decimals is written. -/
  tie : Tie

namespace NumberFormat

/-- Every number is written out, and a whole number has no point. -/
def plain : NumberFormat := ⟨none, none, "", "NaN", "inf", true, .up⟩

/-- The numbers of a JSON text. -/
def json : NumberFormat := ⟨some (-4), some 16, ".0", "null", "null", false, .toEven⟩

/-- Whether a position of the point is written out. -/
def writesOut (f : NumberFormat) (point : Int) : Bool :=
  (f.least?.all fun p => p ≤ point) && (f.greatest?.all fun p => point ≤ p)

/-- A text of zeros. -/
def zeros (n : Nat) : String := String.ofList (List.replicate n '0')

/-- The text of a decimal. -/
def decimal (f : NumberFormat) (d : Decimal) : String :=
  let digits := Nat.toDigits 10 d.digits
  let count := digits.length
  if f.writesOut d.point then
    if d.point ≤ 0 then "0." ++ zeros (-d.point).toNat ++ String.ofList digits
    else if count ≤ d.point.toNat then
      String.ofList digits ++ zeros (d.point.toNat - count) ++ f.wholeMark
    else
      String.ofList (digits.take d.point.toNat) ++ "." ++
        String.ofList (digits.drop d.point.toNat)
  else
    let fraction := if count ≤ 1 then "" else "." ++ String.ofList (digits.drop 1)
    String.ofList (digits.take 1) ++ fraction ++ "e" ++ toString (d.point - 1)

/-- The text of a number. -/
def write (f : NumberFormat) (x : Float) : String :=
  match BinaryParts.classify x with
  | .nan => f.nan
  | .infinite negative => (if negative && f.signedInfinity then "-" else "") ++ f.infinity
  | .finite d => (if d.negative then "-" else "") ++ f.decimal (Decimal.shortest f.tie d)

end NumberFormat

namespace Number

/-- The text of a number in messages. -/
def text (x : Float) : String := NumberFormat.plain.write x

/-- The text of a length in pixels.  A whole number below `10^15` is written as
an integer. -/
def pixels (x : Float) : String :=
  match BinaryParts.ofFloat? x with
  | some d =>
      if d.isWhole && d.truncate.natAbs < Nat.pow 10 15 then toString d.truncate else text x
  | none => text x

end Number

end PageLayout
