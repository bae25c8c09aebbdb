/-!
# Doubles as exact numbers

A finite double is `± m · 2^q` for a natural number `m` and an integer `q`.
This module reads both off the bits, and builds the double of an exact
`m · 2^q` again.  Questions that need exact answers are decided on `m` and
`q`: whether a number is whole, which integer it is, and its remainder by
another number.
-/

namespace PageLayout

/-- A finite double as an exact number `± m · 2^q`. -/
structure BinaryParts where
  /-- Whether the sign bit is set. -/
  negative : Bool
  /-- The factor `m`. -/
  mantissa : Nat
  /-- The exponent `q` of the power of two. -/
  exponent : Int
deriving DecidableEq, Repr

/-- What the bits of a double say. -/
inductive DoubleClass where
  /-- No number. -/
  | nan
  /-- An infinity. -/
  | infinite (negative : Bool)
  /-- A finite number. -/
  | finite (d : BinaryParts)
deriving DecidableEq, Repr

namespace BinaryParts

/-- The bits of the significand that are stored. -/
def storedBits : Nat := 1 <<< 52

/-- The class of a double, read off its bits. -/
def classify (x : Float) : DoubleClass :=
  let bits := x.toBits.toNat
  let negative := bits.testBit 63
  let field := bits / storedBits % 2048
  let stored := bits % storedBits
  if field == 2047 then
    if stored == 0 then .infinite negative else .nan
  else if field == 0 then .finite ⟨negative, stored, -1074⟩
  else .finite ⟨negative, storedBits + stored, (field : Int) - 1075⟩

/-- The exact value of a finite double. -/
def ofFloat? (x : Float) : Option BinaryParts :=
  match classify x with
  | .finite d => some d
  | _ => none

/-- The magnitude as a fraction, numerator first. -/
def fraction (d : BinaryParts) : Nat × Nat :=
  match d.exponent with
  | .ofNat k => (d.mantissa <<< k, 1)
  | .negSucc k => (d.mantissa, 1 <<< (k + 1))

/-- Whether the number is whole. -/
def isWhole (d : BinaryParts) : Bool :=
  let (num, den) := d.fraction
  num % den == 0

/-- The integer next to the number in the direction of zero. -/
def truncate (d : BinaryParts) : Int :=
  let (num, den) := d.fraction
  if d.negative then -((num / den : Nat) : Int) else ((num / den : Nat) : Int)

/-- The double that is exactly `± m · 2^q`.  Only numbers that a double holds
exactly are given to it, with `q` no less than that of the least double. -/
def toFloat (d : BinaryParts) : Float :=
  let length := if d.mantissa == 0 then 0 else Nat.log2 d.mantissa + 1
  let sign := if d.negative then 1 <<< 63 else 0
  -- The value is `m · 2^q` with `m` scaled to 53 bits where the exponent allows it.
  let up := min (53 - length) (d.exponent + 1074).toNat
  let down := length - 53
  let m := d.mantissa <<< up >>> down
  let q := d.exponent - up + down
  let bits := if m < storedBits then m else (q + 1075).toNat * storedBits + (m - storedBits)
  Float.ofBits (UInt64.ofNat (sign + bits))

/-- The remainder of one magnitude by another, with the sign of the first, as
an exact number. -/
def remainder (a b : BinaryParts) : BinaryParts :=
  let q := min a.exponent b.exponent
  let m := a.mantissa <<< (a.exponent - q).toNat
  let n := b.mantissa <<< (b.exponent - q).toNat
  ⟨a.negative, m % n, q⟩

end BinaryParts

namespace Number

/-- Whether a number is neither infinite nor undefined. -/
def isFinite (x : Float) : Bool := (BinaryParts.ofFloat? x).isSome

/-- The remainder of a division that is carried out exactly and rounds toward
zero.  It keeps the sign of the dividend.  An infinite divisor leaves a finite
dividend as it is. -/
def remainder (x y : Float) : Float :=
  match BinaryParts.classify x, BinaryParts.classify y with
  | .finite a, .finite b =>
      if b.mantissa == 0 then 0.0 / 0.0 else (BinaryParts.remainder a b).toFloat
  | .finite _, .infinite _ => x
  | _, _ => 0.0 / 0.0

/-- The smaller of two numbers, and the second if they are equal.  One that is
undefined gives way to the other. -/
def least (x y : Float) : Float :=
  if x.isNaN then y else if y.isNaN then x else if x < y then x else y

/-- The greater of two numbers, and the second if they are equal.  One that is
undefined gives way to the other. -/
def greatest (x y : Float) : Float :=
  if x.isNaN then y else if y.isNaN then x else if y < x then x else y

end Number

end PageLayout
