import PageLayout.Decimal.Binary

/-!
# The shortest decimal of a double

The decimal written for a double has the fewest digits among the decimals that
round to it, and of those it is the nearest.  Two at the same distance are a
tie, and a format says which of them is written.

The decimals that round to `m · 2^q` fill an interval from half the gap below
to half the gap above.  Its ends belong to it when `m` is even.  All numbers
are integers after scaling by the denominator: four times the value is `4m`,
the upper end `4m + 2`, and the lower end `4m - 2`, or `4m - 1` where the gap
below is only half as wide.  On the grid of the decimals with `n` digits the
only candidates are the two neighbours of the value.  So `n` counts up from
one, and the first grid with a hit is the answer.
-/

namespace PageLayout

/-- A decimal `0.d₁d₂…dₙ · 10^point` with its digits as one natural number. -/
structure Decimal where
  /-- The digits, as the number they spell. -/
  digits : Nat
  /-- The power of ten that the digits after a leading point are scaled by. -/
  point : Int
deriving DecidableEq, Repr

/-- Which of two decimals at the same distance is written. -/
inductive Tie where
  /-- The greater one. -/
  | up
  /-- The one that ends in an even digit. -/
  | toEven
deriving DecidableEq, Repr

namespace Decimal

/-! ## The interval of a double -/

/-- The reals that round to a double, times a common denominator. -/
structure Interval where
  /-- The numerator of the lower end. -/
  low : Nat
  /-- The numerator of the number itself. -/
  value : Nat
  /-- The numerator of the upper end. -/
  high : Nat
  /-- The common denominator. -/
  den : Nat
  /-- Whether the ends belong to the interval. -/
  closed : Bool

/-- The interval of the magnitude of a finite double. -/
def Interval.ofBinary (d : BinaryParts) : Interval :=
  let m := d.mantissa
  let narrow := m == BinaryParts.storedBits && d.exponent > -1074
  let low := if narrow then 4 * m - 1 else 4 * m - 2
  match d.exponent - 2 with
  | .ofNat k => ⟨low <<< k, (4 * m) <<< k, (4 * m + 2) <<< k, 1, m % 2 == 0⟩
  | .negSucc k => ⟨low, 4 * m, 4 * m + 2, 1 <<< (k + 1), m % 2 == 0⟩

/-- The interval after division by a power of ten. -/
def Interval.scale (i : Interval) : Int → Interval
  | .ofNat k => { i with den := i.den * Nat.pow 10 k }
  | .negSucc k =>
      let t := Nat.pow 10 (k + 1)
      { i with low := i.low * t, value := i.value * t, high := i.high * t }

/-- Whether a whole number lies in the interval. -/
def Interval.holds (i : Interval) (n : Nat) : Bool :=
  let x := n * i.den
  if i.closed then i.low ≤ x && x ≤ i.high else i.low < x && x < i.high

/-- The whole number of the interval that is nearest to its value, if it holds
one of the two neighbours of the value. -/
def Interval.pick? (i : Interval) (tie : Tie) : Option Nat :=
  let below := i.value / i.den
  let above := below + 1
  match i.holds below, i.holds above with
  | true, true =>
      let past := i.value - below * i.den
      if past + past < i.den then some below
      else if past + past == i.den && tie == .toEven && below % 2 == 0 then some below
      else some above
  | true, false => some below
  | false, true => some above
  | false, false => none

/-! ## The search for the fewest digits -/

/-- The number of decimal digits of a natural number, at least one. -/
def width (n : Nat) : Nat := (Nat.toDigits 10 n).length

/-- How many places after the decimal point of a fraction below one are zero
before the first other digit, with a bound on the search. -/
def leadingZeros (num den : Nat) : Nat → Nat
  | 0 => 0
  | bound + 1 => if num * 10 < den then leadingZeros (num * 10) den bound + 1 else 0

/-- The power of ten `p` with `10^(p-1) ≤ value < 10^p`.  No double is so small
that it has 400 zeros after the point. -/
def magnitude (num den : Nat) : Int :=
  if den ≤ num then width (num / den) else -(leadingZeros num den 400 : Nat)

/-- The first grid, counted by the digits that are left to try, with a decimal
in the interval.  Seventeen digits always suffice. -/
def search (tie : Tie) (i : Interval) (point : Int) : (left : Nat) → (digits : Nat) → Decimal
  | 0, n => ⟨(i.scale (point - n)).value / (i.scale (point - n)).den, point⟩
  | left + 1, n =>
      match (i.scale (point - n)).pick? tie with
      | some digits =>
          -- A carry out of the first digit moves the point.
          ⟨digits, point + width digits - n⟩
      | none => search tie i point left (n + 1)

/-- A decimal without zeros at its end, with a bound on their number. -/
def dropZeros (n : Nat) : Nat → Nat
  | 0 => n
  | bound + 1 => if n % 10 == 0 && n != 0 then dropZeros (n / 10) bound else n

/-- The shortest decimal of the magnitude of a finite double. -/
def shortest (tie : Tie) (d : BinaryParts) : Decimal :=
  if d.mantissa == 0 then ⟨0, 1⟩
  else
    let i := Interval.ofBinary d
    let r := search tie i (magnitude i.value i.den) 17 1
    ⟨dropZeros r.digits 20, r.point⟩

end Decimal

end PageLayout
