import PageLayout.Decimal.Reader
import PageLayout.Error
import PageLayout.Text.Blank
import PageLayout.Text.Letter

/-!
# Lists of indexes and their placeholders

A block of requirements can be repeated for a list of indexes, such as
`1, 3, 6-8` or `1 to ${count("item-*")}`.  `IndexList.read` gives the indexes in
the order of the list.  A range whose first bound is above its second is empty.

In the lines of such a block `@` stands for the index, and `@{+n}` and `@{-n}`
for the index plus or minus a number.  `Placeholder.fill` puts the index in.

An index is an integer of 64 bits.  A result beyond them is an error.
-/

namespace PageLayout

namespace IndexList

/-! ## Numbers -/

/-- The integer of 64 bits that is nearest to an integer. -/
def clampInt64 (n : Int) : Int := max Decimal.leastInt (min Decimal.greatestInt n)

/-- A whole number, in any notation.  One that is no plain integer of 64 bits is
read as a double, and the nearest integer of 64 bits is taken. -/
def readNumber (text : List Char) : Except Fault Int :=
  let text := Text.trim text
  match Decimal.readInt64? text with
  | some n => .ok n
  | none =>
      match (Decimal.read? text).bind BinaryParts.ofFloat? with
      | some d =>
          if d.isWhole then .ok (clampInt64 d.truncate) else .error (.badIndex (String.ofList text))
      | none => .error (.badIndex (String.ofList text))

/-! ## Items -/

/-- The bounds of an item that is a range.  A hyphen at the very front is a sign.
After a first character beyond ASCII no hyphen is looked for. -/
def splitRange? (item : List Char) : Option (List Char × List Char) :=
  match Text.splitOnce " to ".toList item with
  | some bounds => some bounds
  | none =>
      match item with
      | [] => none
      | c :: rest =>
          if c.toNat < 0x80 then
            (Text.splitOnce ['-'] rest).map fun (low, high) => (c :: low, high)
          else none

/-- The bounds of an item.  A single number is both of them. -/
def readBounds (item : List Char) : Except Fault (Int × Int) :=
  match splitRange? item with
  | some (low, high) => do
      let low ← readNumber low
      let high ← readNumber high
      return (low, high)
  | none => (readNumber item).map fun n => (n, n)

/-- The integers from one bound to the other. -/
def interval (low high : Int) : List Int :=
  (List.range (high + 1 - low).toNat).map fun (i : Nat) => low + i

/-- The indexes of a list of items, if there are no more than `room`. -/
def readItems : (room : Nat) → List (List Char) → Except Fault (List Int)
  | _, [] => .ok []
  | room, item :: items =>
      if item.isEmpty then readItems room items
      else do
        let (low, high) ← readBounds item
        if high < low then readItems room items
        else if (high - low).toNat < room then do
          let others ← readItems (room - (high + 1 - low).toNat) items
          return interval low high ++ others
        else .error (.tooManyIndexes (String.ofList item))

/-- The indexes of a list, in order. -/
def read (text : String) : Except Fault (List Int) :=
  readItems indexLimit ((Text.splitAt (· == ',') text.toList).map Text.trim)

end IndexList

namespace Placeholder

/-! ## Placeholders -/

/-- A placeholder with an offset. -/
structure Offset where
  /-- Whether the offset is taken away. -/
  negative : Bool
  /-- The digits of the offset. -/
  digits : List Char

/-- The sign of an offset, and the rest. -/
def readSign? : List Char → Option (Bool × List Char)
  | '+' :: rest => some (false, rest)
  | '-' :: rest => some (true, rest)
  | _ => none

/-- The offset that stands after an `@`, and the rest.  Blanks may stand around
the sign and the digits. -/
def readOffset? (cs : List Char) : Option (Offset × List Char) := do
  let inner ← Text.dropPrefix? ['\x7b'] cs
  let (negative, afterSign) ← readSign? (Text.trimStart inner)
  let fromDigits := Text.trimStart afterSign
  let digits := fromDigits.takeWhile isDecimalDigit
  let rest ← Text.dropPrefix? ['\x7d'] (Text.trimStart (fromDigits.dropWhile isDecimalDigit))
  if digits.isEmpty then none else some (⟨negative, digits⟩, rest)

/-- The index moved by an offset, if it fits into 64 bits. -/
def shift? (index : Int) (o : Offset) : Option Int := do
  let amount ← Decimal.readInt64? o.digits
  let moved := if o.negative then index - amount else index + amount
  if Decimal.fitsInt64 moved then some moved else none

theorem length_readSign? {cs rest : List Char} {b : Bool} (h : readSign? cs = some (b, rest)) :
    rest.length < cs.length := by
  unfold readSign? at h
  split at h <;> simp_all

/-- Reading an offset uses up characters. -/
theorem length_readOffset? {cs rest : List Char} {o : Offset}
    (h : readOffset? cs = some (o, rest)) : rest.length < cs.length := by
  simp only [readOffset?, Option.bind_eq_bind, Option.bind_eq_some_iff] at h
  obtain ⟨inner, hinner, ⟨negative, afterSign⟩, hsign, last, hlast, hdigits⟩ := h
  split at hdigits
  · simp at hdigits
  · simp only [Option.some.injEq, Prod.mk.injEq] at hdigits
    have h₁ := Text.length_dropPrefix? hinner
    have h₂ := length_readSign? hsign
    have h₃ := Text.length_dropPrefix? hlast
    have h₄ := Text.length_trimStart_le inner
    have h₅ := Text.length_trimStart_le afterSign
    have h₆ := Text.length_trimStart_le ((Text.trimStart afterSign).dropWhile isDecimalDigit)
    have h₇ := (List.dropWhile_sublist isDecimalDigit (l := Text.trimStart afterSign)).length_le
    simp only [List.length_cons, List.length_nil] at h₁ h₃
    rw [← hdigits.2]
    omega

/-- A text with an index in place of its placeholders. -/
def fillChars (index : Int) (text : List Char) : Except Fault (List Char) :=
  match text with
  | [] => .ok []
  | c :: cs =>
      if c == '@' then
        match h : readOffset? cs with
        | some (offset, rest) =>
            have : rest.length < cs.length := length_readOffset? h
            match shift? index offset with
            | some moved => (fillChars index rest).map ((toString moved).toList ++ ·)
            | none =>
                let whole := (c :: cs).take (cs.length + 1 - rest.length)
                .error (.badIndex (String.ofList whole))
        | none => (fillChars index cs).map ((toString index).toList ++ ·)
      else (fillChars index cs).map (c :: ·)
termination_by text.length

/-- A text with an index in place of its placeholders. -/
def fill (index : Int) (text : String) : Except Fault String :=
  (fillChars index text.toList).map String.ofList

end Placeholder

end PageLayout
