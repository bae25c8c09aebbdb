import PageLayout.Decimal.Reader
import PageLayout.Part
import PageLayout.Table

/-!
# YAML values

A YAML value is a scalar, a list or a record.  What a scalar means depends on
what is asked for.  Every scalar can be read as a string.  A plain one, without
quotes, can also be a number or a truth value, and an empty one can stand for an
empty list or record.
-/

namespace PageLayout

/-- A YAML value. -/
inductive Yaml where
  /-- A scalar.  It is plain if it is written without quotes. -/
  | scalar (plain : Bool) (text : String)
  /-- A list. -/
  | list (items : List Yaml)
  /-- A record. -/
  | record (fields : List (String × Yaml))
deriving Repr, Inhabited

namespace Yaml

/-- What is written where nothing is. -/
def empty : Yaml := .scalar true ""

/-! ## Scalars -/

/-- A string. -/
def toText? : Yaml → Option String
  | .scalar _ text => some text
  | _ => none

/-- The text of a plain scalar. -/
def plain? : Yaml → Option String
  | .scalar true text => some text
  | _ => none

/-- A truth value. -/
def toBool? (y : Yaml) : Option Bool := do
  let text ← y.plain?
  if ["true", "True", "TRUE"].contains text then some true
  else if ["false", "False", "FALSE"].contains text then some false
  else none

/-- The number that a text stands for.  Infinity and the undefined number have
words with a point in front. -/
def floatOf? (text : String) : Option Float :=
  let (positive, unsigned) :=
    match text.toList with
    | '+' :: rest => (true, rest)
    | cs => (false, cs)
  if positive && (unsigned.head? == some '+' || unsigned.head? == some '-') then none
  else if [".inf", ".Inf", ".INF"].contains (String.ofList unsigned) then some (1.0 / 0.0)
  else if ["-.inf", "-.Inf", "-.INF"].contains text then some (-1.0 / 0.0)
  else if [".nan", ".NaN", ".NAN"].contains text then some (0.0 / 0.0)
  else (Decimal.read? unsigned).bind fun x => if Number.isFinite x then some x else none

/-- A number. -/
def toFloat? (y : Yaml) : Option Float := y.plain?.bind floatOf?

/-- The value of a digit in some base. -/
def digitIn? (base : Nat) (c : Char) : Option Nat :=
  let value :=
    if Decimal.isDigit c then Decimal.digitValue c
    else if 'a' ≤ c && c ≤ 'f' then c.toNat - 'a'.toNat + 10
    else if 'A' ≤ c && c ≤ 'F' then c.toNat - 'A'.toNat + 10
    else base
  if value < base then some value else none

/-- The number that digits spell in some base, if 64 bits are enough for it. -/
def spellIn? (base : Nat) (digits : List Char) : Option Nat :=
  if digits.isEmpty then none
  else do
    let values ← digits.mapM (digitIn? base)
    let n := values.foldl (fun n d => base * n + d) 0
    if n < UInt64.size then some n else none

/-- The integer that counts something and that a text stands for.  A number with
leading zeros is none. -/
def natOf? (text : String) : Option Nat :=
  let digits :=
    match text.toList with
    | '+' :: rest => rest
    | cs => cs
  match digits with
  | '0' :: 'x' :: rest => spellIn? 16 rest
  | '0' :: 'o' :: rest => spellIn? 8 rest
  | '0' :: 'b' :: rest => spellIn? 2 rest
  | '0' :: _ :: _ => none
  | digits => spellIn? 10 digits

/-- An integer that counts something. -/
def toNat? (y : Yaml) : Option Nat := y.plain?.bind natOf?

/-! ## Collections -/

/-- The items of a list. -/
def toList? {α : Type} (read : Yaml → Option α) : Yaml → Option (List α)
  | .list items => items.mapM read
  | .scalar true "" => some []
  | _ => none

/-- The fields of a record.  The last field of a name counts. -/
def toTable? {α : Type} (read : Yaml → Option α) : Yaml → Option (Table α)
  | .record fields => do
      let entries ← fields.mapM fun f => (read f.2).map fun value => (f.1, value)
      return .ofList entries
  | .scalar true "" => some .empty
  | _ => none

/-- The parts of a structure. -/
def parts? (names : List String) : Yaml → Option (List (Part Yaml))
  | .record fields => Part.named? names fields
  | .list values => Part.inOrder? names values
  | .scalar true "" => Part.named? names []
  | _ => none

/-- Whether all fields of a record have one of some names. -/
def hasOnly (names : List String) : Yaml → Bool
  | .record fields => fields.all fun f => names.contains f.1
  | _ => true

end Yaml

end PageLayout
