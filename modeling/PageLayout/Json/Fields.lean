import PageLayout.Json.Basic
import PageLayout.Part
import PageLayout.Table

/-!
# Structures in JSON

A structure is an object with a field for each of its parts, or an array of its
parts in order.  A choice without parts is a word.  The same word as the only
field of an object, with no value, is accepted too.
-/

namespace PageLayout

namespace Json

/-! ## Parts -/

/-- A value, or none in its place. -/
def orNull {α : Type} (read : Json → Option α) : Json → Option (Option α)
  | .null => some none
  | value => (read value).map some

/-- The parts of a structure. -/
def parts? (names : List String) : Json → Option (List (Part Json))
  | .record fields => Part.named? names fields
  | .list values => Part.inOrder? names values
  | _ => none

/-! ## Simple values -/

/-- A truth value. -/
def toBool? : Json → Option Bool
  | .bool b => some b
  | _ => none

/-- A string. -/
def toText? : Json → Option String
  | .text s => some s
  | _ => none

/-- A number. -/
def toFloat? : Json → Option Float
  | .int n => some (Float.ofInt n)
  | .real x => some x
  | _ => none

/-- An integer that counts something. -/
def toNat? : Json → Option Nat
  | .int (.ofNat n) => some n
  | _ => none

/-- The word of a choice without parts. -/
def toWord? : Json → Option String
  | .text s => some s
  | .record [(s, .null)] => some s
  | _ => none

/-- The items of an array. -/
def toList? {α : Type} (read : Json → Option α) : Json → Option (List α)
  | .list items => items.mapM read
  | _ => none

/-- The fields of an object.  The last field of a name counts. -/
def toTable? {α : Type} (read : Json → Option α) : Json → Option (Table α)
  | .record fields => do
      let entries ← fields.mapM fun f => (read f.2).map fun value => (f.1, value)
      return .ofList entries
  | _ => none

/-! ## Writing -/

/-- A value, or nothing in its place. -/
def ofOption {α : Type} (write : α → Json) : Option α → Json
  | some a => write a
  | none => .null

/-- The items of a list. -/
def ofList {α : Type} (write : α → Json) (items : List α) : Json := .list (items.map write)

/-- The entries of a table. -/
def ofTable {α : Type} (write : α → Json) (t : Table α) : Json :=
  .record (t.entries.map fun e => (e.1, write e.2))

end Json

end PageLayout
