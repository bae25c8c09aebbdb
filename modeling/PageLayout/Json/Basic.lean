/-!
# JSON values

A JSON value keeps the fields of an object as they were written, in order and
with repeated names.  Integers are kept apart from other numbers, since some
fields take nothing else.

`broken` stands for a text that has the form of a value but means none: a number
beyond all doubles, or a string with half of a surrogate pair.  It can be skipped
and not be used.
-/

namespace PageLayout

/-- A JSON value. -/
inductive Json where
  /-- Nothing. -/
  | null
  /-- A truth value. -/
  | bool (value : Bool)
  /-- An integer. -/
  | int (value : Int)
  /-- A number that was not written as an integer, or is too large for one. -/
  | real (value : Float)
  /-- A string. -/
  | text (value : String)
  /-- An array. -/
  | list (items : List Json)
  /-- An object. -/
  | record (fields : List (String × Json))
  /-- A value that cannot be used. -/
  | broken
deriving Repr, Inhabited

namespace Json

/-- The values of all fields of a name, in order. -/
def fieldsNamed (name : String) (fields : List (String × Json)) : List Json :=
  (fields.filter fun f => f.1 == name).map (·.2)

mutual

/-- A value whose objects keep only the last field of every name. -/
def collapse : Json → Json
  | .list items => .list (collapseItems items)
  | .record fields => .record (collapseFields fields)
  | value => value

/-- Items whose objects keep only the last field of every name. -/
def collapseItems : List Json → List Json
  | [] => []
  | item :: items => collapse item :: collapseItems items

/-- Fields of which only the last of every name is kept. -/
def collapseFields : List (String × Json) → List (String × Json)
  | [] => []
  | (name, value) :: fields =>
      let others := collapseFields fields
      if others.any fun f => f.1 == name then others else (name, collapse value) :: others

end

end Json

end PageLayout
