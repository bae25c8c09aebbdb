/-!
# Parts of structures

In a data format a structure is written with the names of its parts, or as the
list of its parts in order.  With names, parts that have a default may be missing
anywhere, other names are skipped, and no name may occur twice.  In order, only
the last parts may be missing, and nothing may follow.

A part that can be empty may be missing where there are names, but not in order.
-/

namespace PageLayout

/-- What is written for a part of a structure. -/
inductive Part (α : Type) where
  /-- A value. -/
  | given (value : α)
  /-- Nothing, where parts have names. -/
  | omitted
  /-- Nothing, since the list of parts ends before it. -/
  | cutOff

namespace Part

variable {α β : Type}

/-- A part that has to be there. -/
def required (read : α → Option β) : Part α → Option β
  | .given value => read value
  | _ => none

/-- A part that can be empty. -/
def optional (read : α → Option (Option β)) : Part α → Option (Option β)
  | .given value => read value
  | .omitted => some none
  | .cutOff => none

/-- A part that has a default. -/
def withDefault (read : α → Option β) (default : β) : Part α → Option β
  | .given value => read value
  | _ => some default

/-- What is written for a name.  There is no answer if the name occurs twice. -/
def ofName? (fields : List (String × α)) (name : String) : Option (Part α) :=
  match fields.filter fun f => f.1 == name with
  | [] => some .omitted
  | [f] => some (.given f.2)
  | _ => none

/-- What is written for each of some names. -/
def named? (names : List String) (fields : List (String × α)) : Option (List (Part α)) :=
  names.mapM (ofName? fields)

/-- What is written for as many parts as there are names. -/
def inOrder : List String → List α → List (Part α)
  | [], _ => []
  | _ :: names, [] => .cutOff :: inOrder names []
  | _ :: names, value :: values => .given value :: inOrder names values

/-- What is written for as many parts as there are names, if nothing follows. -/
def inOrder? (names : List String) (values : List α) : Option (List (Part α)) :=
  if names.length < values.length then none else some (inOrder names values)

end Part

end PageLayout
