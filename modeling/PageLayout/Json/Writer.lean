import PageLayout.Decimal.Notation
import PageLayout.Json.Basic

/-!
# Writing JSON

`Json.compact` writes a value on one line without blanks, and `Json.pretty` on
many lines with two spaces for every level.  Both keep the fields of an object in
order.  A number that is no integer keeps a point or an exponent, so it is not
read back as one.
-/

namespace PageLayout.Json

/-! ## Strings -/

/-- A digit of a hexadecimal number. -/
def hexDigit (n : Nat) : Char := if n < 10 then Char.ofNat (48 + n) else Char.ofNat (87 + n)

/-- A character as it is written in a string. -/
def escape (c : Char) : List Char :=
  if c == '"' then ['\\', '"']
  else if c == '\\' then ['\\', '\\']
  else if c == '\x08' then ['\\', 'b']
  else if c == '\x0c' then ['\\', 'f']
  else if c == '\n' then ['\\', 'n']
  else if c == '\r' then ['\\', 'r']
  else if c == '\t' then ['\\', 't']
  else if c.toNat < 0x20 then
    ['\\', 'u', '0', '0', hexDigit (c.toNat / 16), hexDigit (c.toNat % 16)]
  else [c]

/-- A string with its quotes. -/
def quote (s : String) : String := "\"" ++ String.ofList (s.toList.flatMap escape) ++ "\""

/-! ## Values -/

/-- A value that has no parts. -/
def atom : Json → String
  | .bool true => "true"
  | .bool false => "false"
  | .int n => toString n
  | .real x => NumberFormat.json.write x
  | .text s => quote s
  | _ => "null"

mutual

/-- A value on one line. -/
def compact : Json → String
  | .list items => "[" ++ compactItems items ++ "]"
  | .record fields => "\x7b" ++ compactFields fields ++ "\x7d"
  | value => atom value

/-- The items of an array on one line. -/
def compactItems : List Json → String
  | [] => ""
  | [item] => compact item
  | item :: items => compact item ++ "," ++ compactItems items

/-- The fields of an object on one line. -/
def compactFields : List (String × Json) → String
  | [] => ""
  | [(name, value)] => quote name ++ ":" ++ compact value
  | (name, value) :: fields => quote name ++ ":" ++ compact value ++ "," ++ compactFields fields

end

/-- The spaces in front of a line. -/
def margin (level : Nat) : String := String.ofList (List.replicate (2 * level) ' ')

mutual

/-- A value on many lines, inside a number of others. -/
def prettyAt (level : Nat) : Json → String
  | .list [] => "[]"
  | .list (item :: items) =>
      "[\n" ++ prettyItems (level + 1) (item :: items) ++ "\n" ++ margin level ++ "]"
  | .record [] => "\x7b\x7d"
  | .record (field :: fields) =>
      "\x7b\n" ++ prettyFields (level + 1) (field :: fields) ++ "\n" ++ margin level ++ "\x7d"
  | value => atom value

/-- The items of an array on many lines. -/
def prettyItems (level : Nat) : List Json → String
  | [] => ""
  | [item] => margin level ++ prettyAt level item
  | item :: items => margin level ++ prettyAt level item ++ ",\n" ++ prettyItems level items

/-- The fields of an object on many lines. -/
def prettyFields (level : Nat) : List (String × Json) → String
  | [] => ""
  | [(name, value)] => margin level ++ quote name ++ ": " ++ prettyAt level value
  | (name, value) :: fields =>
      margin level ++ quote name ++ ": " ++ prettyAt level value ++ ",\n" ++
        prettyFields level fields

end

/-- A value on many lines. -/
def pretty (value : Json) : String := prettyAt 0 value

end PageLayout.Json
