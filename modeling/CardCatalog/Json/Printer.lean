import CardCatalog.Json.Basic
import CardCatalog.Text.Ascii

/-!
# Writing JSON text

`Json.compact` writes a value without any space; `Json.pretty` writes one item or member a line,
indented by two spaces a level.
-/

namespace CardCatalog

namespace Json

open CardCatalog.Text

/-- How a character is written between quotes. -/
def escapeChar (c : Char) : List Char :=
  if c == '\x22' then ['\\', '\x22']
  else if c == '\\' then ['\\', '\\']
  else if c == '\n' then ['\\', 'n']
  else if c == '\r' then ['\\', 'r']
  else if c == '\t' then ['\\', 't']
  else if c.toNat == 8 then ['\\', 'b']
  else if c.toNat == 12 then ['\\', 'f']
  else if c.toNat < 32 then
    ['\\', 'u', '0', '0', hexDigit (lastHexDigit (c.toNat / 16)), hexDigit (lastHexDigit c.toNat)]
  else [c]

/-- A text between quotes. -/
def quote (s : String) : String :=
  String.ofList ('\x22' :: s.toList.flatMap escapeChar ++ ['\x22'])

/-- Parts between an opening and a closing bracket, with commas between them. -/
def bracket (opening : String) (parts : List String) (closing : String) : String :=
  opening ++ String.intercalate "," parts ++ closing

mutual

/-- The text of a value without any space. -/
def compact : Json → String
  | .null => "null"
  | .bool true => "true"
  | .bool false => "false"
  | .number n => n.text
  | .text s => quote s
  | .array items => bracket "[" (compactItems items) "]"
  | .object members => bracket "\x7b" (compactMembers members) "\x7d"
  | .unusable => "null"

/-- The texts of items. -/
def compactItems : List Json → List String
  | [] => []
  | item :: items => item.compact :: compactItems items

/-- The texts of members. -/
def compactMembers : List (String × Json) → List String
  | [] => []
  | (key, value) :: members => (quote key ++ ":" ++ value.compact) :: compactMembers members

end

/-- The line break and the indentation of a level. -/
def newLine (level : Nat) : String :=
  String.ofList ('\n' :: List.replicate (2 * level) ' ')

mutual

/-- The text of a value at a level, one item or member a line. -/
def prettyAt (level : Nat) : Json → String
  | .array [] => "[]"
  | .object [] => "\x7b\x7d"
  | .array items => bracket "[" (prettyItems (level + 1) items) (newLine level ++ "]")
  | .object members => bracket "\x7b" (prettyMembers (level + 1) members) (newLine level ++ "\x7d")
  | .null => "null"
  | .bool true => "true"
  | .bool false => "false"
  | .number n => n.text
  | .text s => quote s
  | .unusable => "null"

/-- The items of a level, each on a line of its own. -/
def prettyItems (level : Nat) : List Json → List String
  | [] => []
  | item :: items => (newLine level ++ item.prettyAt level) :: prettyItems level items

/-- The members of a level, each on a line of its own. -/
def prettyMembers (level : Nat) : List (String × Json) → List String
  | [] => []
  | (key, value) :: members =>
      (newLine level ++ quote key ++ ": " ++ value.prettyAt level) :: prettyMembers level members

end

/-- The text of a value, one item or member a line. -/
def pretty (value : Json) : String :=
  value.prettyAt 0

end Json

end CardCatalog
