import CardCatalog.Text.Ascii

/-!
# TOML values

The values that a TOML document can hold, and the characters that its parts are made of. Real
numbers and points in time are kept as they are written.
-/

namespace CardCatalog

/-- A TOML value. -/
inductive Toml where
  | text (value : String)
  | integer (value : Int)
  | real (numeral : String)
  | bool (value : Bool)
  | moment (text : String)
  | array (items : List Toml)
  | table (entries : List (String × Toml))

namespace Toml

open CardCatalog.Text

/-- Reads a part from the front of a text, and returns what follows it. -/
abbrev Reader (α : Type) := List Char → Option (α × List Char)

/-- Space within a line: blanks and tabs. -/
def isBlank (c : Char) : Bool :=
  c == ' ' || c == '\t'

/-- A character that may stand in a comment and, unless it ends it, in a literal text: anything
but control characters, of which only the tab is admitted. -/
def isPrintable (c : Char) : Bool :=
  c == '\t' || (32 ≤ c.toNat && c.toNat != 127)

/-- A character of a key that needs no quotes. -/
def isBareKeyChar (c : Char) : Bool :=
  isAsciiLetter c || isAsciiDigit c || c == '_' || c == '-'

/-- Skip space within a line. -/
def skipBlanks (cs : List Char) : List Char :=
  cs.dropWhile isBlank

/-- Read a line break. -/
def newline? : List Char → Option (List Char)
  | '\n' :: rest => some rest
  | '\r' :: '\n' :: rest => some rest
  | _ => none

/-- Skip a comment, if one starts here, up to the end of its line. -/
def skipComment : List Char → List Char
  | '#' :: rest => rest.dropWhile isPrintable
  | cs => cs

/-- Read the end of a line: space, a comment if there is one, and a line break or the end of the
text. -/
def endOfLine? (cs : List Char) : Option (List Char) :=
  match skipComment (skipBlanks cs) with
  | [] => some []
  | rest => newline? rest

/-- The entry of a table under a key. -/
def entry? (entries : List (String × Toml)) (key : String) : Option Toml :=
  entries.lookup key

end Toml

end CardCatalog
