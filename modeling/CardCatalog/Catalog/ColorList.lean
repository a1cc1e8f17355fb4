import CardCatalog.Text.Ascii
import CardCatalog.Text.WhiteSpace

/-!
# Stored color lists

A color list is handed to the database as one text, its entries between brackets with commas
between them, and read back from it. Color codes come back as they are. The notation gives quotes,
backslashes, brackets and commas a meaning of their own, and the word `null` stands for an entry
without a value.
-/

namespace CardCatalog.ColorList

open CardCatalog.Text

/-- The text of a list. -/
def write (entries : List String) : String :=
  "[" ++ String.intercalate ", " entries ++ "]"

/-- Split what follows the opening bracket into entries. Commas divide the entries outside quotes
and inner brackets; the list ends at the closing bracket, with nothing but space after it. -/
def split (quote : Option Char) (depth : Nat) (escaped : Bool) (current : List Char) :
    List Char → Option (List (List Char))
  | [] => none
  | c :: rest =>
      let current' := current ++ [c]
      if escaped then split quote depth false current' rest
      else if c = '\\' then split quote depth true current' rest
      else
        match quote with
        | some q => split (if c = q then none else some q) depth false current' rest
        | none =>
            if c = '\x22' ∨ c = '\x27' then split (some c) depth false current' rest
            else if c = '[' ∨ c = '\x7b' then split none (depth + 1) false current' rest
            else if (c = ']' ∨ c = '\x7d') ∧ 0 < depth then
              split none (depth - 1) false current' rest
            else if c = ']' then if rest.all isAsciiSpace then some [current] else none
            else if c = ',' ∧ depth = 0 then (split none 0 false [] rest).map (current :: ·)
            else split none depth false current' rest

/-- Remove the quotes around quoted runs and the backslash before an escaped character. -/
def unquote (quote : Option Char) : List Char → List Char
  | [] => []
  | '\\' :: c :: rest => c :: unquote quote rest
  | c :: rest =>
      match quote with
      | some q => if c = q then unquote none rest else c :: unquote quote rest
      | none =>
          if c = '\x22' ∨ c = '\x27' then unquote (some c) rest else c :: unquote none rest

/-- Remove the space at both ends of an entry. -/
def trimEntry (cs : List Char) : List Char :=
  ((cs.dropWhile isAsciiSpace).reverse.dropWhile isAsciiSpace).reverse

/-- The value of an entry, or none for the word `null`. -/
def entryValue (entry : List Char) : Option String :=
  if entry.map asciiLower = "null".toList then none else some (String.ofList (unquote none entry))

/-- Read the text of a list. -/
def read? (text : String) : Option (List (Option String)) :=
  match text.toList with
  | '[' :: rest =>
      match (split none 0 false [] rest).map (·.map trimEntry) with
      | some [[]] => some []
      | some entries => some (entries.map entryValue)
      | none => none
  | _ => none

/-- The list as the database holds it. -/
def stored? (entries : List String) : Option (List (Option String)) :=
  read? (write entries)

end CardCatalog.ColorList
