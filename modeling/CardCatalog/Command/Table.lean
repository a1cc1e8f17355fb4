import CardCatalog.Catalog.Row

/-!
# Tables of cards

A search shows its cards in a table with columns of fixed width. A longer text pushes the rest of
its line to the right, except for the name, which is cut.
-/

namespace CardCatalog.Table

/-- Spaces that fill a text up to a width. -/
def padding (width : Nat) (s : String) : String :=
  String.ofList (List.replicate (width - s.length) ' ')

/-- A text at the left of a column. -/
def padRight (width : Nat) (s : String) : String :=
  s ++ padding width s

/-- A text at the right of a column. -/
def padLeft (width : Nat) (s : String) : String :=
  padding width s ++ s

/-- A text cut to a number of characters, the last of which then is an ellipsis. -/
def truncate (width : Nat) (s : String) : String :=
  if width < s.length then String.ofList (s.toList.take (width - 1)) ++ "…" else s

/-- A line of the table. -/
def line (name set rarity manaValue stats typeLine : String) : String :=
  padRight 32 name ++ " " ++ padRight 6 set ++ " " ++ padRight 9 rarity ++ " " ++
    padLeft 3 manaValue ++ " " ++ padRight 7 stats ++ " " ++ typeLine ++ "\n"

/-- Power and toughness, where a card has both. -/
def statsText (summary : Summary) : String :=
  match summary.power, summary.toughness with
  | some power, some toughness => power ++ "/" ++ toughness
  | _, _ => ""

/-- The line of a card. -/
def cardLine (summary : Summary) : String :=
  line (truncate 32 summary.name) summary.set summary.rarity (summary.manaValue.getD "-")
    (statsText summary) (summary.typeLine.getD "-")

/-- The table of cards. -/
def text (summaries : List Summary) : String :=
  if summaries.isEmpty then "No cards found.\n"
  else
    line "NAME" "SET" "RARITY" "MV" "P/T" "TYPE" ++ String.ofList (List.replicate 80 '-') ++ "\n" ++
      String.join (summaries.map cardLine)

end CardCatalog.Table
