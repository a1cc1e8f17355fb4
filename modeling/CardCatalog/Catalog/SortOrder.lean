import CardCatalog.Catalog.Row
import CardCatalog.Number.Decimal

/-!
# Orders of a search result

Each order compares two stored cards by a first key and, where those agree, by a second one. Texts
are compared character by character, mana values as numbers, and rarities by their rank. The database
is told the keys in its own language.
-/

namespace CardCatalog

open CardCatalog.Text

/-- A key by which an order compares cards. -/
inductive SortKey where
  | name
  | set
  | manaValue
  | rarity
deriving DecidableEq

namespace SortKey

/-- The rarities that have a rank, the rarest first. -/
def rarities : List String :=
  ["mythic", "rare", "uncommon", "common"]

/-- The rank of each rarity, and that of what is no rarity, in the language of the database. -/
def rarityText : String :=
  "CASE lower(rarity) " ++
    String.join (rarities.mapIdx fun rank rarity =>
      "WHEN '" ++ rarity ++ "' THEN " ++ Number.natText rank ++ " ") ++
    "ELSE " ++ Number.natText rarities.length ++ " END"

/-- A key in the language of the database. -/
def text : SortKey → String
  | .name => "name"
  | .set => "set_code"
  | .manaValue => "coalesce(TRY_CAST(mana_value AS DOUBLE), 0)"
  | .rarity => rarityText

end SortKey

/-- The order of a search result. -/
inductive SortOrder where
  | name
  | manaValue
  | set
  | rarity
deriving DecidableEq

namespace SortOrder

/-- Every order. -/
def all : List SortOrder :=
  [.name, .manaValue, .set, .rarity]

/-- The name of an order. -/
def label : SortOrder → String
  | .name => "name"
  | .manaValue => "mana_value"
  | .set => "set"
  | .rarity => "rarity"

/-- The order with this name. -/
def ofLabel? (s : String) : Option SortOrder :=
  all.find? fun order => order.label == s

/-- The keys of an order, the first one first. -/
def keys : SortOrder → List SortKey
  | .name => [.name, .set]
  | .manaValue => [.manaValue, .name]
  | .set => [.set, .name]
  | .rarity => [.rarity, .name]

/-- The keys of an order in the language of the database. -/
def keysText (order : SortOrder) : String :=
  String.intercalate ", " (order.keys.map SortKey.text)

/-- A text stands before another or is the same. -/
def textLe (s t : String) : Bool :=
  s ≤ t

/-- A comparison by one key, and by a second one where the first keys stand in either order. -/
def thenBy {α β : Type} (first : α → α → Bool) (second : β → β → Bool) (x y : α × β) : Bool :=
  first x.1 y.1 && (!first y.1 x.1 || second x.2 y.2)

/-- The rank of a rarity: the rarest first, and after them what is no rarity. -/
def rarityRank (rarity : String) : Nat :=
  match lowerEach rarity with
  | "mythic" => 0
  | "rare" => 1
  | "uncommon" => 2
  | "common" => 3
  | _ => 4

/-- One card stands before another in the order, or the two agree in it. -/
def le : SortOrder → Row → Row → Bool
  | .name, x, y => thenBy textLe textLe (x.name, x.set) (y.name, y.set)
  | .manaValue, x, y =>
      thenBy StoredNumber.OrderKey.le textLe (StoredNumber.orderKey x.manaValue, x.name)
        (StoredNumber.orderKey y.manaValue, y.name)
  | .set, x, y => thenBy textLe textLe (x.set, x.name) (y.set, y.name)
  | .rarity, x, y =>
      thenBy (fun m n : Nat => m ≤ n) textLe (rarityRank x.rarity, x.name)
        (rarityRank y.rarity, y.name)

end SortOrder

end CardCatalog
