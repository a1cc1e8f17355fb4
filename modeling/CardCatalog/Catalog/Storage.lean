import CardCatalog.Catalog.Basic
import CardCatalog.Json.Printer
import CardCatalog.Json.Reader

/-!
# The catalog on disk

A catalog is kept as the JSON text of its stored cards, in the order in which they were written.
-/

namespace CardCatalog

namespace Row

/-- A color list as JSON, an entry without a value as `null`. -/
def colorListToJson (entries : List (Option String)) : Json :=
  .array (entries.map Json.ofText?)

/-- Read a text or `null`. -/
def optionalText? : Json → Option (Option String)
  | .null => some none
  | .text s => some (some s)
  | _ => none

/-- Read a color list. -/
def colorListOfJson? (value : Json) : Option (List (Option String)) := do
  (← value.asArray?).mapM optionalText?

/-- A stored card as JSON. -/
def toJson (row : Row) : Json :=
  .object [
    ("id", .text row.id.text), ("name", .text row.name),
    ("flavor_name", .ofText? row.flavorName), ("colors", colorListToJson row.colors),
    ("color_identity", colorListToJson row.colorIdentity),
    ("type_line", .ofText? row.typeLine), ("oracle_text", .ofText? row.oracleText),
    ("mana_value", .ofText? row.manaValue), ("power", .ofText? row.power),
    ("toughness", .ofText? row.toughness), ("loyalty", .ofText? row.loyalty),
    ("set", .text row.set), ("rarity", .text row.rarity), ("keywords", .text row.keywords),
    ("layout", .text row.layout), ("lang", .text row.lang)]

/-- Read a stored card. -/
def ofJson? (value : Json) : Option Row := do
  some {
    id := ← CardId.parse? (← (value.member "id").asText?)
    name := ← (value.member "name").asText?
    flavorName := ← optionalText? (value.member "flavor_name")
    colors := ← colorListOfJson? (value.member "colors")
    colorIdentity := ← colorListOfJson? (value.member "color_identity")
    typeLine := ← optionalText? (value.member "type_line")
    oracleText := ← optionalText? (value.member "oracle_text")
    manaValue := ← optionalText? (value.member "mana_value")
    power := ← optionalText? (value.member "power")
    toughness := ← optionalText? (value.member "toughness")
    loyalty := ← optionalText? (value.member "loyalty")
    set := ← (value.member "set").asText?
    rarity := ← (value.member "rarity").asText?
    keywords := ← (value.member "keywords").asText?
    layout := ← (value.member "layout").asText?
    lang := ← (value.member "lang").asText? }

end Row

namespace Catalog

/-- The text in which a catalog is kept. -/
def storageText (catalog : Catalog) : String :=
  (Json.array (catalog.rows.map Row.toJson)).compact

/-- Read the text in which a catalog is kept. -/
def ofStorageText? (s : String) : Option Catalog := do
  some (empty.putAll (← (← (← Json.parse? s).asArray?).mapM Row.ofJson?))

end Catalog

end CardCatalog
