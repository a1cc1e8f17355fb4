import CardCatalog.Card.Record
import CardCatalog.Catalog.ColorList
import CardCatalog.Catalog.StoredNumber
import CardCatalog.Json.Basic
import CardCatalog.Query.Field
import CardCatalog.Text.LetterCase

/-!
# Stored cards

A row is a card as the catalog stores it: the set, the rarity, the layout and the language in lower
case, and the keywords joined into one text. A summary is what a search shows of it.
-/

namespace CardCatalog

open CardCatalog.Text

/-- A stored card. An absent text is `none`; so is an entry of a color list without a value. -/
structure Row where
  id : CardId
  name : String
  flavorName : Option String
  colors : List (Option String)
  colorIdentity : List (Option String)
  typeLine : Option String
  oracleText : Option String
  manaValue : Option String
  power : Option String
  toughness : Option String
  loyalty : Option String
  set : String
  rarity : String
  keywords : String
  layout : String
  lang : String
deriving DecidableEq

namespace Row

/-- The row of a card, or `none` when a color list cannot be stored. -/
def ofRecord? (card : CardRecord) : Option Row := do
  let face := card.face
  let colors ← ColorList.stored? face.colors
  let colorIdentity ← ColorList.stored? face.colorIdentity
  some {
    id := card.id
    name := face.name
    flavorName := face.flavorName
    colors
    colorIdentity
    typeLine := face.typeLine
    oracleText := face.oracleText
    manaValue := face.manaValue
    power := face.power
    toughness := face.toughness
    loyalty := face.loyalty
    set := toLower face.set
    rarity := toLower face.rarity
    keywords := String.intercalate ", " face.keywords
    layout := toLower face.layout
    lang := toLower face.lang }

/-- The text of a field. The color lists have none. -/
def text? (row : Row) : Field → Option String
  | .colors => none
  | .colorIdentity => none
  | .typeLine => row.typeLine
  | .oracleText => row.oracleText
  | .name => some row.name
  | .flavorName => row.flavorName
  | .manaValue => row.manaValue
  | .power => row.power
  | .toughness => row.toughness
  | .loyalty => row.loyalty
  | .set => some row.set
  | .rarity => some row.rarity
  | .keywords => some row.keywords
  | .layout => some row.layout
  | .lang => some row.lang

/-- The text of a field, an absent one read as empty. -/
def text (row : Row) (field : Field) : String :=
  (row.text? field).getD ""

/-- The text of a field as it is compared: in lower case if the field is compared so. -/
def comparedText (row : Row) (field : Field) : String :=
  if field.isCaseless then lowerEach (row.text field) else row.text field

/-- The integer that a field holds. -/
def integer (row : Row) (field : Field) : Int :=
  StoredNumber.integerOf (row.text? field)

/-- The color list of a field. -/
def colorList (row : Row) : Field → List (Option String)
  | .colors => row.colors
  | .colorIdentity => row.colorIdentity
  | _ => []

end Row

/-- What a search shows of a card. -/
structure Summary where
  id : String
  name : String
  set : String
  rarity : String
  typeLine : Option String
  manaValue : Option String
  power : Option String
  toughness : Option String
deriving DecidableEq

/-- The summary of a stored card. -/
def Row.summary (row : Row) : Summary :=
  ⟨row.id.text, row.name, row.set, row.rarity, row.typeLine, row.manaValue, row.power,
   row.toughness⟩

/-- A summary as JSON. -/
def Summary.toJson (summary : Summary) : Json :=
  .object [
    ("id", .text summary.id), ("name", .text summary.name), ("set", .text summary.set),
    ("rarity", .text summary.rarity), ("type_line", .ofText? summary.typeLine),
    ("mana_value", .ofText? summary.manaValue), ("power", .ofText? summary.power),
    ("toughness", .ofText? summary.toughness)]

end CardCatalog
