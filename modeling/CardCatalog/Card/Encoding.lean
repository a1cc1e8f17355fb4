import CardCatalog.Card.Record
import CardCatalog.Json.Printer

/-!
# Card records as JSON

A card is written as an object with one member a field, absent texts as `null`. Reading passes over
other members, refuses a member that occurs twice, and accepts an array of the values in the order
of the fields. A number in place of a printed number is kept as text: a whole one without a
fraction, any other value as its JSON text.
-/

namespace CardCatalog

open CardCatalog.Number

namespace CardFace

/-- The members of a card that tell more than its id, in order. -/
def members (face : CardFace) : List (String × Json) :=
  [("name", .text face.name), ("flavor_name", .ofText? face.flavorName),
   ("colors", .ofTexts face.colors), ("color_identity", .ofTexts face.colorIdentity),
   ("type_line", .ofText? face.typeLine), ("oracle_text", .ofText? face.oracleText),
   ("cmc", .ofText? face.manaValue), ("power", .ofText? face.power),
   ("toughness", .ofText? face.toughness), ("loyalty", .ofText? face.loyalty),
   ("set", .text face.set), ("rarity", .text face.rarity), ("keywords", .ofTexts face.keywords),
   ("layout", .text face.layout), ("lang", .text face.lang)]

end CardFace

namespace CardRecord

/-- A card as JSON. -/
def toJson (card : CardRecord) : Json :=
  .object (("id", .text card.id.text) :: card.face.members)

/-- A real number without a fraction as an integer, clamped to 64 bits. -/
def wholeText (x : Binary64) : String :=
  intText (Int64.ofIntClamp x.truncate).toInt

/-- The text that is kept of a printed number. -/
def textOrNumber? (value : Json) : Option (Option String) :=
  if value.isUsable then
    match value with
    | .null => some none
    | .text s => some (some s)
    | .number (.real x) => some (some (if x.isWhole then wholeText x else x.text))
    | value => some (some value.normalize.compact)
  else none

/-- A text or `null`. -/
def optionalText? : Json → Option (Option String)
  | .null => some none
  | .text s => some (some s)
  | _ => none

/-- The values of a card, one for each field in order; `none` for a field that is missing. -/
structure Values where
  id : Option Json
  name : Option Json
  flavorName : Option Json
  colors : Option Json
  colorIdentity : Option Json
  typeLine : Option Json
  oracleText : Option Json
  manaValue : Option Json
  power : Option Json
  toughness : Option Json
  loyalty : Option Json
  set : Option Json
  rarity : Option Json
  keywords : Option Json
  layout : Option Json
  lang : Option Json

/-- Read a value, or take the default where it is missing. -/
def orDefault {α : Type} (read : Json → Option α) (missing : α) : Option Json → Option α
  | some value => read value
  | none => some missing

/-- Read the values of a card. The id, the name, the set and the rarity must be there. -/
def ofValues? (values : Values) : Option CardRecord := do
  let id ← CardId.parse? (← (← values.id).asText?)
  let name ← (← values.name).asText?
  let flavorName ← orDefault optionalText? none values.flavorName
  let colors ← orDefault Json.asTexts? [] values.colors
  let colorIdentity ← orDefault Json.asTexts? [] values.colorIdentity
  let typeLine ← orDefault optionalText? none values.typeLine
  let oracleText ← orDefault optionalText? none values.oracleText
  let manaValue ← orDefault textOrNumber? none values.manaValue
  let power ← orDefault textOrNumber? none values.power
  let toughness ← orDefault textOrNumber? none values.toughness
  let loyalty ← orDefault textOrNumber? none values.loyalty
  let set ← (← values.set).asText?
  let rarity ← (← values.rarity).asText?
  let keywords ← orDefault Json.asTexts? [] values.keywords
  let layout ← orDefault Json.asText? CardFace.defaultLayout values.layout
  let lang ← orDefault Json.asText? CardFace.defaultLang values.lang
  some ⟨id, { name, flavorName, colors, colorIdentity, typeLine, oracleText, manaValue, power,
              toughness, loyalty, set, rarity, keywords, layout, lang }⟩

/-- The value of the one member with one of the keys; `none` when two have them. -/
def single? (members : List (String × Json)) (keys : List String) : Option (Option Json) :=
  match members.filter fun member => keys.contains member.1 with
  | [] => some none
  | [(_, value)] => some (some value)
  | _ => none

/-- The values of a card among the members of an object. The mana value has two keys. -/
def valuesOfMembers? (members : List (String × Json)) : Option Values := do
  some {
    id := ← single? members ["id"]
    name := ← single? members ["name"]
    flavorName := ← single? members ["flavor_name"]
    colors := ← single? members ["colors"]
    colorIdentity := ← single? members ["color_identity"]
    typeLine := ← single? members ["type_line"]
    oracleText := ← single? members ["oracle_text"]
    manaValue := ← single? members ["cmc", "mana_value"]
    power := ← single? members ["power"]
    toughness := ← single? members ["toughness"]
    loyalty := ← single? members ["loyalty"]
    set := ← single? members ["set"]
    rarity := ← single? members ["rarity"]
    keywords := ← single? members ["keywords"]
    layout := ← single? members ["layout"]
    lang := ← single? members ["lang"] }

/-- The values of a card in an array of at most sixteen. -/
def valuesOfItems? (items : List Json) : Option Values :=
  if items.length ≤ 16 then
    some {
      id := items[0]?
      name := items[1]?
      flavorName := items[2]?
      colors := items[3]?
      colorIdentity := items[4]?
      typeLine := items[5]?
      oracleText := items[6]?
      manaValue := items[7]?
      power := items[8]?
      toughness := items[9]?
      loyalty := items[10]?
      set := items[11]?
      rarity := items[12]?
      keywords := items[13]?
      layout := items[14]?
      lang := items[15]? }
  else none

/-- Read a card. -/
def ofJson? : Json → Option CardRecord
  | .object members => do ofValues? (← valuesOfMembers? members)
  | .array items => do ofValues? (← valuesOfItems? items)
  | _ => none

/-- Read a list of cards. -/
def listOfJson? (value : Json) : Option (List CardRecord) := do
  (← value.asArray?).mapM ofJson?

/-- A list of cards as JSON. -/
def listToJson (cards : List CardRecord) : Json :=
  .array (cards.map toJson)

end CardRecord

end CardCatalog
