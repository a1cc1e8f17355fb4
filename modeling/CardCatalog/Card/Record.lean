import CardCatalog.Card.Id

/-!
# Card records

A card record is one printing of a card as a card file holds it. Numbers that a card prints are
kept as texts, since a power may be `*`. The `with` functions build a record from a minimal one.
-/

namespace CardCatalog

/-- Everything a card file says of a printing but its id. -/
structure CardFace where
  name : String
  flavorName : Option String
  colors : List String
  colorIdentity : List String
  typeLine : Option String
  oracleText : Option String
  manaValue : Option String
  power : Option String
  toughness : Option String
  loyalty : Option String
  set : String
  rarity : String
  keywords : List String
  layout : String
  lang : String
deriving DecidableEq

/-- A printing of a card. -/
structure CardRecord where
  id : CardId
  face : CardFace
deriving DecidableEq

namespace CardFace

/-- The layout of a card that names none. -/
def defaultLayout : String :=
  "normal"

/-- The language of a card that names none. -/
def defaultLang : String :=
  "en"

/-- A card with a name, a set and a rarity, and nothing else. -/
def minimal (name set rarity : String) : CardFace :=
  { name, flavorName := none, colors := [], colorIdentity := [], typeLine := none,
    oracleText := none, manaValue := none, power := none, toughness := none, loyalty := none,
    set, rarity, keywords := [], layout := defaultLayout, lang := defaultLang }

/-- Set the colors. The color identity follows them. -/
def withColors (face : CardFace) (colors : List String) : CardFace :=
  { face with colors := colors, colorIdentity := colors }

/-- Set the color identity. -/
def withColorIdentity (face : CardFace) (colors : List String) : CardFace :=
  { face with colorIdentity := colors }

/-- Set the type line. -/
def withTypeLine (face : CardFace) (typeLine : String) : CardFace :=
  { face with typeLine := some typeLine }

/-- Set the rules text. -/
def withOracleText (face : CardFace) (text : String) : CardFace :=
  { face with oracleText := some text }

/-- Set the flavor name. -/
def withFlavorName (face : CardFace) (name : String) : CardFace :=
  { face with flavorName := some name }

/-- Set the mana value. -/
def withManaValue (face : CardFace) (value : String) : CardFace :=
  { face with manaValue := some value }

/-- Set power and toughness. -/
def withStats (face : CardFace) (power toughness : String) : CardFace :=
  { face with power := some power, toughness := some toughness }

/-- Set the loyalty. -/
def withLoyalty (face : CardFace) (loyalty : String) : CardFace :=
  { face with loyalty := some loyalty }

/-- Set the keywords. -/
def withKeywords (face : CardFace) (keywords : List String) : CardFace :=
  { face with keywords := keywords }

/-- Set the layout. -/
def withLayout (face : CardFace) (layout : String) : CardFace :=
  { face with layout := layout }

/-- Set the language. -/
def withLang (face : CardFace) (lang : String) : CardFace :=
  { face with lang := lang }

end CardFace

end CardCatalog
