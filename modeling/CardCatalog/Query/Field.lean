/-!
# Fields of a card

The fields a search can ask about, the names they go by, and the columns that hold them.
-/

namespace CardCatalog

/-- A searchable field of a card. -/
inductive Field where
  | colors
  | colorIdentity
  | typeLine
  | oracleText
  | name
  | flavorName
  | manaValue
  | power
  | toughness
  | loyalty
  | set
  | rarity
  | keywords
  | layout
  | lang
deriving DecidableEq

namespace Field

/-- Every field. -/
def all : List Field :=
  [.colors, .colorIdentity, .typeLine, .oracleText, .name, .flavorName, .manaValue, .power,
   .toughness, .loyalty, .set, .rarity, .keywords, .layout, .lang]

/-- The name of a field. -/
def label : Field → String
  | .colors => "colors"
  | .colorIdentity => "color_identity"
  | .typeLine => "type_line"
  | .oracleText => "oracle_text"
  | .name => "name"
  | .flavorName => "flavor_name"
  | .manaValue => "mana_value"
  | .power => "power"
  | .toughness => "toughness"
  | .loyalty => "loyalty"
  | .set => "set"
  | .rarity => "rarity"
  | .keywords => "keywords"
  | .layout => "layout"
  | .lang => "lang"

/-- The field with this name. -/
def ofLabel? (s : String) : Option Field :=
  all.find? fun field => field.label == s

/-- The column that holds a field. Only the set goes by another name, since its own is a word of
the condition language. -/
def column : Field → String
  | .set => "set_code"
  | field => field.label

/-- The field is compared in lower case. -/
def isCaseless : Field → Bool
  | .set | .rarity | .layout | .lang => true
  | _ => false

/-- The field holds a list of colors; every other field holds text. -/
def isColorList : Field → Bool
  | .colors | .colorIdentity => true
  | _ => false

end Field

end CardCatalog
