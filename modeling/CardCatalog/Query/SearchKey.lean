import CardCatalog.Query.NumberValue
import CardCatalog.Query.Predicate
import CardCatalog.Query.Term
import CardCatalog.Text.Pattern.Escape

/-!
# Search keys

A search key names what a term asks about. Each key has one or more spellings, accepts some
values, and turns a value and an optional comparison into a predicate. A term whose value means
nothing under its key is dropped.
-/

namespace CardCatalog

open CardCatalog.Text

/-- What a search term asks about. -/
inductive SearchKey where
  | color
  | identity
  | type
  | oracle
  | name
  | flavorName
  | manaValue
  | power
  | toughness
  | loyalty
  | set
  | rarity
  | keyword
  | layout
  | exclude
  | language
deriving DecidableEq

namespace SearchKey

/-- Every search key. -/
def all : List SearchKey :=
  [.color, .identity, .type, .oracle, .name, .flavorName, .manaValue, .power, .toughness,
   .loyalty, .set, .rarity, .keyword, .layout, .exclude, .language]

/-- The lower-case spellings of a key. -/
def spellings : SearchKey → List String
  | .color => ["c", "color"]
  | .identity => ["id", "identity"]
  | .type => ["t", "type"]
  | .oracle => ["o", "oracle"]
  | .name => ["name"]
  | .flavorName => ["fn", "flavorname", "flavor"]
  | .manaValue => ["mv", "manavalue", "cmc"]
  | .power => ["pow", "power"]
  | .toughness => ["tou", "toughness"]
  | .loyalty => ["loy", "loyalty"]
  | .set => ["e", "s", "set", "edition"]
  | .rarity => ["r", "rarity"]
  | .keyword => ["kw", "keyword"]
  | .layout => ["layout"]
  | .exclude => ["exclude"]
  | .language => ["lang", "language"]

/-- The key that a text spells, in any case. -/
def lookup? (text : String) : Option SearchKey :=
  all.find? fun key => key.spellings.contains (toLower text)

/-- Every spelling of every key, sorted. -/
def allSpellings : List String :=
  (all.flatMap spellings).mergeSort fun s t => s ≤ t

/-- A set code, layout or language: ASCII letters, digits, underscores and dashes, at least one. -/
def isCode (value : String) : Bool :=
  let cs := value.toList
  !cs.isEmpty && cs.all fun c => isAsciiLetter c || isAsciiDigit c || c == '_' || c == '-'

/-- The key accepts the value. -/
def accepts : SearchKey → String → Bool
  | .set, value | .layout, value | .language, value => isCode value
  | _, _ => true

/-- A substring search, which ignores case. -/
def substring (field : Field) (text : String) : Predicate :=
  .test (.matchesPattern field (Pattern.escape text))

/-- A color search. Without a comparison, and under those that have no meaning for colors, the
card must include the colors. -/
def colorSearch (field : Field) (value : String) (comparison : Option Comparison) : Predicate :=
  let colors := Color.parse value
  if colors.isEmpty then .test (.noColors field)
  else
    match comparison with
    | some .eq => .test (.colorsExactly field colors)
    | some .le => .test (.colorsWithin field colors)
    | _ => .test (.colorsInclude field colors)

/-- Equality, negated under the comparison that says so. -/
def equality (field : Field) (value : String) (comparison : Option Comparison) : Predicate :=
  let equal := Predicate.test (.equals field value)
  if comparison = some .ne then equal.negate else equal

/-- The words `even` and `odd`, in any ASCII case, ask for the remainder of a division by two. -/
def parity? (field : Field) (value : String) : Option Predicate :=
  if eqIgnoringAsciiCase value "even" then some (.test (.modulo field 2 0))
  else if eqIgnoringAsciiCase value "odd" then some (.test (.modulo field 2 1))
  else none

/-- A comparison with an integer. What is not an integer can be equal or unequal as a text, and
has no order. -/
def comparedTo? (field : Field) (comparison : Comparison) (value : String) : Option Predicate :=
  if isIntegerText value then
    (Number.parseInteger value).map fun bound => .test (.compare field comparison bound)
  else
    match comparison with
    | .eq | .ne => some (equality field value (some comparison))
    | _ => none

/-- A numeric search: a parity, or a comparison. Without a comparison of its own the term takes
the one that its value starts with. -/
def numericSearch? (field : Field) (value : String) (comparison : Option Comparison) :
    Option Predicate :=
  match parity? field value with
  | some parity => some parity
  | none =>
      match comparison with
      | some comparison => comparedTo? field comparison value
      | none =>
          match parseComparison value with
          | (comparison, some bound) => some (.test (.compare field comparison bound))
          | (comparison, none) =>
              let trimmed := trim value.toList
              let rest := (comparison.strip? trimmed).getD trimmed
              comparedTo? field comparison (String.ofList rest)

/-- The rarities in ascending order. -/
def rarities : List String :=
  ["common", "uncommon", "rare", "mythic"]

/-- The rarity that a letter abbreviates; anything else stands for itself. -/
def expandRarity (value : String) : String :=
  if value = "c" then "common"
  else if value = "u" then "uncommon"
  else if value = "r" then "rare"
  else if value = "m" then "mythic"
  else value

/-- The place of a rarity in their order. -/
def rarityRank? (value : String) : Option Nat :=
  rarities.findIdx? (· == expandRarity value)

/-- A rarity search. An ordering comparison lists the rarities on its side; a rarity that has no
place in the order is compared as a text. -/
def raritySearch (value : String) (comparison : Option Comparison) : Predicate :=
  let value := toLower value
  match rarityRank? value with
  | none => equality .rarity value comparison
  | some rank =>
      match comparison with
      | some .gt => .test (.oneOf .rarity (rarities.drop (rank + 1)))
      | some .ge => .test (.oneOf .rarity (rarities.drop rank))
      | some .lt => .test (.oneOf .rarity (rarities.take rank))
      | some .le => .test (.oneOf .rarity (rarities.take (rank + 1)))
      | _ => equality .rarity (expandRarity value) comparison

/-- The layouts of tokens, emblems and other extras. -/
def extraLayouts : List String :=
  ["token", "double_faced_token", "emblem", "art_series", "planar", "scheme", "vanguard"]

/-- The type line of memorabilia and other entries that are not game cards. -/
def placeholderTypeLine : String :=
  "Card"

/-- The exclusion of extras, which is the only one there is. -/
def exclusion? (value : String) : Option Predicate :=
  if eqIgnoringAsciiCase value "extras" then
    some (.allOf [
      (Predicate.test (.oneOf .layout extraLayouts)).negate,
      (Predicate.test (.equals .typeLine placeholderTypeLine)).negate])
  else none

/-- The predicate of a value under a key, or `none` when the term is to be dropped. -/
def build? (key : SearchKey) (value : String) (comparison : Option Comparison) :
    Option Predicate :=
  match key with
  | .color => some (colorSearch .colors value comparison)
  | .identity => some (colorSearch .colorIdentity value comparison)
  | .type => some (substring .typeLine value)
  | .oracle => some (substring .oracleText value)
  | .flavorName => some (substring .flavorName value)
  | .keyword => some (substring .keywords value)
  | .name => some (.anyOf [substring .name value, substring .flavorName value])
  | .manaValue => numericSearch? .manaValue value comparison
  | .power => numericSearch? .power value comparison
  | .toughness => numericSearch? .toughness value comparison
  | .loyalty => numericSearch? .loyalty value comparison
  | .set => some (equality .set (toLower value) comparison)
  | .layout => some (equality .layout (toLower value) comparison)
  | .language => some (equality .lang (toLower value) comparison)
  | .rarity => some (raritySearch value comparison)
  | .exclude => exclusion? value

end SearchKey

/-- The predicate of a term, or `none` when its key is unknown, its value is refused, or the value
means nothing under the key. A term without a key searches names. -/
def Term.predicate? (term : Term) : Option Predicate := do
  let key ← match term.key with
    | none => some .name
    | some text => SearchKey.lookup? text
  if key.accepts term.value then
    let predicate ← key.build? term.value term.comparison
    some (if term.negated then predicate.negate else predicate)
  else none

/-- The predicate of a token that stands for a term. -/
def buildTerm (token : String) : Option Predicate :=
  (Term.parse token).predicate?

end CardCatalog
