import CardCatalog.Text.Ascii

/-!
# Card ids

A card id is a 128-bit number, written as thirty-two base-sixteen digits in five groups with
hyphens between them. It may also be written without hyphens, between braces, or after the words
`urn:uuid:`, in either case.
-/

namespace CardCatalog

open CardCatalog.Text

/-- The id of a card: thirty-two base-sixteen digits. -/
structure CardId where
  digits : List (Fin 16)
  length_digits : digits.length = 32
deriving DecidableEq

namespace CardId

/-- The id made of these digits, if there are thirty-two. -/
def ofDigits? (digits : List (Fin 16)) : Option CardId :=
  if h : digits.length = 32 then some ⟨digits, h⟩ else none

/-- The lower-case text with hyphens after eight, twelve, sixteen and twenty digits. -/
def text (id : CardId) : String :=
  let cs := id.digits.map hexDigit
  String.ofList (cs.take 8 ++ '-' :: ((cs.drop 8).take 4 ++ '-' :: ((cs.drop 12).take 4 ++
    '-' :: ((cs.drop 16).take 4 ++ '-' :: cs.drop 20))))

/-- Read thirty-two digits without hyphens. -/
def ofPlain? (cs : List Char) : Option CardId := do
  ofDigits? (← cs.mapM hexDigitValue)

/-- Read digits with a hyphen after the eighth, twelfth, sixteenth and twentieth. -/
def ofHyphenated? (cs : List Char) : Option CardId :=
  if cs[8]? = some '-' ∧ cs[13]? = some '-' ∧ cs[18]? = some '-' ∧ cs[23]? = some '-' then
    ofPlain? (cs.take 8 ++ ((cs.drop 9).take 4 ++ ((cs.drop 14).take 4 ++
      ((cs.drop 19).take 4 ++ cs.drop 24))))
  else none

/-- The words that may introduce an id. -/
def urnHead : List Char :=
  "urn:uuid:".toList

/-- Read an id in any of its forms, told apart by their lengths. -/
def parse? (s : String) : Option CardId :=
  let cs := s.toList
  if cs.length = 32 then ofPlain? cs
  else if cs.length = 36 then ofHyphenated? cs
  else if cs.length = 38 then
    if cs.head? = some '\x7b' ∧ cs.getLast? = some '\x7d' then
      ofHyphenated? (cs.drop 1).dropLast
    else none
  else if cs.length = 45 then
    if (cs.take 9).map asciiLower = urnHead then ofHyphenated? (cs.drop 9) else none
  else none

end CardId

end CardCatalog
