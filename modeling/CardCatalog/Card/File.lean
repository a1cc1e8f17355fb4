import CardCatalog.Card.Encoding
import CardCatalog.Json.Reader

/-!
# Card files

A card file holds JSON text: an array of cards, or an object with such an array under `data`. A
file whose name has the extension `gz` is compressed. `FileContents` says what is in a file as far
as this library can tell.
-/

namespace CardCatalog

/-- What a file holds: a text, a text that is gzip-compressed, or bytes that are neither. -/
inductive FileContents where
  | text (content : String)
  | gzip (content : String)
  | other
deriving DecidableEq

namespace FileContents

/-- The text of an uncompressed file. -/
def asText? : FileContents → Option String
  | .text content => some content
  | _ => none

/-- The text that decompression yields. -/
def decompress? : FileContents → Option String
  | .gzip content => some content
  | _ => none

end FileContents

/-- The last part of a path that is not empty. -/
def fileName (path : List Char) : List Char :=
  (((path.reverse.dropWhile (· == '/')).takeWhile (· != '/'))).reverse

/-- The extension of a file name: what follows its last full stop, unless that is the first
character. -/
def extension? (name : List Char) : Option (List Char) :=
  let after := name.reverse.takeWhile (· != '.')
  match name.reverse.dropWhile (· != '.') with
  | [] => none
  | [_] => none
  | _ => some after.reverse

/-- The file is compressed, to judge by its name. -/
def isCompressedName (path : String) : Bool :=
  extension? (fileName path.toList) == some ['g', 'z']

/-- The cards of a card file's value: the value has to be usable throughout, since nothing in it is
known before it is read. -/
def cardsOfJson? (value : Json) : Option (List CardRecord) :=
  if value.isUsable then
    match CardRecord.listOfJson? value with
    | some cards => some cards
    | none =>
        match value with
        | .object members =>
            match Json.valuesAt members "data" with
            | [data] => CardRecord.listOfJson? data
            | _ => none
        | _ => none
  else none

/-- Read the cards of a file with this path. -/
def readCards? (path : String) (contents : FileContents) : Option (List CardRecord) := do
  let content ← if isCompressedName path then contents.decompress? else contents.asText?
  cardsOfJson? (← Json.parse? content)

/-- Read the text of one card. Members it does not know need not be usable. -/
def CardRecord.parse? (text : String) : Option CardRecord := do
  CardRecord.ofJson? (← Json.parse? text)

end CardCatalog
