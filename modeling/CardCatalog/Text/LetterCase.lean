import CardCatalog.Text.Ascii
import CardCatalog.Text.CaseTable

/-!
# Lower case and case folding

`lowerChar` is the simple lower-case mapping of one character. `toLower` lower-cases a text in
full: the capital I with a dot above becomes two characters, and a capital sigma takes its final
form at the end of a word. `foldChar` sends characters that differ only in case to one
representative, which is what a match that ignores case compares.
-/

namespace CardCatalog.Text

/-- The simple lower-case form of a character. -/
def lowerChar (c : Char) : Char :=
  if c.toNat < 128 then asciiLower c
  else if c.toNat == 0x130 then 'i'
  else moveBy lowerCaseRuns c

/-- The simple lower-case form of a text, character by character. -/
def lowerEach (s : String) : String :=
  String.ofList (s.toList.map lowerChar)

/-- The character has a case: it is a letter or letter-like sign of lower, upper or title
case. -/
def isCased (c : Char) : Bool :=
  if c.toNat < 128 then isAsciiLetter c else inRanges casedRanges c

/-- The character is passed over when a word is searched for its neighbouring cased letter:
apostrophes, full stops, colons, accents and marks. -/
def isCaseIgnorable (c : Char) : Bool :=
  if c.toNat < 128 then c == '\'' || c == '.' || c == ':' || c == '^' || c == (Char.ofNat 0x60)
  else inRanges caseIgnorableRanges c

/-- The first character that is not passed over has a case. -/
def meetsCased (cs : List Char) : Bool :=
  match cs.dropWhile isCaseIgnorable with
  | [] => false
  | c :: _ => isCased c

/-- The lower-case forms of the characters that follow `before`, which holds the characters
already passed in reverse. A capital sigma is final when a cased letter precedes it and none
follows. -/
def lowerAfter (before : List Char) : List Char → List Char
  | [] => []
  | c :: rest =>
      let lowered :=
        if c == 'Σ' then
          if meetsCased before && !meetsCased rest then ['ς'] else ['σ']
        else if c.toNat == 0x130 then ['i', Char.ofNat 0x307]
        else [lowerChar c]
      lowered ++ lowerAfter (c :: before) rest

/-- The full lower-case form of a text. -/
def toLower (s : String) : String :=
  String.ofList (lowerAfter [] s.toList)

/-- The representative of the characters that differ from this one only in case. -/
def foldChar (c : Char) : Char :=
  if c.toNat < 128 then asciiLower c else moveBy caseFoldRuns c

end CardCatalog.Text
