import CardCatalog.Json.Numeral
import CardCatalog.Text.Ascii

/-!
# Reading JSON text

`Json.parse?` reads a whole text as one JSON value. Text that breaks the grammar is refused;
well-formed parts that hold no value become `Json.unusable`: a number out of range, a text with
half a surrogate pair, and an array or object nested more than 127 deep.
-/

namespace CardCatalog

namespace Json

open CardCatalog.Text

/-- The four characters that may stand between the parts of a JSON text. -/
def isSpace (c : Char) : Bool :=
  c == ' ' || c == '\t' || c == '\n' || c == '\r'

/-- Skip the space before the next part. -/
def skipSpace (cs : List Char) : List Char :=
  cs.dropWhile isSpace

/-- Read four base-sixteen digits. -/
def readHex4 : List Char → Option (Nat × List Char)
  | a :: b :: c :: d :: rest => do
      let a ← hexDigitValue a
      let b ← hexDigitValue b
      let c ← hexDigitValue c
      let d ← hexDigitValue d
      some (((a.val * 16 + b.val) * 16 + c.val) * 16 + d.val, rest)
  | _ => none

/-- One unit of a text between quotes: a character, or a 16-bit code unit from an escape. -/
inductive TextUnit where
  | char (c : Char)
  | code (unit : Nat)

/-- Read the units of a text up to its closing quote. Control characters must be escaped. The
fuel bounds the number of units. -/
def readUnits : Nat → List Char → Option (List TextUnit × List Char)
  | 0, _ => none
  | fuel + 1, cs =>
      match cs with
      | [] => none
      | '\x22' :: rest => some ([], rest)
      | '\\' :: escaped :: rest =>
          let simple (c : Char) : Option (List TextUnit × List Char) := do
            let (units, rest) ← readUnits fuel rest
            some (.char c :: units, rest)
          match escaped with
          | '\x22' => simple '\x22'
          | '\\' => simple '\\'
          | '/' => simple '/'
          | 'b' => simple '\x08'
          | 'f' => simple '\x0c'
          | 'n' => simple '\n'
          | 'r' => simple '\r'
          | 't' => simple '\t'
          | 'u' => do
              let (unit, rest) ← readHex4 rest
              let (units, rest) ← readUnits fuel rest
              some (.code unit :: units, rest)
          | _ => none
      | c :: rest =>
          if c.toNat < 32 || c == '\\' then none
          else do
            let (units, rest) ← readUnits fuel rest
            some (.char c :: units, rest)

/-- The characters that units stand for. Two surrogate halves in order make one character; a
half that stands alone makes none. -/
def decodeUnits : List TextUnit → Option (List Char)
  | [] => some []
  | .char c :: units => (decodeUnits units).map (c :: ·)
  | .code high :: .code low :: units =>
      if 0xD800 ≤ high && high < 0xDC00 then
        if 0xDC00 ≤ low && low < 0xE000 then
          let code := 0x10000 + (high - 0xD800) * 0x400 + (low - 0xDC00)
          (decodeUnits units).map (Char.ofNat code :: ·)
        else none
      else if 0xDC00 ≤ high && high < 0xE000 then none
      else (decodeUnits (.code low :: units)).map (Char.ofNat high :: ·)
  | .code unit :: units =>
      if 0xD800 ≤ unit && unit < 0xE000 then none
      else (decodeUnits units).map (Char.ofNat unit :: ·)

/-- Read a text after its opening quote. -/
def readText (cs : List Char) : Option (Option String × List Char) := do
  let (units, rest) ← readUnits (cs.length + 1) cs
  some ((decodeUnits units).map String.ofList, rest)

/-- Read a number: digits without a superfluous leading zero, then an optional fraction and an
optional exponent, each with at least one digit. -/
def readNumeral (cs : List Char) : Option (Numeral × List Char) := do
  let (negative, cs) := match cs with
    | '-' :: rest => (true, rest)
    | _ => (false, cs)
  let whole := cs.takeWhile isAsciiDigit
  let cs := cs.dropWhile isAsciiDigit
  if whole.isEmpty || (whole.head? == some '0' && whole.length ≠ 1) then none
  let (fraction, cs) ← match cs with
    | '.' :: rest =>
        let digits := rest.takeWhile isAsciiDigit
        if digits.isEmpty then none else some (digits, rest.dropWhile isAsciiDigit)
    | _ => some ([], cs)
  let (exponent, cs) ←
    if cs.head? == some 'e' || cs.head? == some 'E' then
      let (minus, rest) := match cs.tail with
        | '-' :: rest => (true, rest)
        | '+' :: rest => (false, rest)
        | rest => (false, rest)
      let digits := rest.takeWhile isAsciiDigit
      if digits.isEmpty then none else some (some (minus, digits), rest.dropWhile isAsciiDigit)
    else some (none, cs)
  some (⟨negative, whole, fraction, exponent⟩, cs)

/-- The value a numeral stands for. -/
def ofNumeral (n : Numeral) : Json :=
  match n.value? with
  | some value => .number value
  | none => .unusable

/-- Arrays and objects may nest this deep. -/
def maxDepth : Nat :=
  127

/-- A value at a depth: beyond the limit it is unusable. -/
def atDepth (depth : Nat) (value : Json) : Json :=
  if maxDepth < depth then .unusable else value

/-- An object of members whose keys are all usable. -/
def objectOf (members : List (Option String × Json)) : Json :=
  match members.mapM fun (key, value) => key.map (·, value) with
  | some members => .object members
  | none => .unusable

mutual

/-- Read one value at a depth. The fuel bounds the number of parts still to be read. -/
def readValue : Nat → Nat → List Char → Option (Json × List Char)
  | 0, _, _ => none
  | fuel + 1, depth, cs =>
      match skipSpace cs with
      | 'n' :: 'u' :: 'l' :: 'l' :: rest => some (.null, rest)
      | 't' :: 'r' :: 'u' :: 'e' :: rest => some (.bool true, rest)
      | 'f' :: 'a' :: 'l' :: 's' :: 'e' :: rest => some (.bool false, rest)
      | '\x22' :: rest => do
          let (content, rest) ← readText rest
          some (content.elim .unusable .text, rest)
      | '[' :: rest =>
          match skipSpace rest with
          | ']' :: rest => some (atDepth depth (.array []), rest)
          | _ => do
              let (items, rest) ← readItems fuel (depth + 1) rest
              some (atDepth depth (.array items), rest)
      | '\x7b' :: rest =>
          match skipSpace rest with
          | '\x7d' :: rest => some (atDepth depth (.object []), rest)
          | _ => do
              let (members, rest) ← readMembers fuel (depth + 1) rest
              some (atDepth depth (objectOf members), rest)
      | cs => do
          let (numeral, rest) ← readNumeral cs
          some (ofNumeral numeral, rest)

/-- Read one or more items up to the closing bracket. -/
def readItems : Nat → Nat → List Char → Option (List Json × List Char)
  | 0, _, _ => none
  | fuel + 1, depth, cs => do
      let (item, rest) ← readValue fuel depth cs
      match skipSpace rest with
      | ',' :: rest =>
          let (items, rest) ← readItems fuel depth rest
          some (item :: items, rest)
      | ']' :: rest => some ([item], rest)
      | _ => none

/-- Read one or more members up to the closing brace. -/
def readMembers : Nat → Nat → List Char → Option (List (Option String × Json) × List Char)
  | 0, _, _ => none
  | fuel + 1, depth, cs =>
      match skipSpace cs with
      | '\x22' :: rest => do
          let (key, rest) ← readText rest
          match skipSpace rest with
          | ':' :: rest =>
              let (value, rest) ← readValue fuel depth rest
              match skipSpace rest with
              | ',' :: rest =>
                  let (members, rest) ← readMembers fuel depth rest
                  some ((key, value) :: members, rest)
              | '\x7d' :: rest => some ([(key, value)], rest)
              | _ => none
          | _ => none
      | _ => none

end

/-- Read a whole text as one value. -/
def parse? (s : String) : Option Json := do
  let cs := s.toList
  let (value, rest) ← readValue (2 * cs.length + 2) 1 cs
  if (skipSpace rest).isEmpty then some value else none

end Json

end CardCatalog
