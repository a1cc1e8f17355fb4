import CardCatalog.Number.Binary64
import CardCatalog.Number.Decimal
import CardCatalog.Toml.Basic

/-!
# Numbers and points in time in TOML

An integer is written in base ten with an optional sign, or in base two, eight or sixteen after
`0b`, `0o` or `0x`; it has to fit 64 bits. A real number has a fraction or an exponent, and is
refused when it lies beyond the range of binary64. Single underscores may stand between digits. A
point in time is a date, a time, or both, with an offset if it has both.
-/

namespace CardCatalog.Toml

open CardCatalog.Text CardCatalog.Number

/-- The characters that a reader has taken from the front of a text. -/
def taken (cs rest : List Char) : List Char :=
  cs.take (cs.length - rest.length)

/-- Read the digits that follow a digit. Each may have an underscore before it. -/
def readMoreDigits (isDigit : Char → Bool) : List Char → List Char × List Char
  | '_' :: c :: rest =>
      if isDigit c then
        let (digits, rest) := readMoreDigits isDigit rest
        (c :: digits, rest)
      else ([], '_' :: c :: rest)
  | c :: rest =>
      if isDigit c then
        let (digits, rest) := readMoreDigits isDigit rest
        (c :: digits, rest)
      else ([], c :: rest)
  | [] => ([], [])

/-- Read one or more digits. -/
def readDigits (isDigit : Char → Bool) : Reader (List Char)
  | c :: rest =>
      if isDigit c then
        let (digits, rest) := readMoreDigits isDigit rest
        some (c :: digits, rest)
      else none
  | [] => none

/-- Read the whole part of a number in base ten, which has no superfluous leading zero. -/
def readWhole : Reader (List Char)
  | '0' :: rest => some (['0'], rest)
  | cs => readDigits isAsciiDigit cs

/-- Read a sign if there is one. The flag tells whether it is a minus sign. -/
def readSign : List Char → Bool × List Char
  | '-' :: rest => (true, rest)
  | '+' :: rest => (false, rest)
  | cs => (false, cs)

/-- The integer fits 64 bits. -/
def isInt64 (n : Int) : Bool :=
  Int64.minValue.toInt ≤ n && n ≤ Int64.maxValue.toInt

/-- A 64-bit integer as a value. -/
def integer? (n : Int) (rest : List Char) : Option (Toml × List Char) :=
  if isInt64 n then some (.integer n, rest) else none

/-- The value of digits in base sixteen or below. -/
def valueInBase (base : Nat) (digits : List Char) : Nat :=
  digits.foldl (fun value c => value * base + ((hexDigitValue c).map (·.val)).getD 0) 0

/-- The character is a digit of the base, which is sixteen at most. -/
def isDigitOf (base : Nat) (c : Char) : Bool :=
  (hexDigitValue c).any fun value => value.val < base

/-- Read the digits of an integer in a base that its first two characters name. -/
def readInBase (base : Nat) : Reader Toml := fun cs => do
  let (digits, rest) ← readDigits (isDigitOf base) cs
  integer? (valueInBase base digits) rest

/-- Read an integer. -/
def readInteger : Reader Toml
  | '0' :: 'x' :: rest => readInBase 16 rest
  | '0' :: 'o' :: rest => readInBase 8 rest
  | '0' :: 'b' :: rest => readInBase 2 rest
  | cs => do
      let (negative, rest) := readSign cs
      let (digits, rest) ← readWhole rest
      let magnitude : Int := natOfDigits digits
      integer? (if negative then -magnitude else magnitude) rest

/-- Read a fraction if a point stands here. -/
def readFraction : Reader (List Char)
  | '.' :: rest => readDigits isAsciiDigit rest
  | cs => some ([], cs)

/-- Read an exponent if one starts here. -/
def readExponent : Reader Int
  | [] => some (0, [])
  | c :: rest =>
      if c == 'e' || c == 'E' then do
        let (negative, rest) := readSign rest
        let (digits, rest) ← readDigits isAsciiDigit rest
        let magnitude : Int := natOfDigits digits
        some (if negative then -magnitude else magnitude, rest)
      else some (0, c :: rest)

/-- A decimal, digits times a power of ten, rounds to a finite binary64 number. -/
def isFinite (digits : Nat) (power : Int) : Bool :=
  let size := (natDigits digits).length + power
  if digits = 0 ∨ size < 0 then true
  else if 400 < size then false
  else if 0 ≤ power then (Magnitude.ofRatio (digits * Nat.pow 10 power.toNat) 1).isSome
  else (Magnitude.ofRatio digits (Nat.pow 10 (-power).toNat)).isSome

/-- Read a real number: a whole part with a fraction, an exponent, or both. One that is too great is
refused; the negative of such a number stands for minus infinity. -/
def readReal : Reader Toml := fun cs => do
  let (negative, rest) := readSign cs
  let (whole, afterWhole) ← readWhole rest
  let (fraction, rest) ← readFraction afterWhole
  let (exponent, rest) ← readExponent rest
  if rest.length = afterWhole.length then none
  else if negative || isFinite (natOfDigits (whole ++ fraction)) (exponent - fraction.length) then
    some (.real (String.ofList (taken cs rest)), rest)
  else none

/-- Read a word. -/
def readWord (word : String) (cs : List Char) : Option (List Char) :=
  if cs.take word.length = word.toList then some (cs.drop word.length) else none

/-- Read an infinity or what is not a number, with an optional sign. -/
def readSpecial : Reader Toml := fun cs => do
  let (_, rest) := readSign cs
  let rest ← readWord "inf" rest <|> readWord "nan" rest
  some (.real (String.ofList (taken cs rest)), rest)

/-- Read a number of digits, whose value has to lie between two bounds. -/
def readField (width least greatest : Nat) : Reader Nat := fun cs =>
  let digits := cs.take width
  let value := natOfDigits digits
  if digits.length = width && digits.all isAsciiDigit && least ≤ value && value ≤ greatest then
    some (value, cs.drop width)
  else none

/-- The number of days in a month. -/
def daysIn (year month : Nat) : Nat :=
  if month = 2 then
    if year % 4 = 0 ∧ (year % 100 ≠ 0 ∨ year % 400 = 0) then 29 else 28
  else if month = 4 ∨ month = 6 ∨ month = 9 ∨ month = 11 then 30
  else 31

/-- Read a date. -/
def readDate (cs : List Char) : Option (List Char) := do
  let (year, rest) ← readField 4 0 9999 cs
  let (month, rest) ← readField 2 1 12 (← readWord "-" rest)
  let (_, rest) ← readField 2 1 (daysIn year month) (← readWord "-" rest)
  some rest

/-- Read the fraction of a second if there is one. -/
def skipSecondFraction : List Char → List Char
  | '.' :: c :: rest => if isAsciiDigit c then rest.dropWhile isAsciiDigit else '.' :: c :: rest
  | cs => cs

/-- Read a time of day. -/
def readTime (cs : List Char) : Option (List Char) := do
  let (_, rest) ← readField 2 0 23 cs
  let (_, rest) ← readField 2 0 59 (← readWord ":" rest)
  let (_, rest) ← readField 2 0 60 (← readWord ":" rest)
  some (skipSecondFraction rest)

/-- Read an offset: `Z`, or a sign with hours and minutes. -/
def readOffset : List Char → Option (List Char)
  | c :: rest =>
      if c == 'Z' || c == 'z' then some rest
      else if c == '+' || c == '-' then do
        let (_, rest) ← readField 2 0 23 rest
        let (_, rest) ← readField 2 0 59 (← readWord ":" rest)
        some rest
      else none
  | [] => none

/-- Read a time after a date, with an offset if there is one. -/
def readTimeAfterDate : List Char → Option (List Char)
  | c :: rest =>
      if c == 'T' || c == 't' || c == ' ' then do
        let rest ← readTime rest
        some ((readOffset rest).getD rest)
      else none
  | [] => none

/-- Read a point in time. -/
def readMoment : Reader Toml := fun cs => do
  let rest ← (readDate cs).map (fun rest => (readTimeAfterDate rest).getD rest) <|> readTime cs
  some (.moment (String.ofList (taken cs rest)), rest)

/-- Read a number or a point in time. -/
def readNumber : Reader Toml := fun cs =>
  readMoment cs <|> readReal cs <|> readSpecial cs <|> readInteger cs

end CardCatalog.Toml
