import CardCatalog.Number.Binary64
import CardCatalog.Number.Decimal
import CardCatalog.Text.WhiteSpace

/-!
# Numbers stored as text

Power, toughness, loyalty and mana value are stored as the texts that cards print. A condition
reads such a text as a 32-bit integer, rounding a fraction to the nearest integer and a half away
from zero, and the order by mana value reads it as a binary64 number. A text that is no number, or
an integer out of range, has no reading.
-/

namespace CardCatalog.StoredNumber

open CardCatalog.Text CardCatalog.Number

/-- Read digits, among which single underscores may stand. An underscore that no digit follows
spoils the text. -/
def readDigits (isDigit : Char → Bool) : List Char → Option (List Char × List Char)
  | [] => some ([], [])
  | c :: '_' :: rest =>
      if isDigit c then
        match rest with
        | [] => none
        | next :: _ =>
            if isDigit next then do
              let (digits, rest) ← readDigits isDigit rest
              some (c :: digits, rest)
            else none
      else some ([], c :: '_' :: rest)
  | c :: rest =>
      if isDigit c then do
        let (digits, rest) ← readDigits isDigit rest
        some (c :: digits, rest)
      else some ([], c :: rest)

/-- Read a fraction: a point and the digits after it. The flag tells whether there is a point. -/
def readFraction : List Char → Option (Bool × List Char × List Char)
  | '.' :: rest => do
      let (digits, rest) ← readDigits isAsciiDigit rest
      some (true, digits, rest)
  | cs => some (false, [], cs)

/-- Nothing but space is left. -/
def isBlank (cs : List Char) : Bool :=
  cs.all isAsciiSpace

/-- Read an exponent: a sign and digits, with nothing but space after them. -/
def exponent? (cs : List Char) : Option Int := do
  let (negative, cs) := match cs with
    | '-' :: rest => (true, rest)
    | '+' :: rest => (false, rest)
    | cs => (false, cs)
  let (digits, rest) ← readDigits isAsciiDigit cs
  let rest := match rest with
    | '.' :: rest => rest
    | rest => rest
  if digits.isEmpty || !isBlank rest || 32767 < natOfDigits digits then none
  else some (if negative then -(natOfDigits digits : Int) else natOfDigits digits)

/-- Drop the last digits of a number one by one. The second result is the last digit dropped;
dropping ends when no digit is left. -/
def dropDigits : Nat → Nat → Nat → Nat × Nat
  | 0, value, dropped => (value, dropped)
  | steps + 1, value, dropped =>
      if value = 0 then (value, dropped) else dropDigits steps (value / 10) (value % 10)

/-- The greatest whole part that is read. -/
def maxWhole : Nat :=
  0x7FFFFFFFFFFFFFFF

/-- A decimal times a power of ten, as its whole part and the digit after its point. -/
def shift (whole fraction : List Char) (power : Int) : Nat × Nat :=
  if power < 0 then dropDigits (-power).toNat (natOfDigits whole) 0
  else
    let moved := fraction.take power.toNat
    let padding := List.replicate (power.toNat - moved.length) '0'
    (natOfDigits (whole ++ moved ++ padding),
     ((fraction.drop power.toNat).head?.map fun c => c.toNat - '0'.toNat).getD 0)

/-- The number lies in the range of 32-bit integers. -/
def isInt32 (n : Int) : Bool :=
  -0x80000000 ≤ n && n < 0x80000000

/-- A sign, a whole part and the digit after the point as a 32-bit integer. -/
def rounded? (negative : Bool) (whole next : Nat) : Option Int :=
  let signed : Int := if negative then -(whole : Int) else whole
  let nearest := if next < 5 then signed else if negative then signed - 1 else signed + 1
  if isInt32 signed && isInt32 nearest then some nearest else none

/-- Read a decimal after its sign. -/
def decimal? (negative : Bool) (cs : List Char) : Option Int := do
  let (whole, rest) ← readDigits isAsciiDigit cs
  let (_, fraction, rest) ← readFraction rest
  if (whole.isEmpty && fraction.isEmpty) || maxWhole < natOfDigits whole then none
  else
    match rest with
    | c :: rest' =>
        if c = 'e' ∨ c = 'E' then
          let power ← exponent? rest'
          if 20 < whole.length + power ∧ natOfDigits (whole ++ fraction) ≠ 0 ∧
              natOfDigits whole ≠ 0 then none
          else
            let (whole, next) := shift whole fraction (min power 400)
            rounded? negative whole next
        else if isBlank rest then
          let (whole, next) := shift whole fraction 0
          rounded? negative whole next
        else none
    | [] =>
        let (whole, next) := shift whole fraction 0
        rounded? negative whole next

/-- The binary digits. -/
def isBinaryDigit (c : Char) : Bool :=
  c == '0' || c == '1'

/-- Read digits in base two or sixteen, with nothing after them. -/
def inBase? (base : Nat) (isDigit : Char → Bool) (cs : List Char) : Option Int := do
  let (digits, rest) ← readDigits isDigit cs
  if digits.isEmpty || !rest.isEmpty then none
  else
    let value := digits.foldl
      (fun value c => value * base + ((hexDigitValue c).map (·.val)).getD 0) 0
    rounded? false value 0

/-- The 32-bit integer that a text is read as. -/
def toInt32? (s : String) : Option Int :=
  match s.toList.dropWhile isAsciiSpace with
  | '-' :: rest => decimal? true rest
  | '+' :: rest => decimal? false rest
  | '0' :: 'x' :: rest => inBase? 16 (fun c => (hexDigitValue c).isSome) rest
  | '0' :: 'X' :: rest => inBase? 16 (fun c => (hexDigitValue c).isSome) rest
  | '0' :: 'b' :: rest => inBase? 2 isBinaryDigit rest
  | '0' :: 'B' :: rest => inBase? 2 isBinaryDigit rest
  | cs => decimal? false cs

/-- The integer that a condition sees: zero when the text is absent or has no reading. -/
def integerOf (text : Option String) : Int :=
  (text.bind toInt32?).getD 0

/-- A binary64 number by its place in the order of numbers: the infinities surround the finite
numbers, which are counted in units of the smallest positive one, and what is not a number comes
last. -/
structure OrderKey where
  rank : Int
  units : Int
deriving DecidableEq

namespace OrderKey

/-- The place of zero. -/
def zero : OrderKey :=
  ⟨0, 0⟩

/-- The place of an infinity. -/
def infinite (negative : Bool) : OrderKey :=
  ⟨if negative then -1 else 1, 0⟩

/-- The place of what is not a number. -/
def notANumber : OrderKey :=
  ⟨2, 0⟩

/-- The place of a decimal: digits times a power of ten, rounded to binary64. -/
def ofDecimal (negative : Bool) (digits : Nat) (power : Int) : OrderKey :=
  let size := (natDigits digits).length + power
  if digits = 0 ∨ size < -400 then zero
  else if 400 < size then infinite negative
  else
    let magnitude :=
      if 0 ≤ power then Magnitude.ofRatio (digits * Nat.pow 10 power.toNat) 1
      else Magnitude.ofRatio digits (Nat.pow 10 (-power).toNat)
    match magnitude with
    | some x => ⟨0, if negative then -(x.multiple : Int) else x.multiple⟩
    | none => infinite negative

/-- The first number comes before the second or stands with it. -/
def le (x y : OrderKey) : Bool :=
  x.rank < y.rank || (x.rank == y.rank && x.units ≤ y.units)

end OrderKey

/-- Read an exponent if one follows: its value and what is left. -/
def readPower (cs : List Char) : Option (Int × List Char) :=
  if cs.head? == some 'e' || cs.head? == some 'E' then
    let (negative, rest) := match cs.tail with
      | '-' :: rest => (true, rest)
      | '+' :: rest => (false, rest)
      | rest => (false, rest)
    let digits := rest.takeWhile isAsciiDigit
    if digits.isEmpty then none
    else
      let value : Int := natOfDigits digits
      some (if negative then -value else value, rest.dropWhile isAsciiDigit)
  else some (0, cs)

/-- Read a number after its sign as a place in the order of numbers. -/
def orderKeyOf? (negative : Bool) (cs : List Char) : Option OrderKey :=
  let word := (cs.reverse.dropWhile isAsciiSpace).reverse.map asciiLower
  if word = "inf".toList ∨ word = "infinity".toList then some (.infinite negative)
  else if word = "nan".toList then some .notANumber
  else do
    let (whole, rest) ← readDigits isAsciiDigit cs
    let (_, fraction, rest) ← readFraction rest
    if whole.isEmpty && fraction.isEmpty then none
    else
      let (power, rest) ← readPower rest
      if isBlank rest then
        some (.ofDecimal negative (natOfDigits (whole ++ fraction)) (power - fraction.length))
      else none

/-- The place of a text in the order of numbers. -/
def toOrderKey? (s : String) : Option OrderKey :=
  let cs := match s.toList.dropWhile isAsciiSpace with
    | '+' :: rest => rest
    | cs => cs
  match cs with
  | '-' :: rest => orderKeyOf? true rest
  | cs => orderKeyOf? false cs

/-- The place that the order by mana value uses: that of zero when the text is absent or no
number. -/
def orderKey (text : Option String) : OrderKey :=
  (text.bind toOrderKey?).getD .zero

end CardCatalog.StoredNumber
