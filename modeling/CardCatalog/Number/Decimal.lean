import CardCatalog.Text.Ascii

/-!
# Decimal integers

Reading and writing integers in base ten. A signed decimal is an optional sign followed by one
or more ASCII digits. `parseInteger` reads it with 64 bits, and where they are too few, it looks at the
sign and the digits again and takes an end of the range, so that a digit string of any length has a
reading.
-/

namespace CardCatalog.Number

open CardCatalog.Text

/-- The value of a string of ASCII digits in base ten. -/
def natOfDigits (digits : List Char) : Nat :=
  Nat.ofDigitChars 10 digits 0

/-- One or more ASCII digits. -/
def isDigits (cs : List Char) : Bool :=
  !cs.isEmpty && cs.all isAsciiDigit

/-- The value of an optional sign followed by one or more ASCII digits. -/
def signedDecimal? : List Char → Option Int
  | '-' :: digits => if isDigits digits then some (-(natOfDigits digits : Int)) else none
  | '+' :: digits => if isDigits digits then some (natOfDigits digits : Int) else none
  | digits => if isDigits digits then some (natOfDigits digits : Int) else none

/-- The sign of a text that may open with one, and what is behind it: whether it is a minus sign. -/
def splitSign : List Char → Bool × List Char
  | '-' :: digits => (true, digits)
  | '+' :: digits => (false, digits)
  | digits => (false, digits)

/-- An integer with 64 bits, if it is in their range. -/
def int64? (n : Int) : Option Int64 :=
  if h : Int64.minValue.toInt ≤ n ∧ n ≤ Int64.maxValue.toInt then some (.ofIntLE n h.1 h.2) else none

/-- Read a signed decimal with 64 bits, if its value is in their range. -/
def parseInt64? (cs : List Char) : Option Int64 :=
  (signedDecimal? cs).bind int64?

/-- The end of the 64-bit range on the side of a signed decimal. -/
def endOfRange? (cs : List Char) : Option Int64 :=
  let (negative, digits) := splitSign cs
  if isDigits digits then some (if negative then .minValue else .maxValue) else none

/-- Read a signed decimal. One whose value is beyond the 64-bit range is read as the end of the
range. -/
def parseInteger (s : String) : Option Int64 :=
  parseInt64? s.toList <|> endOfRange? s.toList

/-- The decimal digits of a natural number. -/
def natDigits (n : Nat) : List Char :=
  Nat.toDigits 10 n

/-- The decimal text of a natural number. -/
def natText (n : Nat) : String :=
  String.ofList (natDigits n)

/-- The decimal text of an integer: a minus sign for a negative one, then its digits. -/
def intText (n : Int) : String :=
  String.ofList (if n < 0 then '-' :: natDigits n.natAbs else natDigits n.natAbs)

/-- Reading the digits of a number gives the number back. -/
theorem nat_of_digits_nat_digits (n : Nat) : natOfDigits (natDigits n) = n := by
  simp [natOfDigits, natDigits, Nat.ofDigitChars_ten_toDigits]

end CardCatalog.Number
