/-!
# ASCII letters and digits

The tests and mappings that concern ASCII alone. A key word that is compared "ignoring ASCII
case" matches only its ASCII spellings: no other character folds into them.
-/

namespace CardCatalog.Text

/-- The ASCII digits `0` to `9`. -/
def isAsciiDigit (c : Char) : Bool :=
  '0' ≤ c && c ≤ '9'

/-- The ASCII letters, of either case. -/
def isAsciiLetter (c : Char) : Bool :=
  ('a' ≤ c && c ≤ 'z') || ('A' ≤ c && c ≤ 'Z')

/-- The lower-case form of an ASCII capital; every other character stays. -/
def asciiLower (c : Char) : Char :=
  if 'A' ≤ c && c ≤ 'Z' then Char.ofNat (c.toNat + 32) else c

/-- The upper-case form of a small ASCII letter; every other character stays. -/
def asciiUpper (c : Char) : Char :=
  if 'a' ≤ c && c ≤ 'z' then Char.ofNat (c.toNat - 32) else c

/-- The two texts agree up to the case of ASCII letters. -/
def eqIgnoringAsciiCase (s t : String) : Bool :=
  s.toList.map asciiLower == t.toList.map asciiLower

/-- The last digit of a number in base sixteen. -/
def lastHexDigit (n : Nat) : Fin 16 :=
  Fin.ofNat 16 n

/-- The value of an ASCII digit in base sixteen or below: `0` to `9`, then `a` to `f` in either
case. -/
def hexDigitValue (c : Char) : Option (Fin 16) :=
  if '0' ≤ c ∧ c ≤ '9' then some (lastHexDigit (c.toNat - '0'.toNat))
  else if 'a' ≤ c ∧ c ≤ 'f' then some (lastHexDigit (c.toNat - 'a'.toNat + 10))
  else if 'A' ≤ c ∧ c ≤ 'F' then some (lastHexDigit (c.toNat - 'A'.toNat + 10))
  else none

/-- The lower-case base-sixteen digit of a value. -/
def hexDigit (value : Fin 16) : Char :=
  if value.val < 10 then Char.ofNat ('0'.toNat + value.val)
  else Char.ofNat ('a'.toNat + (value.val - 10))

/-- Reading a base-sixteen digit undoes writing it. -/
theorem hex_digit_value_hex_digit (value : Fin 16) : hexDigitValue (hexDigit value) = some value := by
  revert value
  decide

end CardCatalog.Text
