import CardCatalog.Text.DigitTable

/-!
# Decimal digits of every script

`isDecimalDigit` accepts the decimal digits of every script, not those of ASCII alone.
-/

namespace CardCatalog.Text

/-- The characters of the general category `Nd`: the decimal digits of every script. -/
def isDecimalDigit (c : Char) : Bool :=
  digitZeros.any fun first => first ≤ c.toNat && c.toNat < first + 10

end CardCatalog.Text
