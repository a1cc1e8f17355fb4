import CardCatalog.Number.Decimal
import CardCatalog.Query.Comparison
import CardCatalog.Text.Digits
import CardCatalog.Text.WhiteSpace

/-!
# Numeric values

The value of a numeric term may carry its own comparison, as in `mv:>=3`. White space around the
symbol and the number is ignored.
-/

namespace CardCatalog

open CardCatalog.Text CardCatalog.Number

/-- The value is an optional minus sign and one or more decimal digits of any script. -/
def isIntegerText (value : String) : Bool :=
  let digits := match value.toList with
    | '-' :: rest => rest
    | cs => cs
  !digits.isEmpty && digits.all isDecimalDigit

/-- Split a value into a comparison, equality when it names none, and the integer that follows, if
one does. -/
def parseComparison (value : String) : Comparison × Option Int64 :=
  let cs := trim value.toList
  let (comparison, rest) := (Comparison.readFront? cs).getD (.eq, cs)
  (comparison, parseInteger (String.ofList (trim rest)))

end CardCatalog
