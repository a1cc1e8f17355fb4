import CardCatalog.Number.Binary64
import CardCatalog.Number.Decimal

/-!
# The shortest decimal text of a binary64 number

`Magnitude.shortest` finds the fewest decimal digits that read back as the same value and, of
those, the ones nearest to it. `Binary64.text` lays the digits out: positionally while the point
falls within sixteen digits to the left or five to the right, with an exponent beyond that.
-/

namespace CardCatalog.Number

namespace Magnitude

/-- The decimal exponent of a positive quotient: the least `k` with
`numerator / denominator < 10 ^ k`, searched upwards from `start`. -/
def decimalExponentFrom (numerator denominator : Nat) : Nat → Int → Int
  | 0, start => start
  | steps + 1, start =>
      let below :=
        if 0 ≤ start then numerator < denominator * Nat.pow 10 start.toNat
        else numerator * Nat.pow 10 (-start).toNat < denominator
      if below then start else decimalExponentFrom numerator denominator steps (start + 1)

/-- The decimal exponent of a positive value. -/
def decimalExponent (x : Magnitude) : Int :=
  let (numerator, denominator) := x.ratio
  let log := floorLog2 numerator denominator
  decimalExponentFrom numerator denominator 3 (log * 30103 / 100000)

/-- The decimal on the grid of multiples of `10 ^ power` that reads back as `x` and lies nearest
to it, as a multiple of the grid's unit. Everything is compared after multiplication by a common
denominator: the value stands at `4 · significand` quarters of its last place, and reads back
from everything between the midpoints to its neighbours. The midpoints themselves belong to an
even significand. -/
def nearestOnGrid (x : Magnitude) (power : Int) : Option Nat :=
  let quarter : Int := x.exponent - 2
  let unitUp := if 0 ≤ power then Nat.pow 10 power.toNat else 1
  let unitDown := if 0 ≤ power then 1 else Nat.pow 10 (-power).toNat
  let placeUp := if 0 ≤ quarter then Nat.pow 2 quarter.toNat else 1
  let placeDown := if 0 ≤ quarter then 1 else Nat.pow 2 (-quarter).toNat
  let unit := unitUp * placeDown
  let place := placeUp * unitDown
  let value := 4 * x.significand * place
  let upper := (4 * x.significand + 2) * place
  let lower :=
    if x.significand = 0x10000000000000 ∧ x.exponent ≠ -1074 then (4 * x.significand - 1) * place
    else (4 * x.significand - 2) * place
  let closed := x.significand % 2 == 0
  let below := value / unit
  let above := below + 1
  let belowFits := 0 < below && (lower < below * unit || (closed && lower == below * unit))
  let aboveFits := above * unit < upper || (closed && above * unit == upper)
  match belowFits, aboveFits with
  | true, false => some below
  | false, true => some above
  | false, false => none
  | true, true =>
      let down := value - below * unit
      let up := above * unit - value
      if down < up || (down == up && below % 2 == 0) then some below else some above

/-- The first hit on the grids of `digits`, `digits + 1`, … significant places, with the power of
ten of that grid. -/
def shortestFrom (x : Magnitude) (top : Int) : Nat → Nat → Nat × Int
  | 0, digits => (0, top - digits)
  | steps + 1, digits =>
      match nearestOnGrid x (top - digits) with
      | some multiple => (multiple, top - digits)
      | none => shortestFrom x top steps (digits + 1)

/-- The fewest significant digits that read back as a positive value, as a natural number and
the power of ten of its last digit. Seventeen digits always do. -/
def shortest (x : Magnitude) : Nat × Int :=
  shortestFrom x (decimalExponent x) 17 1

end Magnitude

/-- Lay out significant digits whose last one has the given power of ten. -/
def layOutDigits (digits : List Char) (power : Int) : List Char :=
  let count : Int := digits.length
  let point := count + power
  if 0 ≤ power ∧ point ≤ 16 then digits ++ List.replicate power.toNat '0' ++ ['.', '0']
  else if 0 < point ∧ point ≤ 16 then
    digits.take point.toNat ++ '.' :: digits.drop point.toNat
  else if -5 < point ∧ point ≤ 0 then
    ['0', '.'] ++ List.replicate (-point).toNat '0' ++ digits
  else
    let mantissa :=
      match digits with
      | [] => []
      | [only] => [only]
      | first :: rest => first :: '.' :: rest
    mantissa ++ 'e' :: (intText (point - 1)).toList

/-- Remove trailing zeros of a natural number, counting them; `steps` bounds how many. -/
def stripZeros : Nat → Nat → Int → Nat × Int
  | 0, n, power => (n, power)
  | steps + 1, n, power =>
      if n ≠ 0 ∧ n % 10 = 0 then stripZeros steps (n / 10) (power + 1) else (n, power)

/-- The text of a finite binary64 number: the shortest digits that read back as it. -/
def Binary64.text (x : Binary64) : String :=
  let sign := if x.negative then ['-'] else []
  if x.magnitude.isZero then String.ofList (sign ++ ['0', '.', '0'])
  else
    let (digits, power) := x.magnitude.shortest
    let (digits, power) := stripZeros 20 digits power
    String.ofList (sign ++ layOutDigits (natDigits digits) power)

end CardCatalog.Number
