/-!
# Finite binary64 numbers

A finite binary64 number is a sign, a significand below `2 ^ 53` and a power of two not below
`2 ^ (-1074)`. Everything here is exact arithmetic on natural numbers: `Magnitude.ofRatio` rounds
a quotient to the nearest representable value, an exact half going to the even significand, and
products and quotients of representable values are rounded the same way.
-/

namespace CardCatalog.Number

/-- A representable value without its sign, `significand · 2 ^ exponent`. -/
structure Magnitude where
  significand : Nat
  exponent : Int
deriving DecidableEq

namespace Magnitude

/-- The value zero. -/
def zero : Magnitude :=
  ⟨0, -1074⟩

/-- The value is zero. -/
def isZero (x : Magnitude) : Bool :=
  x.significand == 0

/-- The value as a quotient of natural numbers. -/
def ratio (x : Magnitude) : Nat × Nat :=
  if 0 ≤ x.exponent then (x.significand * Nat.pow 2 x.exponent.toNat, 1)
  else (x.significand, Nat.pow 2 (-x.exponent).toNat)

/-- The greatest `k` with `2 ^ k ≤ numerator / denominator`, for a positive quotient. -/
def floorLog2 (numerator denominator : Nat) : Int :=
  let guess : Int := numerator.log2 - denominator.log2
  let reached :=
    if 0 ≤ guess then denominator * Nat.pow 2 guess.toNat ≤ numerator
    else denominator ≤ numerator * Nat.pow 2 (-guess).toNat
  if reached then guess else guess - 1

/-- The integer nearest to a quotient; an exact half goes to the even neighbour. -/
def roundDiv (numerator denominator : Nat) : Nat :=
  let quotient := numerator / denominator
  let twice := 2 * (numerator % denominator)
  if denominator < twice || (twice == denominator && quotient % 2 == 1) then quotient + 1
  else quotient

/-- The representable value nearest to a quotient, or `none` when it lies beyond the greatest
one. -/
def ofRatio (numerator denominator : Nat) : Option Magnitude :=
  if numerator = 0 then some zero
  else
    let exponent := max (floorLog2 numerator denominator - 52) (-1074)
    let significand :=
      if 0 ≤ exponent then roundDiv numerator (denominator * Nat.pow 2 exponent.toNat)
      else roundDiv (numerator * Nat.pow 2 (-exponent).toNat) denominator
    let rounded : Magnitude :=
      if significand = 0x20000000000000 then ⟨0x10000000000000, exponent + 1⟩ else ⟨significand, exponent⟩
    if rounded.exponent ≤ 971 then some rounded else none

/-- The product of two values, rounded. -/
def mul (x y : Magnitude) : Option Magnitude :=
  ofRatio (x.ratio.1 * y.ratio.1) (x.ratio.2 * y.ratio.2)

/-- The quotient of two values, rounded. The divisor is not zero. -/
def div (x y : Magnitude) : Option Magnitude :=
  ofRatio (x.ratio.1 * y.ratio.2) (x.ratio.2 * y.ratio.1)

/-- The representable value nearest to a power of ten. -/
def powerOfTen (k : Nat) : Option Magnitude :=
  ofRatio (Nat.pow 10 k) 1

/-- The value as a multiple of the smallest positive representable one. -/
def multiple (x : Magnitude) : Nat :=
  x.significand * Nat.pow 2 (x.exponent + 1074).toNat

/-- The value has no fractional part. -/
def isWhole (x : Magnitude) : Bool :=
  x.ratio.1 % x.ratio.2 == 0

/-- The whole part of the value. -/
def floor (x : Magnitude) : Nat :=
  x.ratio.1 / x.ratio.2

end Magnitude

/-- A finite binary64 number. Zero has two signs. -/
structure Binary64 where
  negative : Bool
  magnitude : Magnitude
deriving DecidableEq

namespace Binary64

/-- The number has no fractional part. -/
def isWhole (x : Binary64) : Bool :=
  x.magnitude.isWhole

/-- The number without its fractional part. -/
def truncate (x : Binary64) : Int :=
  if x.negative then -(x.magnitude.floor : Int) else x.magnitude.floor

end Binary64

end CardCatalog.Number
