import CardCatalog.Json.Basic

/-!
# The value of a number's text

A numeral is the text of a JSON number taken apart. `Numeral.value?` gives its value: an integer
when it has neither fraction nor exponent and fits 64 bits, and otherwise the binary64 number
obtained by rounding the significant digits and the power of ten one after the other. Only the
leading digits that fit an unsigned 64-bit integer are significant.
-/

namespace CardCatalog

open CardCatalog.Number

/-- The parts of a number's text: its sign, the digits before the point, the digits after it, and
the exponent with its sign. -/
structure Numeral where
  negative : Bool
  whole : List Char
  fraction : List Char
  exponent : Option (Bool × List Char)
deriving DecidableEq

namespace Numeral

/-- The greatest unsigned 64-bit integer. -/
def maxSignificand : Nat :=
  0xFFFFFFFFFFFFFFFF

/-- Append digits to a significand while it fits 64 bits, counting the digits taken. The first
digit that does not fit ends the reading. -/
def appendDigits (significand taken : Nat) : List Char → Nat × Nat
  | [] => (significand, taken)
  | digit :: digits =>
      let next := significand * 10 + (digit.toNat - '0'.toNat)
      if next ≤ maxSignificand then appendDigits next (taken + 1) digits
      else (significand, taken)

/-- Divide a magnitude by a power of ten, by at most `10 ^ 308` at a time. -/
def scaleDown (x : Magnitude) (power : Nat) : Option Magnitude :=
  if x.isZero then some x
  else if power ≤ 308 then do x.div (← Magnitude.powerOfTen power)
  else do
    let smaller ← x.div (← Magnitude.powerOfTen 308)
    scaleDown smaller (power - 308)
termination_by power

/-- A magnitude times a power of ten, or `none` when the product is too great. -/
def scale (x : Magnitude) (power : Int) : Option Magnitude :=
  if 0 ≤ power then
    if power ≤ 308 then do x.mul (← Magnitude.powerOfTen power.toNat)
    else if x.isZero then some x
    else none
  else scaleDown x (-power).toNat

/-- The greatest 32-bit integer: no exponent counts beyond it. -/
def maxExponent : Int :=
  0x7FFFFFFF

/-- The magnitude of significant digits times a power of ten, and an exponent. An exponent beyond
32 bits makes the number zero when it is negative or the digits are, and too great otherwise. -/
def magnitude? (significand : Nat) (power : Int) (exponent : Option (Bool × List Char)) :
    Option Magnitude := do
  match exponent with
  | none => scale (← Magnitude.ofRatio significand 1) power
  | some (negative, digits) =>
      let amount : Int := natOfDigits digits
      if maxExponent < amount then
        if significand = 0 ∨ negative then some Magnitude.zero else none
      else
        let sum := if negative then power - amount else power + amount
        scale (← Magnitude.ofRatio significand 1) (max (-maxExponent - 1) (min maxExponent sum))

/-- The value of a numeral, or `none` when it lies beyond the range of binary64. -/
def value? (n : Numeral) : Option JsonNumber :=
  let (leading, taken) := appendDigits 0 0 n.whole
  let dropped := n.whole.length - taken
  if n.fraction.isEmpty && n.exponent.isNone && dropped == 0 &&
      (!n.negative || (0 < leading && leading ≤ 0x8000000000000000)) then
    some (.integer (if n.negative then -(leading : Int) else leading))
  else do
    let (significand, places) := appendDigits leading 0 n.fraction
    let magnitude ← magnitude? significand ((dropped : Int) - places) n.exponent
    some (.real ⟨n.negative, magnitude⟩)

end Numeral

end CardCatalog
