import CardCatalog.Proofs.Number.Digits
import Mathlib.Data.List.Induction
import Mathlib.Data.Nat.Digits.Defs

/-!
# Integers with a sign

A signed numeral is one or more ASCII digits with a sign or none in front of them, and its value is the
sum of its digits, each times the power of ten of its place, with the sign. The texts that are read as
integers are those of the signed numerals, and each is read as its value (`signed_decimal_eq_some_iff`).
-/

namespace CardCatalog.Number

open CardCatalog.Text

/-- The signs of numbers. -/
inductive Sign where
  | plus
  | minus
deriving DecidableEq

namespace Sign

/-- The character of a sign. -/
def char : Sign → Char
  | plus => '+'
  | minus => '-'

/-- A number with a sign in front of it. -/
def apply : Sign → Int → Int
  | plus, n => n
  | minus, n => -n

end Sign

/-- The number that a digit stands for. -/
def digitValue (c : Char) : Nat :=
  c.toNat - '0'.toNat

/-- The value of digits is the sum over their places, from the last one on. -/
theorem nat_of_digits_eq (digits : List Char) :
    natOfDigits digits = Nat.ofDigits 10 (digits.reverse.map digitValue) := by
  induction digits using List.reverseRecOn with
  | nil => rfl
  | append_singleton digits c ih =>
      rw [natOfDigits] at ih ⊢
      rw [Nat.ofDigitChars_append, Nat.ofDigitChars_cons, Nat.ofDigitChars_nil, ih, List.reverse_concat,
        List.map_cons, Nat.ofDigits_cons, digitValue, Nat.add_comm]

/-- An integer as it is spelled: a sign or none, and ASCII digits. -/
structure SignedNumeral where
  sign : Option Sign
  digits : List Char
  digits_ne_nil : digits ≠ []
  ascii : ∀ c ∈ digits, isAsciiDigit c = true

namespace SignedNumeral

variable (numeral : SignedNumeral)

/-- The characters of a numeral. -/
def chars : List Char :=
  (numeral.sign.map Sign.char).toList ++ numeral.digits

/-- The text of a numeral. -/
def text : String :=
  String.ofList numeral.chars

/-- The sum of the digits, each times the power of ten of its place. -/
def magnitude : Nat :=
  Nat.ofDigits 10 (numeral.digits.reverse.map digitValue)

/-- The value of a numeral, which has no bounds. -/
def value : Int :=
  (numeral.sign.getD .plus).apply numeral.magnitude

/-- A numeral consists of digits, but for its sign. -/
theorem is_sign_or_digit {c : Char} (h : c ∈ numeral.chars) :
    (∃ sign : Sign, c = sign.char) ∨ isAsciiDigit c = true := by
  rw [chars, List.mem_append] at h
  refine h.imp (fun hsign => ?_) (numeral.ascii c)
  obtain ⟨sign, _, hchar⟩ := Option.map_eq_some_iff.1 (Option.mem_toList.1 hsign)
  exact ⟨sign, hchar.symm⟩

/-- A numeral has characters. -/
theorem chars_ne_nil : numeral.chars ≠ [] := by
  intro hempty
  exact numeral.digits_ne_nil (List.append_eq_nil_iff.1 hempty).2

/-- The digits of a numeral are digits. -/
theorem is_digits_digits : isDigits numeral.digits = true := by
  rw [isDigits, Bool.and_eq_true, List.all_eq_true]
  exact ⟨by simpa using numeral.digits_ne_nil, numeral.ascii⟩

/-- A numeral is read as its value. -/
theorem signed_decimal_chars : signedDecimal? numeral.chars = some numeral.value := by
  have hdigits := numeral.is_digits_digits
  rw [chars, value, magnitude, ← nat_of_digits_eq]
  cases numeral.sign with
  | none => exact signed_decimal_of_digits hdigits
  | some sign =>
      cases sign with
      | plus => exact if_pos hdigits
      | minus => exact if_pos hdigits

end SignedNumeral

/-- Only digits with a sign or none in front of them are read as integers. -/
theorem exists_numeral_of_signed_decimal {cs : List Char} {n : Int} (h : signedDecimal? cs = some n) :
    ∃ numeral : SignedNumeral, numeral.chars = cs := by
  -- Digits with any sign make up a numeral.
  have hnumeral (sign : Option Sign) {digits : List Char} (hdigits : isDigits digits = true) :
      ∃ numeral : SignedNumeral, numeral.chars = (sign.map Sign.char).toList ++ digits := by
    rw [isDigits, Bool.and_eq_true, List.all_eq_true] at hdigits
    exact ⟨⟨sign, digits, by simpa using hdigits.1, hdigits.2⟩, rfl⟩
  unfold signedDecimal? at h
  split at h
  · rename_i digits
    exact hnumeral (some .minus) (Option.isSome_ite.1 (Option.isSome_of_eq_some h))
  · rename_i digits
    exact hnumeral (some .plus) (Option.isSome_ite.1 (Option.isSome_of_eq_some h))
  · exact hnumeral none (Option.isSome_ite.1 (Option.isSome_of_eq_some h))

/-- A text is read as an integer if and only if it is a signed numeral of that value. -/
theorem signed_decimal_eq_some_iff {cs : List Char} {n : Int} :
    signedDecimal? cs = some n ↔ ∃ numeral : SignedNumeral, numeral.chars = cs ∧ numeral.value = n := by
  constructor
  · intro h
    obtain ⟨numeral, rfl⟩ := exists_numeral_of_signed_decimal h
    exact ⟨numeral, rfl, Option.some.inj (numeral.signed_decimal_chars.symm.trans h)⟩
  · rintro ⟨numeral, rfl, rfl⟩
    exact numeral.signed_decimal_chars

end CardCatalog.Number
