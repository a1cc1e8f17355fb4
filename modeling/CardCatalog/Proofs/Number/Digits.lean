import CardCatalog.Number.Decimal
import Mathlib.Data.List.Basic
import Mathlib.Tactic.IntervalCases

/-!
# Decimal digits of whole numbers

The digits of a natural number are ASCII digits, at least one of them, and they start with a zero for
zero alone. Integers with the same decimal text are equal. The reader of integers looks at a text up to
two times; what it reads is the value of the text, clamped to 64 bits (`parse_integer_eq`).
-/

namespace CardCatalog.Number

open CardCatalog.Text

/-- The digits of a number are ASCII digits. -/
theorem is_ascii_digit_of_mem_nat_digits {n : Nat} : ∀ c ∈ natDigits n, isAsciiDigit c = true := by
  intro c hc
  have hdigit : c.isDigit = true := Nat.isDigit_of_mem_toDigits (by omega) (by omega) hc
  simpa [isAsciiDigit, Char.isDigit, Char.le_def] using hdigit

/-- A number has at least one digit. -/
theorem nat_digits_ne_nil (n : Nat) : natDigits n ≠ [] :=
  Nat.toDigits_ne_nil

/-- The first digit of a positive number is not zero. -/
theorem head_nat_digits_ne_zero {n : Nat} (h : 0 < n) : (natDigits n).head? ≠ some '0' := by
  induction n using Nat.strongRecOn with
  | ind n ih =>
      rw [natDigits, Nat.toDigits_eq_if (by decide)]
      split
      · interval_cases n <;> decide
      · rename_i hbase
        rw [List.head?_append_of_ne_nil _ Nat.toDigits_ne_nil]
        exact ih (n / 10) (by omega) (by omega)

/-- A number whose first digit is zero has no other one. -/
theorem length_nat_digits_of_head {n : Nat} (h : (natDigits n).head? = some '0') :
    (natDigits n).length = 1 := by
  obtain rfl | hpos := n.eq_zero_or_pos
  · rfl
  · exact absurd h (head_nat_digits_ne_zero hpos)

/-- The decimal text of an integer: a minus sign for a negative one, then its digits. -/
theorem int_text_to_list (n : Int) :
    (intText n).toList = (if n < 0 then ['-'] else []) ++ natDigits n.natAbs := by
  rw [intText, String.toList_ofList]
  split <;> rfl

/-- The decimal text of an integer is made of digits and a minus sign. -/
theorem mem_int_text {n : Int} {c : Char} (h : c ∈ (intText n).toList) :
    c = '-' ∨ isAsciiDigit c = true := by
  rw [int_text_to_list, List.mem_append] at h
  rcases h with hsign | hdigit
  · split at hsign
    · exact .inl (List.mem_singleton.1 hsign)
    · cases hsign
  · exact .inr (is_ascii_digit_of_mem_nat_digits c hdigit)

/-- Digits are read as their value: they are not mistaken for a sign with digits after it. -/
theorem signed_decimal_of_digits {digits : List Char} (h : isDigits digits = true) :
    signedDecimal? digits = some (natOfDigits digits : Int) := by
  have hascii := List.all_eq_true.1 (Bool.and_eq_true_iff.1 h).2
  unfold signedDecimal?
  split
  · exact absurd (hascii '-' List.mem_cons_self) (by decide)
  · exact absurd (hascii '+' List.mem_cons_self) (by decide)
  · rw [if_pos h]

/-- The decimal text of an integer is read back. -/
theorem signed_decimal_int_text (n : Int) : signedDecimal? (intText n).toList = some n := by
  have hdigits (k : Nat) : isDigits (natDigits k) = true := by
    rw [isDigits, Bool.and_eq_true, List.all_eq_true]
    exact ⟨by simpa using nat_digits_ne_nil k, is_ascii_digit_of_mem_nat_digits⟩
  rw [int_text_to_list]
  by_cases hsign : n < 0
  · have hvalue : -(n.natAbs : Int) = n := by omega
    rw [if_pos hsign, List.singleton_append, signedDecimal?, if_pos (hdigits _),
      nat_of_digits_nat_digits, hvalue]
  · have hvalue : (n.natAbs : Int) = n := by omega
    rw [if_neg hsign, List.nil_append, signed_decimal_of_digits (hdigits _),
      nat_of_digits_nat_digits, hvalue]

/-- Integers with the same decimal text are equal. -/
theorem int_text_injective {n m : Int} (h : intText n = intText m) : n = m :=
  Option.some.inj (by rw [← signed_decimal_int_text n, h, signed_decimal_int_text m])

/-- A signed decimal by its sign and its digits. -/
theorem signed_decimal_eq (cs : List Char) :
    signedDecimal? cs =
      if isDigits (splitSign cs).2 then
        some (if (splitSign cs).1 then -(natOfDigits (splitSign cs).2 : Int)
          else natOfDigits (splitSign cs).2)
      else none := by
  unfold signedDecimal? splitSign
  split <;> rfl

/-- An integer with 64 bits, or the end of their range on its side, is the integer clamped to 64
bits. -/
theorem int64_or_end_of_range {negative : Bool} {n : Int} (hnegative : negative = true → n ≤ 0)
    (hpositive : negative = false → 0 ≤ n) :
    (int64? n <|> some (if negative then .minValue else .maxValue)) = some (Int64.ofIntClamp n) := by
  have hmin : Int64.minValue.toInt = -9223372036854775808 := rfl
  have hmax : Int64.maxValue.toInt = 9223372036854775807 := rfl
  unfold int64? Int64.ofIntClamp
  by_cases hlow : Int64.minValue.toInt ≤ n
  · by_cases hhigh : n ≤ Int64.maxValue.toInt
    · rw [dif_pos ⟨hlow, hhigh⟩, dif_pos hlow, dif_pos hhigh]
      rfl
    · cases negative with
      | true => have := hnegative rfl; omega
      | false =>
          rw [dif_neg fun h => hhigh h.2, dif_pos hlow, dif_neg hhigh]
          rfl
  · cases negative with
    | false => have := hpositive rfl; omega
    | true =>
        rw [dif_neg fun h => hlow h.1, dif_neg hlow]
        rfl

/-- Both looks of the reader together clamp the value of a signed decimal to 64 bits. -/
theorem parse_integer_eq (s : String) :
    parseInteger s = (signedDecimal? s.toList).map Int64.ofIntClamp := by
  rw [parseInteger, parseInt64?, endOfRange?, signed_decimal_eq]
  generalize splitSign s.toList = signed
  obtain ⟨negative, digits⟩ := signed
  cases hdigits : isDigits digits with
  | false => simp [hdigits]
  | true =>
      have hclamp := int64_or_end_of_range
        (n := if negative then -(natOfDigits digits : Int) else natOfDigits digits)
        (fun h => by rw [if_pos h]; omega) (fun h => by rw [if_neg (by simp [h])]; omega)
      simpa [hdigits] using hclamp

end CardCatalog.Number
