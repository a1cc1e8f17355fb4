import CardCatalog.Proofs.Number.Digits
import CardCatalog.Proofs.Query.Term
import CardCatalog.Proofs.Text.LetterCase
import CardCatalog.Proofs.Text.Trim
import CardCatalog.Query.NumberValue

/-!
# Integers in queries

An integer literal is an optional minus sign with ASCII digits after it, as many as one likes. It
is read as its value, clamped to 64 bits (`parse_integer_literal`), also behind the symbol of a
comparison (`parse_comparison_append`). Clamping does not show in a comparison with a 32-bit
integer (`holds_clamp`).
-/

namespace CardCatalog

open CardCatalog.Text CardCatalog.Number

namespace Text

/-- An ASCII digit is a decimal digit. -/
theorem is_decimal_digit_of_ascii {c : Char} (h : isAsciiDigit c = true) :
    isDecimalDigit c = true := by
  rw [is_ascii_digit_iff] at h
  refine List.any_eq_true.2 ⟨48, by decide, ?_⟩
  simp only [Bool.and_eq_true, decide_eq_true_eq]
  omega

/-- The zeros of the scripts, and the nine digits after each, are no white space. -/
theorem digit_zeros_apart :
    ∀ first ∈ digitZeros, (0x21 ≤ first ∧ first + 9 < 0x85) ∨ (0xA0 < first ∧ first + 9 < 0x1680) ∨
      (0x1680 < first ∧ first + 9 < 0x2000) ∨ 0x3000 < first := by
  decide

/-- A decimal digit is no white space. -/
theorem not_white_space_of_decimal_digit {c : Char} (h : isDecimalDigit c = true) :
    isWhiteSpace c = false := by
  obtain ⟨first, hmem, hdigit⟩ := List.any_eq_true.1 h
  have hapart := digit_zeros_apart first hmem
  simp only [Bool.and_eq_true, decide_eq_true_eq] at hdigit
  simp only [isWhiteSpace, Bool.or_eq_false_iff, Bool.and_eq_false_iff, decide_eq_false_iff_not,
    beq_eq_false_iff_ne]
  omega

end Text

/-- An integer as a query spells it: an optional minus sign, and ASCII digits. -/
structure IntegerLiteral where
  negative : Bool
  digits : List Char
  digits_ne_nil : digits ≠ []
  ascii : ∀ c ∈ digits, isAsciiDigit c = true

namespace IntegerLiteral

variable (literal : IntegerLiteral)

/-- The characters of a literal. -/
def chars : List Char :=
  if literal.negative then '-' :: literal.digits else literal.digits

/-- The text of a literal. -/
def text : String :=
  String.ofList literal.chars

/-- The value of a literal, which has no bounds. -/
def value : Int :=
  if literal.negative then -(natOfDigits literal.digits : Int) else natOfDigits literal.digits

/-- A literal consists of digits, but for its sign. -/
theorem eq_dash_or_is_digit {c : Char} (h : c ∈ literal.chars) :
    c = '-' ∨ isAsciiDigit c = true := by
  rw [chars] at h
  split at h
  · exact (List.mem_cons.1 h).imp id (literal.ascii c)
  · exact .inr (literal.ascii c h)

/-- A literal has a digit. -/
theorem exists_digit : ∃ c ∈ literal.chars, isAsciiDigit c = true := by
  obtain ⟨c, hc⟩ := List.exists_mem_of_ne_nil _ literal.digits_ne_nil
  refine ⟨c, ?_, literal.ascii c hc⟩
  rw [chars]
  split
  · exact List.mem_cons_of_mem _ hc
  · exact hc

/-- No literal starts with a character that is neither a digit nor a minus sign. -/
theorem head_ne (c : Char) (hdash : c ≠ '-') (hdigit : ¬ isAsciiDigit c = true) :
    literal.chars.head? ≠ some c := by
  intro hhead
  rcases literal.eq_dash_or_is_digit (List.mem_of_head? hhead) with h | h
  · exact hdash h
  · exact hdigit h

/-- A literal has no white space. -/
theorem not_white_space {c : Char} (h : c ∈ literal.chars) : isWhiteSpace c = false := by
  rcases literal.eq_dash_or_is_digit h with rfl | hdigit
  · decide
  · exact not_white_space_of_decimal_digit (is_decimal_digit_of_ascii hdigit)

/-- The digits of a literal are digits. -/
theorem is_digits : isDigits literal.digits = true := by
  rw [isDigits, Bool.and_eq_true, List.all_eq_true]
  exact ⟨by simpa using literal.digits_ne_nil, literal.ascii⟩

/-- A literal is read as its value. -/
theorem signed_decimal_chars : signedDecimal? literal.chars = some literal.value := by
  rw [chars, value]
  split
  · rw [signedDecimal?, if_pos literal.is_digits]
  · exact signed_decimal_of_digits literal.is_digits

/-- A literal is read as its value, clamped to 64 bits. -/
theorem parse_integer_literal :
    parseInteger literal.text = some (Int64.ofIntClamp literal.value) := by
  rw [parse_integer_eq, text, String.toList_ofList, signed_decimal_chars]
  rfl

/-- A literal is the text of an integer. -/
theorem is_integer_text : isIntegerText literal.text = true := by
  have hdigits : (!literal.digits.isEmpty && literal.digits.all isDecimalDigit) = true := by
    rw [Bool.and_eq_true, List.all_eq_true]
    exact ⟨by simpa using literal.digits_ne_nil,
      fun c hc => is_decimal_digit_of_ascii (literal.ascii c hc)⟩
  rw [isIntegerText, text, String.toList_ofList, chars]
  cases literal.negative with
  | true => exact hdigits
  | false =>
      rw [if_neg (by decide)]
      split
      · rename_i hdash
        exact absurd (literal.ascii '-' (by rw [hdash]; exact List.mem_cons_self ..)) (by decide)
      · exact hdigits

end IntegerLiteral

namespace Comparison

/-- The comparison at the front is read, unless an equals sign makes the symbol a longer one. -/
theorem read_front_append (comparison : Comparison) {cs : List Char}
    (hequals : cs.head? ≠ some '=') :
    readFront? (comparison.symbol.toList ++ cs) = some (comparison, cs) := by
  cases cs with
  | nil => cases comparison <;> simp [readFront?, longestFirst, strip?, stripFront?, symbol]
  | cons c cs =>
      have hfirst : '=' ≠ c := fun heq => hequals (by rw [heq]; rfl)
      cases comparison <;> simp [readFront?, longestFirst, strip?, stripFront?, symbol, hfirst]

/-- No comparison stands in front of a literal. -/
theorem read_front_literal (literal : IntegerLiteral) : readFront? literal.chars = none := by
  rw [readFront?, List.findSome?_eq_none_iff]
  intro comparison _
  rw [Option.map_eq_none_iff]
  cases hstrip : comparison.strip? literal.chars with
  | none => rfl
  | some rest =>
      have hhead := congrArg List.head? (strip_eq_some_iff.1 hstrip)
      cases comparison <;> exact absurd hhead (literal.head_ne _ (by decide) (by decide))

/-- No comparison has an empty symbol. -/
theorem symbol_ne_nil (comparison : Comparison) : comparison.symbol.toList ≠ [] := by
  cases comparison <;> decide

/-- The symbols of comparisons hold no white space. -/
theorem not_white_space_symbol (comparison : Comparison) :
    ∀ c ∈ comparison.symbol.toList, isWhiteSpace c = false := by
  have hall : (comparison.symbol.toList.all fun c => !isWhiteSpace c) = true := by
    cases comparison <;> decide
  simpa using hall

/-- The relation between integers that a comparison asks for. -/
def Relates : Comparison → Int → Int → Prop
  | .eq, x, y => x = y
  | .ne, x, y => x ≠ y
  | .gt, x, y => x > y
  | .lt, x, y => x < y
  | .ge, x, y => x ≥ y
  | .le, x, y => x ≤ y

/-- A comparison holds of the integers in its relation. -/
theorem holds_iff_relates (comparison : Comparison) (x y : Int) :
    comparison.holds x y = true ↔ comparison.Relates x y := by
  cases comparison <;> simp [holds, Relates]

instance (comparison : Comparison) (x y : Int) : Decidable (comparison.Relates x y) :=
  decidable_of_iff _ (holds_iff_relates comparison x y)

/-- Clamping moves an integer beyond the 64-bit range to the nearer end. -/
theorem to_int_of_int_clamp (n : Int) :
    (Int64.ofIntClamp n).toInt = max (-9223372036854775808) (min n 9223372036854775807) := by
  have hmin : Int64.minValue.toInt = -9223372036854775808 := rfl
  have hmax : Int64.maxValue.toInt = 9223372036854775807 := rfl
  unfold Int64.ofIntClamp
  split
  · split
    · rw [Int64.toInt_ofIntLE]
      omega
    · omega
  · omega

/-- A bound that is clamped to 64 bits stands to a 32-bit integer as the bound itself does. -/
theorem holds_clamp (comparison : Comparison) {x : Int} (hx : -2147483648 ≤ x ∧ x < 2147483648)
    (bound : Int) :
    comparison.holds x (Int64.ofIntClamp bound).toInt = comparison.holds x bound := by
  rw [Bool.eq_iff_iff, holds_iff_relates, holds_iff_relates, to_int_of_int_clamp]
  cases comparison <;> simp only [Relates] <;> omega

end Comparison

/-- A literal behind the symbol of a comparison is read as that comparison and the value. -/
theorem parse_comparison_append (comparison : Comparison) (literal : IntegerLiteral) :
    parseComparison (comparison.symbol ++ literal.text) =
      (comparison, some (Int64.ofIntClamp literal.value)) := by
  have hchars : (comparison.symbol ++ literal.text).toList =
      comparison.symbol.toList ++ literal.chars := by
    rw [String.toList_append, IntegerLiteral.text, String.toList_ofList]
  have hspace : ∀ c ∈ comparison.symbol.toList ++ literal.chars, isWhiteSpace c = false :=
    List.forall_mem_append.2 ⟨comparison.not_white_space_symbol, fun _ => literal.not_white_space⟩
  have hread := comparison.read_front_append (literal.head_ne '=' (by decide) (by decide))
  rw [parseComparison, hchars, trim_eq_self hspace, hread]
  simp only [Option.getD_some, trim_eq_self fun _ => literal.not_white_space]
  exact congrArg _ literal.parse_integer_literal

/-- A literal on its own is read as equality and the value. -/
theorem parse_comparison_literal (literal : IntegerLiteral) :
    parseComparison literal.text = (.eq, some (Int64.ofIntClamp literal.value)) := by
  have hchars : literal.text.toList = literal.chars := String.toList_ofList
  rw [parseComparison, hchars, trim_eq_self fun _ => literal.not_white_space,
    Comparison.read_front_literal]
  simp only [Option.getD_none, trim_eq_self fun _ => literal.not_white_space]
  exact congrArg _ literal.parse_integer_literal

end CardCatalog
