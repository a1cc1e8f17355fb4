import CardCatalog.Catalog.StoredNumber

/-!
# The range of stored numbers

Whatever a text is read as, by a decimal or by digits in another base, is checked against the
range of 32-bit integers before it counts. So a condition sees 32-bit integers only
(`is_int32_integer_of`).
-/

namespace CardCatalog.StoredNumber

open CardCatalog.Text CardCatalog.Number

/-- The range of 32-bit integers. -/
theorem is_int32_iff (n : Int) : isInt32 n = true ↔ -2147483648 ≤ n ∧ n < 2147483648 := by
  simp only [isInt32, Bool.and_eq_true, decide_eq_true_eq]

/-- What remains after rounding lies in the range. -/
theorem is_int32_of_rounded {negative : Bool} {whole next : Nat} {n : Int}
    (h : rounded? negative whole next = some n) : isInt32 n = true := by
  unfold rounded? at h
  dsimp only at h
  rw [Option.ite_none_right_eq_some, Bool.and_eq_true] at h
  obtain ⟨⟨_, hrange⟩, hsome⟩ := h
  obtain rfl := Option.some.inj hsome
  exact hrange

/-- A decimal is read as a number in the range. -/
theorem is_int32_of_decimal {negative : Bool} {cs : List Char} {n : Int}
    (h : decimal? negative cs = some n) : isInt32 n = true := by
  unfold decimal? at h
  obtain ⟨⟨whole, rest⟩, _, h⟩ := Option.bind_eq_some_iff.1 h
  obtain ⟨⟨_, fraction, rest⟩, _, h⟩ := Option.bind_eq_some_iff.1 h
  dsimp only at h
  split at h
  · exact absurd h (by simp)
  · split at h
    · split at h
      · obtain ⟨power, _, h⟩ := Option.bind_eq_some_iff.1 h
        split at h
        · exact absurd h (by simp)
        · exact is_int32_of_rounded h
      · split at h
        · exact is_int32_of_rounded h
        · exact absurd h (by simp)
    · exact is_int32_of_rounded h

/-- Digits in another base are read as a number in the range. -/
theorem is_int32_of_in_base {base : Nat} {isDigit : Char → Bool} {cs : List Char} {n : Int}
    (h : inBase? base isDigit cs = some n) : isInt32 n = true := by
  unfold inBase? at h
  obtain ⟨⟨digits, rest⟩, _, h⟩ := Option.bind_eq_some_iff.1 h
  dsimp only at h
  split at h
  · exact absurd h (by simp)
  · exact is_int32_of_rounded h

/-- A text is read as a number in the range. -/
theorem is_int32_of_to_int32 {s : String} {n : Int} (h : toInt32? s = some n) :
    isInt32 n = true := by
  unfold toInt32? at h
  split at h
  case h_1 | h_2 | h_7 => exact is_int32_of_decimal h
  case h_3 | h_4 | h_5 | h_6 => exact is_int32_of_in_base h

/-- The integer that a condition sees lies in the range, whatever the stored text. -/
theorem is_int32_integer_of (text : Option String) : isInt32 (integerOf text) = true := by
  unfold integerOf
  cases hread : text.bind toInt32? with
  | none => decide
  | some n =>
      obtain ⟨s, _, hs⟩ := Option.bind_eq_some_iff.1 hread
      exact is_int32_of_to_int32 hs

end CardCatalog.StoredNumber
