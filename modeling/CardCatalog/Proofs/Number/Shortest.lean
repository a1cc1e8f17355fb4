import CardCatalog.Number.Shortest
import CardCatalog.Proofs.Number.Digits
import Mathlib.Tactic.SplitIfs

/-!
# The text of a binary64 number is not that of an integer

The text of a binary64 number holds a point or an exponent, however its digits are laid out, and the
decimal text of an integer holds neither (`text_ne_int_text`).
-/

namespace CardCatalog.Number

open CardCatalog.Text

/-- Digits are laid out with a point or an exponent. -/
theorem mem_lay_out_digits (digits : List Char) (power : Int) :
    '.' ∈ layOutDigits digits power ∨ 'e' ∈ layOutDigits digits power := by
  unfold layOutDigits
  simp only
  split_ifs
  · exact .inl (by simp)
  · exact .inl (by simp)
  · exact .inl (by simp)
  · exact .inr (by simp)

/-- The text of a binary64 number has a point or an exponent. -/
theorem Binary64.mem_text (x : Binary64) : '.' ∈ x.text.toList ∨ 'e' ∈ x.text.toList := by
  rw [Binary64.text]
  split
  · exact .inl (by simp)
  · have hdigits := mem_lay_out_digits
      (natDigits (stripZeros 20 x.magnitude.shortest.1 x.magnitude.shortest.2).1)
      (stripZeros 20 x.magnitude.shortest.1 x.magnitude.shortest.2).2
    simpa using hdigits

/-- The text of a binary64 number is not that of an integer. -/
theorem Binary64.text_ne_int_text (x : Binary64) (n : Int) : x.text ≠ intText n := by
  intro h
  have hmem := x.mem_text
  rw [h] at hmem
  rcases hmem with hpoint | hexponent
  · rcases mem_int_text hpoint with hdash | hdigit
    · exact absurd hdash (by decide)
    · exact absurd hdigit (by decide)
  · rcases mem_int_text hexponent with hdash | hdigit
    · exact absurd hdash (by decide)
    · exact absurd hdigit (by decide)

end CardCatalog.Number
