import Mathlib.Data.List.Basic

/-!
# Characters taken off the front of a text

What a reader takes while a test accepts the characters, from a text that it accepts throughout and a
rest that it does not go on with, and how long a text of several parts is at least, so that a reader
which takes a part a step has fuel enough.
-/

namespace CardCatalog.Text

/-- The characters that a test accepts are told apart from a rest that it does not go on with. -/
theorem take_while_append_of_all {p : Char → Bool} {cs rest : List Char} (hcs : ∀ c ∈ cs, p c = true)
    (hrest : ∀ c ∈ rest.head?, p c = false) : (cs ++ rest).takeWhile p = cs := by
  rw [List.takeWhile_append_of_pos hcs]
  cases rest with
  | nil => rw [List.takeWhile_nil, List.append_nil]
  | cons c rest => rw [List.takeWhile_cons_of_neg (by simp [hrest c rfl]), List.append_nil]

/-- The rest after the characters that a test accepts. -/
theorem drop_while_append_of_all {p : Char → Bool} {cs rest : List Char} (hcs : ∀ c ∈ cs, p c = true)
    (hrest : ∀ c ∈ rest.head?, p c = false) : (cs ++ rest).dropWhile p = rest := by
  rw [List.dropWhile_append_of_pos hcs]
  cases rest with
  | nil => rfl
  | cons c rest => rw [List.dropWhile_cons_of_neg (by simp [hrest c rfl])]

/-- A text of parts has at least one character a part if no part is empty. -/
theorem length_le_length_flat_map {α : Type} {code : α → List Char} (hcode : ∀ part, code part ≠ [])
    (parts : List α) : parts.length ≤ (parts.flatMap code).length := by
  induction parts with
  | nil => exact Nat.zero_le _
  | cons part parts ih =>
      have hpos := List.length_pos_iff.2 (hcode part)
      rw [List.flatMap_cons, List.length_cons, List.length_append]
      omega

end CardCatalog.Text
