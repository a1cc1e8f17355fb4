import CardCatalog.Text.Pattern.Escape
import CardCatalog.Text.Pattern.Reader

/-!
# Escaped patterns are read literally

The escaped pattern of a text is always a pattern: the sequence of the characters of the text, each
standing for itself (`parse_escape`). The backslash before a special character keeps the reader from
giving it a meaning, and neither a backslash nor a character that is not special starts a repetition.
Different texts have different escaped patterns (`escape_injective`).
-/

namespace CardCatalog.Text.Pattern

/-- The pattern of a text in which every character stands for itself. -/
def literalText (flags : Flags) (cs : List Char) : Pattern :=
  concat (cs.map (literalChar flags))

/-- An escaped special character stands for itself. -/
theorem read_escape_special {c : Char} (h : c ∈ special) (flags : Flags) (rest : List Char) :
    readEscape flags (c :: rest) = some (literalChar flags c, rest) := by
  simp only [special, List.mem_cons, List.not_mem_nil, or_false] at h
  rcases h with rfl | rfl | rfl | rfl | rfl | rfl | rfl | rfl | rfl | rfl | rfl | rfl | rfl | rfl |
    rfl | rfl | rfl | rfl <;> rfl

/-- No repetition follows within an escaped pattern. -/
theorem read_repetition_escaped (cs : List Char) :
    readRepetition (cs.flatMap escapeChar) = none := by
  cases cs with
  | nil => rfl
  | cons c cs =>
      rw [List.flatMap_cons, escapeChar]
      by_cases hspecial : c ∈ special
      · rw [if_pos hspecial]
        rfl
      · rw [if_neg hspecial, List.singleton_append, readRepetition]
        all_goals (intro _ heq; injection heq with hc; subst c; exact hspecial (by decide))

/-- An item within an escaped pattern stands without a repetition. -/
theorem read_repeated_escaped (item : Pattern) (cs : List Char) :
    readRepeated item (cs.flatMap escapeChar) = some (item, cs.flatMap escapeChar) := by
  rw [readRepeated, read_repetition_escaped]

/-- The items of an escaped pattern are the characters of the text. -/
theorem read_items_escaped (flags : Flags) {cs : List Char} {fuel : Nat} (hfuel : cs.length < fuel) :
    readItems fuel flags (cs.flatMap escapeChar) = some (cs.map (literalChar flags), flags, []) := by
  induction cs generalizing fuel with
  | nil =>
      obtain ⟨fuel, rfl⟩ : ∃ n, fuel = n + 1 := ⟨fuel - 1, by omega⟩
      rfl
  | cons c cs ih =>
      obtain ⟨fuel, rfl⟩ : ∃ n, fuel = n + 1 := ⟨fuel - 1, by omega⟩
      have hlength : cs.length < fuel := by simpa using hfuel
      have hrest := ih hlength
      rw [List.flatMap_cons, escapeChar]
      by_cases hspecial : c ∈ special
      · rw [if_pos hspecial, List.cons_append, List.singleton_append, readItems]
        · simp only [read_escape_special hspecial, Option.bind_eq_bind, Option.bind_some,
            read_repeated_escaped, hrest, List.map_cons]
        · intro _ heq
          injection heq with hc
          subst c
          exact absurd hspecial (by decide)
      · -- Every character with a case of its own in the reader is special.
        rw [if_neg hspecial, List.singleton_append, readItems]
        · simp only [read_repeated_escaped, Option.bind_eq_bind, Option.bind_some, hrest,
            List.map_cons]
        all_goals (intros; subst c; exact hspecial (by decide))

/-- The escaped pattern of a text is the pattern in which the characters of the text stand for
themselves. -/
theorem parse_escape (foldCase : Bool) (s : String) :
    parse? foldCase (escape s) = some (literalText ⟨foldCase, false, false⟩ s.toList) := by
  -- The fuel is measured by the escaped text, which is no shorter than the text.
  have hlength : s.toList.length ≤ (s.toList.flatMap escapeChar).length := by
    induction s.toList with
    | nil => simp
    | cons c cs ih =>
        have hchar : 1 ≤ (escapeChar c).length := by
          rw [escapeChar]
          split <;> simp
        rw [List.flatMap_cons, List.length_append, List.length_cons]
        omega
  rw [parse?, escape, String.toList_ofList, readChoice,
    read_items_escaped ⟨foldCase, false, false⟩ (by omega)]
  rfl

/-! ## Different texts -/

/-- Texts with the same escaped characters are the same. -/
theorem escape_chars_injective {cs ds : List Char}
    (h : cs.flatMap escapeChar = ds.flatMap escapeChar) : cs = ds := by
  have hfilled (c : Char) (cs : List Char) : (c :: cs).flatMap escapeChar ≠ [] := by
    rw [List.flatMap_cons, escapeChar]
    split <;> simp
  induction cs generalizing ds with
  | nil =>
      cases ds with
      | nil => rfl
      | cons d ds => exact absurd h.symm (hfilled d ds)
  | cons c cs ih =>
      cases ds with
      | nil => exact absurd h (hfilled c cs)
      | cons d ds =>
          -- A backslash is special, so it stands for itself in neither text.
          have hchars : c = d ∧ cs.flatMap escapeChar = ds.flatMap escapeChar := by
            rw [List.flatMap_cons, List.flatMap_cons, escapeChar, escapeChar] at h
            by_cases hc : c ∈ special
            · by_cases hd : d ∈ special
              · rw [if_pos hc, if_pos hd] at h
                obtain ⟨_, hrest⟩ := List.cons_eq_cons.1 h
                exact List.cons_eq_cons.1 hrest
              · rw [if_pos hc, if_neg hd] at h
                obtain ⟨rfl, _⟩ := List.cons_eq_cons.1 h
                exact absurd (by decide) hd
            · by_cases hd : d ∈ special
              · rw [if_neg hc, if_pos hd] at h
                obtain ⟨rfl, _⟩ := List.cons_eq_cons.1 h
                exact absurd (by decide) hc
              · rw [if_neg hc, if_neg hd] at h
                exact List.cons_eq_cons.1 h
          rw [hchars.1, ih hchars.2]

/-- Escaped patterns of different texts differ. -/
theorem escape_injective {s t : String} (h : escape s = escape t) : s = t :=
  String.toList_injective (escape_chars_injective (String.ofList_injective h))

end CardCatalog.Text.Pattern
