import CardCatalog.Proofs.Pattern.Literal
import CardCatalog.Proofs.Query.Leaves

/-!
# Executable predicates

Composing predicates adds no character zero to a condition, so whether the database takes the
condition of a predicate is a matter of its constraints (`is_executable_iff`). An escaped pattern can
always be read, and its condition holds the character zero only if the text does
(`is_executable_substring`).
-/

namespace CardCatalog

open CardCatalog.Text

namespace Predicate

mutual

/-- The character zero in the condition of a predicate stands in that of one of its constraints. -/
theorem zero_mem_condition_iff (p : Predicate) :
    '\x00' ∈ p.condition.toList ↔ ∃ c ∈ p.constraints, '\x00' ∈ c.condition.toList := by
  match p with
  | .test constraint => simp [condition, constraints]
  | .all [] => simp [condition, constraints, constraintsOf]
  | .any [] => simp [condition, constraints, constraintsOf]
  | .all (p :: ps) =>
      simp [condition, constraints, constraintsOf, String.toList_append, or_and_right, exists_or,
        zero_mem_condition_iff p, zero_mem_condition_rest_iff " AND " (by decide) ps]
  | .any (p :: ps) =>
      simp [condition, constraints, constraintsOf, String.toList_append, or_and_right, exists_or,
        zero_mem_condition_iff p, zero_mem_condition_rest_iff " OR " (by decide) ps]
  | .not inner =>
      simp [condition, constraints, String.toList_append, zero_mem_condition_iff inner]

/-- The character zero in the conditions of further parts stands in that of one of their
constraints. -/
theorem zero_mem_condition_rest_iff (word : String) (hword : '\x00' ∉ word.toList)
    (ps : List Predicate) :
    '\x00' ∈ (conditionRest word ps).toList ↔
      ∃ c ∈ constraintsOf ps, '\x00' ∈ c.condition.toList := by
  match ps with
  | [] => simp [conditionRest, constraintsOf]
  | p :: ps =>
      simp [conditionRest, constraintsOf, String.toList_append, hword, or_and_right, exists_or,
        zero_mem_condition_iff p, zero_mem_condition_rest_iff word hword ps]

end

/-- A predicate is executable if each of its constraints is, without the character zero in its
condition. -/
theorem is_executable_iff (p : Predicate) :
    p.isExecutable = true ↔
      ∀ c ∈ p.constraints, c.isExecutable = true ∧ '\x00' ∉ c.condition.toList := by
  rw [isExecutable, Bool.and_eq_true, List.all_eq_true, Bool.not_eq_true', ← Bool.not_eq_true,
    List.contains_iff_mem, zero_mem_condition_iff]
  constructor
  · rintro ⟨hexecutable, hzero⟩ c hc
    exact ⟨hexecutable c hc, fun hmem => hzero ⟨c, hc, hmem⟩⟩
  · intro h
    exact ⟨fun c hc => (h c hc).1, fun ⟨c, hc, hmem⟩ => (h c hc).2 hmem⟩

/-- A conjunction is executable if its parts are. -/
theorem is_executable_all_of_iff (parts : List Predicate) :
    (allOf parts).isExecutable = true ↔ ∀ p ∈ parts, p.isExecutable = true := by
  simp only [is_executable_iff, constraints_all_of, mem_constraints_of]
  exact ⟨fun h p hp c hc => h c ⟨p, hp, hc⟩, fun h c ⟨p, hp, hc⟩ => h p hp c hc⟩

/-- A disjunction is executable if its parts are. -/
theorem is_executable_any_of_iff (parts : List Predicate) :
    (anyOf parts).isExecutable = true ↔ ∀ p ∈ parts, p.isExecutable = true := by
  simp only [is_executable_iff, constraints_any_of, mem_constraints_of]
  exact ⟨fun h p hp c hc => h c ⟨p, hp, hc⟩, fun h c ⟨p, hp, hc⟩ => h p hp c hc⟩

end Predicate

/-- Doubling quotes adds no other character. -/
theorem mem_double_quotes_iff (c : Char) (cs : List Char) : c ∈ doubleQuotes cs ↔ c ∈ cs := by
  induction cs with
  | nil => simp [doubleQuotes]
  | cons d cs ih =>
      rw [doubleQuotes]
      split <;> simp [ih]

/-- A literal has the character zero if the text between its quotes does. -/
theorem zero_mem_literal_iff (s : String) : '\x00' ∈ (literal s).toList ↔ '\x00' ∈ s.toList := by
  rw [literal, String.toList_ofList, List.mem_append, List.mem_cons, mem_double_quotes_iff]
  have hquote : ('\x00' : Char) ≠ '\x27' := by decide
  simp [hquote]

/-- Escaping adds no character zero. -/
theorem Text.Pattern.zero_mem_escape_iff (s : String) :
    '\x00' ∈ (Pattern.escape s).toList ↔ '\x00' ∈ s.toList := by
  rw [Pattern.escape, String.toList_ofList, List.mem_flatMap]
  constructor
  · rintro ⟨c, hc, hmem⟩
    rw [Pattern.escapeChar] at hmem
    split at hmem
    · simp at hmem
      exact hmem ▸ hc
    · simp at hmem
      exact hmem ▸ hc
  · intro h
    exact ⟨_, h, by decide⟩

/-- A substring search in a field that holds text is executable if the text has no character
zero. -/
theorem SearchKey.is_executable_substring {field : Field} (hfield : field.isColorList = false)
    {text : String} (hzero : '\x00' ∉ text.toList) :
    (substring field text).isExecutable = true := by
  rw [Predicate.is_executable_iff]
  intro c hc
  rw [substring, Predicate.constraints, List.mem_singleton] at hc
  subst hc
  constructor
  · simp [Constraint.isExecutable, hfield, Pattern.parse_escape]
  · have hcolumn : '\x00' ∉ field.column.toList := by cases field <;> decide
    have hliteral : '\x00' ∉ (literal (Pattern.escape text)).toList := by
      rw [zero_mem_literal_iff]
      exact fun h => hzero ((Pattern.zero_mem_escape_iff text).1 h)
    have hcondition : (Constraint.matchesPattern field (Pattern.escape text)).condition =
        "regexp_matches(" ++ ("coalesce(" ++ field.column ++ ", '')") ++ ", " ++
          literal (Pattern.escape text) ++ ", 'i')" := rfl
    rw [hcondition]
    simp [String.toList_append, hcolumn, hliteral]

end CardCatalog
