import CardCatalog.Proofs.Query.Numeric
import Mathlib.Algebra.Ring.Int.Parity

/-!
# Parities

The words `even` and `odd` under a key whose field holds a number ask for the remainder of a
division by two that rounds towards zero. The remainder of a negative odd integer is minus one
then, so a card with such a number is found by neither word, and every other card by exactly one
of them (`selects_parity_terms`).
-/

namespace CardCatalog

open CardCatalog.Text CardCatalog.Number

/-- The database takes the condition of a parity. -/
theorem Predicate.is_executable_modulo (field : Field) (divisor remainder : Int64) :
    (Predicate.test (.modulo field divisor remainder)).isExecutable = true := by
  rw [is_executable_iff]
  intro c hc
  obtain rfl := List.mem_singleton.1 hc
  have hcondition : (Constraint.modulo field divisor remainder).condition =
      field.integerExpression ++ " % " ++ intText divisor.toInt ++ " = " ++
        intText remainder.toInt := rfl
  refine ⟨rfl, ?_⟩
  rw [hcondition]
  simp [String.toList_append, field.zero_not_mem_integer_expression, zero_not_mem_int_text]

section

variable {key : SearchKey} {field : Field} {spelling : String} (hfield : key.fields = [field])
  (hnumber : field ∈ numberFields) (hspelling : toLower spelling ∈ key.spellings)

include hfield hnumber hspelling

/-- A term that asks for a parity selects the cards with the remainder that the parity stands for,
and the database takes its condition. -/
theorem selects_parity_word (word : String) (remainder : Int64)
    (hparity : SearchKey.parity? field word = some (.test (.modulo field 2 remainder)))
    (hword : (word.toList.all fun c => decide (Token.IsPlain c)) = true) (row : Row) :
    (compile (spelling ++ ":" ++ word)).isExecutable = true ∧
      ((compile (spelling ++ ":" ++ word)).selects row = true ↔
        (row.integer field).tmod 2 = remainder.toInt) := by
  obtain ⟨hfilled, hletters⟩ := SearchKey.is_key_letter_of_mem_spellings hspelling
  have hbuild : buildTerm (spelling ++ ":" ++ word) = some (.test (.modulo field 2 remainder)) := by
    rw [build_numeric_term hfield hnumber hspelling (Term.parse_keyed hfilled hletters word),
      SearchKey.numericSearch?, hparity]
  have hrest : ∀ c ∈ (":" ++ word).toList, Token.IsPlain c := by
    rw [String.toList_append, List.forall_mem_append]
    exact ⟨Token.forall_is_plain_of_all (by decide), Token.forall_is_plain_of_all hword⟩
  have htokens : tokenize (spelling ++ ":" ++ word) = [spelling ++ ":" ++ word] := by
    rw [String.append_assoc]
    exact tokenize_spelling_append hspelling hrest
  have hplain : Symbol.IsPlain (spelling ++ ":" ++ word) :=
    is_plain_of_colon (by simp [String.toList_append])
  constructor
  · exact is_executable_of_plain_token htokens hplain hbuild
      (Predicate.is_executable_modulo field 2 remainder)
  · rw [selects_of_plain_token htokens hplain hbuild, Predicate.selects, Predicate.eval,
      Constraint.eval, if_neg (by decide), Truth.holds_of_bool, beq_iff_eq]
    rfl

end

/-- The remainder of a division by two that rounds towards zero is zero for the even integers. -/
theorem tmod_two_eq_zero_iff (n : Int) : n.tmod 2 = 0 ↔ Even n := by
  rw [Int.even_iff, Int.tmod_eq_emod]
  split <;> omega

/-- The remainder of a division by two that rounds towards zero is one for the odd integers that
are not negative. -/
theorem tmod_two_eq_one_iff (n : Int) : n.tmod 2 = 1 ↔ Odd n ∧ 0 ≤ n := by
  rw [Int.odd_iff, Int.tmod_eq_emod]
  split <;> omega

/-- The word `even` selects the cards whose field, read as an integer or as zero, is even; the
word `odd` selects those whose field is odd and not negative. So a card is selected by exactly one
of the two unless its field is odd and negative, and by neither then. -/
theorem selects_parity_terms {key : SearchKey} {field : Field} {spelling : String}
    (hfield : key.fields = [field]) (hnumber : field ∈ numberFields)
    (hspelling : toLower spelling ∈ key.spellings) (row : Row) :
    (compile (spelling ++ ":" ++ "even")).isExecutable = true ∧
      (compile (spelling ++ ":" ++ "odd")).isExecutable = true ∧
      ((compile (spelling ++ ":" ++ "even")).selects row = true ↔ Even (row.integer field)) ∧
      ((compile (spelling ++ ":" ++ "odd")).selects row = true ↔
        Odd (row.integer field) ∧ 0 ≤ row.integer field) ∧
      (Xor ((compile (spelling ++ ":" ++ "even")).selects row = true)
          ((compile (spelling ++ ":" ++ "odd")).selects row = true) ↔
        ¬ (Odd (row.integer field) ∧ row.integer field < 0)) := by
  obtain ⟨heven, hselectsEven⟩ :=
    selects_parity_word hfield hnumber hspelling "even" 0 rfl (by decide) row
  obtain ⟨hodd, hselectsOdd⟩ :=
    selects_parity_word hfield hnumber hspelling "odd" 1 rfl (by decide) row
  have hzero : (0 : Int64).toInt = 0 := rfl
  have hone : (1 : Int64).toInt = 1 := rfl
  rw [hzero, tmod_two_eq_zero_iff] at hselectsEven
  rw [hone, tmod_two_eq_one_iff] at hselectsOdd
  refine ⟨heven, hodd, hselectsEven, hselectsOdd, ?_⟩
  rw [hselectsEven, hselectsOdd, xor_iff_not_iff, ← Int.not_odd_iff_even]
  by_cases hparity : Odd (row.integer field)
  · simp [hparity]
  · simp [hparity]

/-- Elves that weaken themselves. -/
def weakElves : Row :=
  { llanowarElves with power := some "-1" }

/-- Elves of power one are odd, and elves of power minus one are neither even nor odd. -/
theorem selects_parity_terms_elves :
    SearchKey.power.fields = [.power] ∧ Field.power ∈ numberFields ∧
      toLower "power" ∈ SearchKey.power.spellings ∧
      (compile ("power" ++ ":" ++ "odd")).selects llanowarElves = true ∧
      ¬ (compile ("power" ++ ":" ++ "odd")).selects weakElves = true := by
  have hnumber : Field.power ∈ numberFields := by decide
  have hspelling : toLower "power" ∈ SearchKey.power.spellings := by decide
  obtain ⟨_, _, _, hodd, _⟩ := selects_parity_terms rfl hnumber hspelling llanowarElves
  obtain ⟨_, _, _, hweak, _⟩ := selects_parity_terms rfl hnumber hspelling weakElves
  refine ⟨rfl, hnumber, hspelling, hodd.2 ?_, fun h => absurd (hweak.1 h).2 (by decide)⟩
  exact ⟨⟨0, by decide⟩, by decide⟩

/-- The two words do not divide the cards among them: elves of power minus one are found by
neither. -/
theorem not_divided_by_parity :
    ¬ ∀ (key : SearchKey) (field : Field) (spelling : String), key.fields = [field] →
      field ∈ numberFields → toLower spelling ∈ key.spellings → ∀ row : Row,
        Xor ((compile (spelling ++ ":" ++ "even")).selects row = true)
          ((compile (spelling ++ ":" ++ "odd")).selects row = true) := by
  intro h
  have hnumber : Field.power ∈ numberFields := by decide
  have hspelling : toLower "power" ∈ SearchKey.power.spellings := by decide
  have heven := (selects_parity_word rfl hnumber hspelling "even" 0 rfl (by decide) weakElves).2
  have hodd := (selects_parity_word rfl hnumber hspelling "odd" 1 rfl (by decide) weakElves).2
  rcases h .power .power "power" rfl hnumber hspelling weakElves with ⟨hfound, _⟩ | ⟨hfound, _⟩
  · exact absurd (heven.1 hfound) (by decide)
  · exact absurd (hodd.1 hfound) (by decide)

end CardCatalog
