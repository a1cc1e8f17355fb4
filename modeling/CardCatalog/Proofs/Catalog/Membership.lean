import CardCatalog.Proofs.Query.Negation
import CardCatalog.Proofs.Text.LowerCase

/-!
# One of several values

A field is one of several values if it is equal to one of them that is written as the field is compared
(`selects_one_of_iff`). For a field that is compared in lower case these are the values in lower case
only: an equality puts its value into lower case, and a list takes its values as they stand.
-/

namespace CardCatalog

open CardCatalog.Text

variable (row : Row) (field : Field)

/-- What a field is compared as is written as it is compared. -/
theorem compared_value_compared_text :
    comparedValue field (row.comparedText field) = row.comparedText field := by
  rw [comparedValue, Row.comparedText]
  split
  · exact to_lower_lower_each (row.text field)
  · rfl

/-- A row is selected by an equality if its field is compared as the value is. -/
theorem selects_equals_iff (value : String) :
    (Predicate.test (.equals field value)).selects row = true ↔
      row.comparedText field = comparedValue field value := by
  rw [Predicate.selects, Predicate.eval, Constraint.eval, Truth.holds_of_bool, beq_iff_eq]

/-- A row is selected by a list of values if its field is compared as one of them is written. -/
theorem selects_one_of_iff_mem (values : List String) :
    (Predicate.test (.oneOf field values)).selects row = true ↔ row.comparedText field ∈ values := by
  rw [Predicate.selects, Predicate.eval, Constraint.eval, Truth.holds_of_bool, List.contains_iff_mem]

/-- A field is one of the values if and only if it is equal to one of those that are written as the
field is compared. These are all of the values if the field is not compared in lower case, and the
values in lower case if it is. -/
theorem selects_one_of_iff (values : List String) :
    ((Predicate.test (.oneOf field values)).selects row = true ↔
      ∃ value ∈ values, comparedValue field value = value ∧
        (Predicate.test (.equals field value)).selects row = true) ∧
    (field.isCaseless = false →
      ((Predicate.test (.oneOf field values)).selects row = true ↔
        ∃ value ∈ values, (Predicate.test (.equals field value)).selects row = true)) := by
  have hwritten : (Predicate.test (.oneOf field values)).selects row = true ↔
      ∃ value ∈ values, comparedValue field value = value ∧
        (Predicate.test (.equals field value)).selects row = true := by
    rw [selects_one_of_iff_mem]
    constructor
    · intro hmem
      have hlower := compared_value_compared_text row field
      exact ⟨_, hmem, hlower, (selects_equals_iff row field _).2 hlower.symm⟩
    · rintro ⟨value, hmem, hlower, hequal⟩
      rwa [(selects_equals_iff row field value).1 hequal, hlower]
  refine ⟨hwritten, fun hcase => ?_⟩
  have hself (value : String) : comparedValue field value = value := by
    rw [comparedValue, hcase]
    rfl
  simpa only [hself, true_and] using hwritten

/-- The elves have one of two rarities of which one is in lower case, and one of two names. -/
theorem selects_one_of_iff_elves :
    (Predicate.test (.oneOf .rarity ["Rare", "common"])).selects llanowarElves = true ∧
      Field.name.isCaseless = false ∧
      (Predicate.test (.oneOf .name ["Fyndhorn Elves", "Llanowar Elves"])).selects llanowarElves =
        true := by
  have hcase : Field.name.isCaseless = false := rfl
  have hrarity := (selects_one_of_iff llanowarElves .rarity ["Rare", "common"]).1
  have hname :=
    (selects_one_of_iff llanowarElves .name ["Fyndhorn Elves", "Llanowar Elves"]).2 hcase
  exact ⟨hrarity.2 ⟨"common", by decide⟩, hcase, hname.2 ⟨"Llanowar Elves", by decide⟩⟩

/-- A rarity that is equal to a value in capitals is not one of a list with that value. -/
theorem one_of_misses_capitals :
    ¬ ∀ (field : Field) (values : List String) (row : Row), field.isColorList = false →
      ((Predicate.test (.oneOf field values)).selects row = true ↔
        ∃ value ∈ values, (Predicate.test (.equals field value)).selects row = true) := by
  intro h
  have hequal : (Predicate.test (.equals .rarity "Common")).selects llanowarElves = true := by decide
  have hmissed : ¬ (Predicate.test (.oneOf .rarity ["Common"])).selects llanowarElves = true := by
    decide
  exact hmissed ((h .rarity ["Common"] llanowarElves rfl).2 ⟨"Common", by simp, hequal⟩)

end CardCatalog
