import CardCatalog.Command.Run
import CardCatalog.Proofs.Catalog.Executable
import CardCatalog.Proofs.Query.Negation

/-!
# Searches hide extras

The exclusion of extras is a query of its own, and stands beside the query of the search in a
conjunction. A conjunction selects what all of its parts select, whatever their shape, so no query
weakens the exclusion, and the exclusion takes nothing but the extras away from a query
(`selects_search_predicate`).
-/

namespace CardCatalog

open CardCatalog.Text

/-- The exclusion is a conjunction of two negated constraints. -/
theorem compile_hide_extras :
    compile hideExtras = .allOf [.not (.test (.oneOf .layout SearchKey.extraLayouts)),
      .not (.test (.equals .typeLine SearchKey.placeholderTypeLine))] := by
  have hread : QueryTree.readPart (Symbol.ofTokens (tokenize hideExtras)) =
      ([[.term "exclude:extras"]], []) := rfl
  exact compile_of_read_part hread

/-- A decided constraint is negated by what does not satisfy it. -/
theorem selects_not_test {constraint : Constraint} {row : Row} {holds : Bool}
    (h : constraint.eval row = .ofBool holds) :
    (Predicate.not (.test constraint)).selects row = !holds := by
  rw [Predicate.selects, Predicate.eval, Predicate.eval, h,
    Truth.holds_not (Truth.of_bool_ne_unknown _), Truth.holds_of_bool]

/-- The exclusion selects the cards that are no extras. -/
theorem selects_hide_extras_iff (row : Row) :
    (compile hideExtras).selects row = true ↔
      lowerEach row.layout ∉ SearchKey.extraLayouts ∧ row.typeLine ≠ some "Card" := by
  have hlayout : (Predicate.not (.test (.oneOf .layout SearchKey.extraLayouts))).selects row =
      !SearchKey.extraLayouts.contains (lowerEach row.layout) := selects_not_test rfl
  have htype : (Predicate.not (.test (.equals .typeLine SearchKey.placeholderTypeLine))).selects row =
      !(row.typeLine.getD "" == "Card") := selects_not_test rfl
  -- A card without a type line is compared as one with an empty type line.
  have habsent : row.typeLine.getD "" = "Card" ↔ row.typeLine = some "Card" := by
    cases row.typeLine <;> simp
  rw [compile_hide_extras, Predicate.selects_all_of]
  simp [hlayout, htype, habsent]

/-- The database takes the condition of the exclusion. -/
theorem is_executable_hide_extras : (compile hideExtras).isExecutable = true := by
  rw [compile_hide_extras]
  decide +kernel

/-- Whatever the query, a search without extras selects the cards that the query selects and that are
no extras, and a search with extras those that the query selects; and the database takes either
condition if it takes that of the query. -/
theorem selects_search_predicate (query : String) (row : Row) :
    ((searchPredicate query false).selects row = true ↔
        (compile query).selects row = true ∧
          lowerEach row.layout ∉ ["token", "double_faced_token", "emblem", "art_series", "planar",
            "scheme", "vanguard"] ∧
          row.typeLine ≠ some "Card") ∧
      (searchPredicate query true).selects row = (compile query).selects row ∧
      ∀ includeExtras, (searchPredicate query includeExtras).isExecutable =
        (compile query).isExecutable := by
  refine ⟨?_, rfl, ?_⟩
  · have hextras := selects_hide_extras_iff row
    rw [SearchKey.extraLayouts] at hextras
    rw [searchPredicate, if_neg (by decide), Predicate.selects_all_of, ← hextras]
    simp
  · intro includeExtras
    cases includeExtras with
    | true => rfl
    | false =>
        rw [searchPredicate, if_neg (by decide), Bool.eq_iff_iff, Predicate.is_executable_all_of_iff]
        simp [is_executable_hide_extras]

end CardCatalog
