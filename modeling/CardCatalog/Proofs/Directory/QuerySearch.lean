import CardCatalog.Proofs.Directory.Import
import CardCatalog.Proofs.Query.ZeroFree

/-!
# Searches by a query

The constraints of a query suit the fields they stand on, so none of them keeps the database from a search: in a
directory with a catalog, a search by a query without the character zero is refused only for its limit
(`search_by_query`).
-/

namespace CardCatalog

/-- A constraint that suits its field divides by two, so it has a value for every card. -/
theorem Constraint.IsSearch.not_overflows {constraint : Constraint} (h : constraint.IsSearch) (row : Row) :
    constraint.overflows row = false := by
  cases constraint with
  | modulo field divisor remainder =>
      obtain ⟨_, rfl, _⟩ := h
      have hdivisor : ((2 : Int64).toInt == -1) = false := by decide
      rw [overflows, hdivisor, Bool.false_and]
  | matchesPattern _ _ | equals _ _ | oneOf _ _ | colorsInclude _ _ | colorsWithin _ _ | colorsExactly _ _
  | noColors _ | compare _ _ _ => rfl

/-- A catalog admits the search by a query without the character zero if it accepts the limit. -/
theorem Catalog.admits_compile {query : String} (h : '\x00' ∉ query.toList) (catalog : Catalog)
    (limit : Option Nat) :
    catalog.admits (compile query) limit = true ↔ ∀ n ∈ limit, n ≤ maxLimit := by
  have hvalues : catalog.rows.all
      (fun row => !(compile query).constraints.any (Constraint.overflows row)) = true := by
    refine List.all_eq_true.2 fun row _ => ?_
    rw [Bool.not_eq_true', List.any_eq_false]
    intro constraint hmem
    simp [(compile_constraints query constraint hmem).not_overflows row]
  rw [admits, is_executable_compile h, hvalues]
  simp [Option.all_eq_true]

namespace Directory

variable {directory : Directory} {predicate : Predicate} {order : SortOrder} {limit : Option Nat}

/-- A search of a directory with a catalog finds something exactly if the catalog admits it. -/
theorem search_eq_ok_iff {catalog : Catalog} (hcatalog : directory.catalog = some catalog) :
    (∃ found, directory.search predicate order limit = .ok found) ↔
      catalog.admits predicate limit = true := by
  unfold search Catalog.search?
  simp only [open_catalog_eq_ok_iff.2 hcatalog, bind, Except.bind]
  cases catalog.admits predicate limit with
  | true => simp
  | false => simp

/-- Every constraint of a query suits the field it stands on, and so a search by a query without the character
zero never fails in a directory with a catalog, unless its limit is too great for the database. -/
theorem search_by_query (query : String) :
    (compile query).IsSearch ∧
      ('\x00' ∉ query.toList → ∀ directory : Directory, directory.catalog.isSome = true →
        ∀ (order : SortOrder) (limit : Option Nat),
          (∃ found, directory.search (compile query) order limit = .ok found) ↔
            ∀ n ∈ limit, n ≤ Catalog.maxLimit) := by
  refine ⟨compile_constraints query, fun hquery directory hmade order limit => ?_⟩
  obtain ⟨catalog, hcatalog⟩ := Option.isSome_iff_exists.1 hmade
  rw [search_eq_ok_iff hcatalog, Catalog.admits_compile hquery]

/-- A search for elves that are not green and cost an even amount of mana is carried out without a limit. -/
theorem search_by_query_elves :
    '\x00' ∉ "t:elf -c:g mv:even".toList ∧
      ((Directory.empty "/cards").withCards elfBatches.flatten).catalog.isSome = true ∧
      (compile "t:elf -c:g mv:even").IsSearch ∧
      ∃ found, ((Directory.empty "/cards").withCards elfBatches.flatten).search
        (compile "t:elf -c:g mv:even") .name none = .ok found := by
  have hquery : '\x00' ∉ "t:elf -c:g mv:even".toList := by decide
  obtain ⟨hsearch, hfound⟩ := search_by_query "t:elf -c:g mv:even"
  refine ⟨hquery, rfl, hsearch, ?_⟩
  exact (hfound hquery _ rfl .name none).2 (by simp)

/-- The database refuses a limit above its greatest one, whatever the query. -/
theorem refused_beyond_max_limit :
    '\x00' ∉ "t:elf".toList ∧ ((Directory.empty "/cards").withCards []).catalog.isSome = true ∧
      ((Directory.empty "/cards").withCards []).search (compile "t:elf") .name
        (some (Catalog.maxLimit + 1)) = .error .refused := by
  refine ⟨by decide, rfl, ?_⟩
  have hrefused : (Catalog.ofCards []).admits (compile "t:elf") (some (Catalog.maxLimit + 1)) = false := by
    simp [Catalog.admits]
  rw [search_with_cards, Catalog.search?, hrefused]
  rfl

end Directory

end CardCatalog
