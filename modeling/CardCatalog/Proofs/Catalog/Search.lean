import CardCatalog.Catalog.Basic
import CardCatalog.Proofs.Catalog.Order

/-!
# The answers of a search

An order leaves open how cards that agree in all of it follow each other. `Catalog.Answers` relates a
search to every answer that it may give: the summaries of the selected cards in some order that suits
the sort order, as many as the limit allows. The answer that `Catalog.search?` gives is one of them
(`answers_search`). Catalogs with the same cards have the same answers, and where no two selected
cards agree in the order there is only one (`search_eq_of_perm`).
-/

namespace CardCatalog

namespace Catalog

/-- An answer that a search may give: none if it cannot be carried out, or else the summaries of the
selected cards, sorted and cut off at the limit. -/
inductive Answers (catalog : Catalog) (predicate : Predicate) (order : SortOrder)
    (limit : Option Nat) : Option (List Summary) → Prop where
  | refused (hrefused : catalog.admits predicate limit = false) :
      Answers catalog predicate order limit none
  | found {rows : List Row} (hadmits : catalog.admits predicate limit = true)
      (hperm : rows.Perm (catalog.rows.filter predicate.selects))
      (hsorted : rows.Pairwise fun x y => order.le x y = true) :
      Answers catalog predicate order limit
        (some (limit.elim (rows.map Row.summary) (rows.map Row.summary).take))

/-- No two of the selected cards agree in the order. -/
def NoTies (catalog : Catalog) (predicate : Predicate) (order : SortOrder) : Prop :=
  ∀ x ∈ catalog.rows.filter predicate.selects, ∀ y ∈ catalog.rows.filter predicate.selects,
    order.le x y = true → order.le y x = true → x = y

variable {catalog other : Catalog} {predicate : Predicate} {order : SortOrder} {limit : Option Nat}

/-- A search gives one of the answers that it may give. -/
theorem answers_search (catalog : Catalog) (predicate : Predicate) (order : SortOrder)
    (limit : Option Nat) :
    catalog.Answers predicate order limit (catalog.search? predicate order limit) := by
  rw [search?]
  cases hadmits : catalog.admits predicate limit with
  | false => exact .refused hadmits
  | true =>
      exact .found hadmits (List.mergeSort_perm _ _) (order.pairwise_merge_sort _)

/-- Catalogs with the same cards admit the same searches. -/
theorem admits_eq_of_perm (hperm : catalog.rows.Perm other.rows) :
    catalog.admits predicate limit = other.admits predicate limit := by
  rw [admits, admits, hperm.all_eq]

/-- Catalogs with the same cards may give the same answers. -/
theorem Answers.of_perm {result : Option (List Summary)} (hperm : catalog.rows.Perm other.rows)
    (h : catalog.Answers predicate order limit result) :
    other.Answers predicate order limit result := by
  cases h with
  | refused hrefused => exact .refused (admits_eq_of_perm hperm ▸ hrefused)
  | found hadmits hrows hsorted =>
      exact .found (admits_eq_of_perm hperm ▸ hadmits) (hrows.trans (hperm.filter _)) hsorted

/-- Catalogs with the same cards give the same answer where no two selected cards agree in the
order. -/
theorem search_eq_of_perm (hperm : catalog.rows.Perm other.rows)
    (hties : catalog.NoTies predicate order) :
    catalog.search? predicate order limit = other.search? predicate order limit := by
  have hhits : catalog.hits predicate order = other.hits predicate order := by
    have hselected := hperm.filter predicate.selects
    -- Two sorted lists of the same rows can only differ where rows agree in the order.
    refine List.Perm.eq_of_pairwise ?_ (order.pairwise_merge_sort _) (order.pairwise_merge_sort _)
      (((List.mergeSort_perm _ _).trans hselected).trans (List.mergeSort_perm _ _).symm)
    intro x y hx hy hxy hyx
    exact hties x (List.mem_mergeSort.1 hx) y
      (hselected.mem_iff.2 (List.mem_mergeSort.1 hy)) hxy hyx
  rw [search?, search?, admits_eq_of_perm hperm, hhits]

end Catalog

end CardCatalog
