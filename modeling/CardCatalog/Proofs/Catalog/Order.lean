import CardCatalog.Catalog.SortOrder

/-!
# The orders of a search are total

Each order of a search result compares any two stored cards, and does so transitively. A sorted
result therefore has no two cards the wrong way round.
-/

namespace CardCatalog

namespace SortOrder

/-- A comparison that relates any two values, and does so transitively. -/
structure IsTotal {α : Type} (le : α → α → Bool) : Prop where
  total : ∀ x y, le x y = true ∨ le y x = true
  trans : ∀ x y z, le x y = true → le y z = true → le x z = true

/-- Texts are compared totally. -/
theorem is_total_text : IsTotal textLe where
  total s t := by
    simp only [textLe, decide_eq_true_eq]
    exact Std.le_total
  trans s t u hst htu := by
    simp only [textLe, decide_eq_true_eq] at hst htu ⊢
    exact Std.le_trans hst htu

/-- Numbers that are no more than each other are compared totally. -/
theorem is_total_nat : IsTotal fun m n : Nat => decide (m ≤ n) where
  total m n := by
    simp only [decide_eq_true_eq]
    omega
  trans m n k hmn hnk := by
    simp only [decide_eq_true_eq] at hmn hnk ⊢
    omega

/-- Places in the order of numbers are compared totally. -/
theorem is_total_order_key : IsTotal StoredNumber.OrderKey.le where
  total x y := by
    simp only [StoredNumber.OrderKey.le, Bool.or_eq_true, Bool.and_eq_true, decide_eq_true_eq,
      beq_iff_eq]
    omega
  trans x y z hxy hyz := by
    simp only [StoredNumber.OrderKey.le, Bool.or_eq_true, Bool.and_eq_true, decide_eq_true_eq,
      beq_iff_eq] at hxy hyz ⊢
    omega

/-- Two total comparisons, one after the other, make a total one. -/
theorem IsTotal.then_by {α β : Type} {first : α → α → Bool} {second : β → β → Bool}
    (hfirst : IsTotal first) (hsecond : IsTotal second) : IsTotal (thenBy first second) where
  total x y := by
    simp only [thenBy, Bool.and_eq_true, Bool.or_eq_true, Bool.not_eq_true']
    have hkeys := hfirst.total x.1 y.1
    have hties := hsecond.total x.2 y.2
    cases hxy : first x.1 y.1 with
    | false => exact .inr ⟨hkeys.resolve_left (by simp [hxy]), .inl rfl⟩
    | true =>
        cases hyx : first y.1 x.1 with
        | false => exact .inl ⟨rfl, .inl rfl⟩
        | true => exact hties.imp (fun h => ⟨rfl, .inr h⟩) (fun h => ⟨rfl, .inr h⟩)
  trans x y z hxy hyz := by
    simp only [thenBy, Bool.and_eq_true, Bool.or_eq_true, Bool.not_eq_true'] at hxy hyz ⊢
    obtain ⟨hxy, hxy'⟩ := hxy
    obtain ⟨hyz, hyz'⟩ := hyz
    refine ⟨hfirst.trans _ _ _ hxy hyz, ?_⟩
    cases hzx : first z.1 x.1 with
    | false => exact .inl rfl
    | true =>
        -- The first keys of all three agree, so the second ones decide.
        have hyx : first y.1 x.1 = true := hfirst.trans _ _ _ hyz hzx
        have hzy : first z.1 y.1 = true := hfirst.trans _ _ _ hzx hxy
        rw [hyx] at hxy'
        rw [hzy] at hyz'
        exact .inr (hsecond.trans _ _ _ (hxy'.resolve_left (by simp))
          (hyz'.resolve_left (by simp)))

/-- A total comparison of keys is a total comparison of what has the keys. -/
theorem IsTotal.comap {α β : Type} {le : β → β → Bool} (h : IsTotal le) (key : α → β) :
    IsTotal fun x y => le (key x) (key y) where
  total x y := h.total (key x) (key y)
  trans x y z := h.trans (key x) (key y) (key z)

/-- Every order is total. -/
theorem is_total_le (order : SortOrder) : IsTotal order.le := by
  cases order with
  | name => exact (is_total_text.then_by is_total_text).comap fun row : Row => (row.name, row.set)
  | manaValue =>
      exact (is_total_order_key.then_by is_total_text).comap fun row : Row =>
        (StoredNumber.orderKey row.manaValue, row.name)
  | set => exact (is_total_text.then_by is_total_text).comap fun row : Row => (row.set, row.name)
  | rarity =>
      exact (is_total_nat.then_by is_total_text).comap fun row : Row =>
        (rarityRank row.rarity, row.name)

/-- Sorted rows stand in order. -/
theorem pairwise_merge_sort (order : SortOrder) (rows : List Row) :
    (rows.mergeSort order.le).Pairwise fun x y => order.le x y = true :=
  List.pairwise_mergeSort (is_total_le order).trans
    (fun x y => by simpa using (is_total_le order).total x y) rows

end SortOrder

end CardCatalog
