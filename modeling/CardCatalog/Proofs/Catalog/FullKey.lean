import CardCatalog.Catalog.SortOrder
import CardCatalog.Proofs.Text.ByteOrder
import Mathlib.Data.Prod.Lex

/-!
# Full keys

The comparison of an order is that of the full keys of the cards (`le_iff_full_key_le`): pairs that
are compared by their first parts and, where those agree, by their second ones. Texts stand in a key
as their bytes, mana values as numbers, and rarities by their place among those that have one.
-/

namespace CardCatalog

open CardCatalog.Text

/-- The place of a number as a pair: below, among or above the finite numbers, and then in units of
the smallest positive one. -/
def StoredNumber.OrderKey.place (x : OrderKey) : ℤ ×ₗ ℤ :=
  toLex (x.rank, x.units)

/-- Different numbers have different places. -/
theorem StoredNumber.OrderKey.place_injective : Function.Injective place := by
  rintro ⟨rank, units⟩ ⟨rank', units'⟩ h
  obtain ⟨rfl, rfl⟩ := Prod.ext_iff.1 (toLex.injective h)
  rfl

/-- Numbers are in the order of their places. -/
theorem StoredNumber.OrderKey.le_iff_place_le (x y : OrderKey) :
    x.le y = true ↔ x.place ≤ y.place := by
  rw [place, place, Prod.Lex.toLex_le_toLex]
  simp [le]

namespace SortOrder

/-- The rarities with a place of their own, the rarest first. -/
def rankedRarities : List String :=
  ["mythic", "rare", "uncommon", "common"]

/-- A rarity ranks by its place, and behind all of them if it has none. -/
theorem rarity_rank_eq_idx_of (rarity : String) :
    rarityRank rarity = rankedRarities.idxOf (lowerEach rarity) := by
  rw [rarityRank]
  split
  case h_5 hmythic hrare huncommon hcommon =>
    have hnone : lowerEach rarity ∉ rankedRarities := by
      simpa [rankedRarities] using ⟨hmythic, hrare, huncommon, hcommon⟩
    exact (List.idxOf_eq_length hnone).symm
  all_goals
    rename_i heq
    rw [heq]
    decide

/-- What an order compares. -/
def Key : SortOrder → Type
  | .name => List Nat ×ₗ List Nat
  | .manaValue => (ℤ ×ₗ ℤ) ×ₗ List Nat
  | .set => List Nat ×ₗ List Nat
  | .rarity => Nat ×ₗ List Nat

instance : (order : SortOrder) → LinearOrder order.Key
  | .name => inferInstanceAs (LinearOrder (List Nat ×ₗ List Nat))
  | .manaValue => inferInstanceAs (LinearOrder ((ℤ ×ₗ ℤ) ×ₗ List Nat))
  | .set => inferInstanceAs (LinearOrder (List Nat ×ₗ List Nat))
  | .rarity => inferInstanceAs (LinearOrder (Nat ×ₗ List Nat))

/-- The full key of a card. -/
def fullKey : (order : SortOrder) → Row → order.Key
  | .name, row => toLex (bytes row.name, bytes row.set)
  | .manaValue, row => toLex ((StoredNumber.orderKey row.manaValue).place, bytes row.name)
  | .set, row => toLex (bytes row.set, bytes row.name)
  | .rarity, row => toLex (rankedRarities.idxOf (lowerEach row.rarity), bytes row.name)

/-- Texts are compared by their bytes. -/
theorem text_le_iff (s t : String) : textLe s t = true ↔ bytes s ≤ bytes t := by
  rw [bytes_le_bytes_iff, textLe, decide_eq_true_iff]

/-- One comparison after the other is the comparison of pairs of keys. -/
theorem then_by_iff {α β γ δ : Type} [LinearOrder γ] [PartialOrder δ] {first : α → α → Bool}
    {second : β → β → Bool} {f : α → γ} {g : β → δ}
    (hfirst : ∀ x y, first x y = true ↔ f x ≤ f y) (hsecond : ∀ x y, second x y = true ↔ g x ≤ g y)
    (x y : α × β) :
    thenBy first second x y = true ↔ toLex (f x.1, g x.2) ≤ toLex (f y.1, g y.2) := by
  rw [thenBy, Bool.and_eq_true, Bool.or_eq_true, Bool.not_eq_true', ← Bool.not_eq_true, hfirst,
    hfirst, hsecond, Prod.Lex.toLex_le_toLex', not_le]
  refine and_congr_right fun hle => ?_
  rcases hle.lt_or_eq with hlt | heq
  · simp [hlt, hlt.ne]
  · simp [heq]

/-- A card stands before another if its full key does. -/
theorem le_iff_full_key_le (order : SortOrder) (x y : Row) :
    order.le x y = true ↔ order.fullKey x ≤ order.fullKey y := by
  cases order with
  | name => exact then_by_iff text_le_iff text_le_iff (x.name, x.set) (y.name, y.set)
  | manaValue =>
      exact then_by_iff StoredNumber.OrderKey.le_iff_place_le text_le_iff
        (StoredNumber.orderKey x.manaValue, x.name) (StoredNumber.orderKey y.manaValue, y.name)
  | set => exact then_by_iff text_le_iff text_le_iff (x.set, x.name) (y.set, y.name)
  | rarity =>
      have hrank : ∀ m n : Nat, decide (m ≤ n) = true ↔ id m ≤ id n := by simp
      have h := then_by_iff hrank text_le_iff (rarityRank x.rarity, x.name)
        (rarityRank y.rarity, y.name)
      rw [rarity_rank_eq_idx_of, rarity_rank_eq_idx_of] at h
      rw [le, rarity_rank_eq_idx_of, rarity_rank_eq_idx_of]
      exact h

end SortOrder

end CardCatalog
