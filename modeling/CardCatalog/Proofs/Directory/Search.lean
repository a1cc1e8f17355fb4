import CardCatalog.Proofs.Catalog.FullKey
import CardCatalog.Proofs.Catalog.ManaValue
import CardCatalog.Proofs.Directory.Import

/-!
# A search filters, sorts and takes

Where no two of the cards for which a predicate is true have the same full key, there is exactly
one list of these cards in the order of their keys. Without a limit a search answers with the
summaries of that list, and with a limit by as many of the first ones
(`search_filters_sorts_takes`). Where the order is that by mana value, the cards stand in the
order of the numbers that these values stand for: decimals are rounded to binary64 before they are
compared, so that only two that are rounded to the same number can stand the other way around.
-/

namespace CardCatalog

open CardCatalog.Text

/-- The summary of a card tells its id. -/
theorem Row.id_eq_of_summary_eq {row other : Row} (h : row.summary = other.summary) :
    row.id = other.id :=
  CardId.text_injective (congrArg Summary.id h)

/-- A predicate selects the rows for which it is true. -/
theorem Predicate.selects_iff_eval_eq_yes (predicate : Predicate) (row : Row) :
    predicate.selects row = true ↔ predicate.eval row = .yes := by
  rw [selects]
  cases predicate.eval row <;> decide

namespace SortOrder

open CardCatalog.StoredNumber (StandsFor IsBinary64 orderKey)

variable {x y : Row} {p q : ℚ}

/-- A card that stands before another has no greater mana value, if the two are not rounded to the
same number. -/
theorem mana_value_le (h : fullKey .manaValue x < fullKey .manaValue y)
    (hx : StandsFor x.manaValue p) (hy : StandsFor y.manaValue q) :
    p ≤ q ∨ orderKey x.manaValue = orderKey y.manaValue := by
  have hplace : (orderKey x.manaValue).place ≤ (orderKey y.manaValue).place :=
    (Prod.Lex.toLex_lt_toLex.1 h).elim le_of_lt fun heq => heq.1.le
  refine (le_or_gt p q).imp_right fun hlt => ?_
  have hback := (StoredNumber.OrderKey.le_iff_place_le _ _).1 (hy.order_key_le hx hlt.le)
  exact StoredNumber.OrderKey.place_injective (le_antisymm hplace hback)

/-- Cards with mana values that need no rounding are in the order of these and then of their
names. -/
theorem mana_value_then_name_lt (h : fullKey .manaValue x < fullKey .manaValue y)
    (hx : StandsFor x.manaValue p) (hy : StandsFor y.manaValue q) (hp : IsBinary64 p)
    (hq : IsBinary64 q) : toLex (p, bytes x.name) < toLex (q, bytes y.name) := by
  rw [Prod.Lex.toLex_lt_toLex']
  refine ⟨?_, ?_⟩
  · exact (mana_value_le h hx hy).elim id fun hkey => (hx.eq_of_order_key_eq hy hp hq hkey).le
  · rintro rfl
    have hplace : (orderKey x.manaValue).place = (orderKey y.manaValue).place :=
      le_antisymm ((StoredNumber.OrderKey.le_iff_place_le _ _).1 (hx.order_key_le hy le_rfl))
        ((StoredNumber.OrderKey.le_iff_place_le _ _).1 (hy.order_key_le hx le_rfl))
    exact (Prod.Lex.toLex_lt_toLex.1 h).elim (fun hlt => absurd hplace hlt.ne) And.right

end SortOrder

namespace Catalog

/-- The cards for which a predicate is true. -/
def TrueRows (catalog : Catalog) (predicate : Predicate) : Set Row :=
  { row | row ∈ catalog.rows ∧ predicate.eval row = .yes }

/-- The list holds the cards for which a predicate is true, one after the other in the order of
their full keys. -/
structure IsSelection (catalog : Catalog) (predicate : Predicate) (order : SortOrder)
    (rows : List Row) : Prop where
  mem_iff : ∀ row, row ∈ rows ↔ row ∈ catalog.TrueRows predicate
  sorted : rows.Pairwise fun x y => order.fullKey x < order.fullKey y

variable {catalog : Catalog} {predicate : Predicate} {order : SortOrder} {limit : Option Nat}

/-- A search keeps the cards for which its predicate is true. -/
theorem mem_filter_selects_iff {row : Row} :
    row ∈ catalog.rows.filter predicate.selects ↔ row ∈ catalog.TrueRows predicate := by
  rw [List.mem_filter, Predicate.selects_iff_eval_eq_yes]
  rfl

/-- The cards that a search keeps are different. -/
theorem nodup_filter_selects (catalog : Catalog) (predicate : Predicate) :
    (catalog.rows.filter predicate.selects).Nodup :=
  (catalog.nodup_ids.of_map Row.id).sublist List.filter_sublist

/-- The cards that a search keeps, listed in an order that suits the sort order, stand in the
order of their full keys if these differ. -/
theorem is_selection_of_perm (hkeys : Set.InjOn order.fullKey (catalog.TrueRows predicate))
    {rows : List Row} (hperm : rows.Perm (catalog.rows.filter predicate.selects))
    (hsorted : rows.Pairwise fun x y => order.le x y = true) :
    catalog.IsSelection predicate order rows := by
  have hmem : ∀ row, row ∈ rows ↔ row ∈ catalog.TrueRows predicate :=
    fun row => hperm.mem_iff.trans mem_filter_selects_iff
  have hdistinct : rows.Pairwise (· ≠ ·) := hperm.nodup_iff.2 (nodup_filter_selects _ _)
  refine ⟨hmem, (hsorted.and hdistinct).imp_of_mem ?_⟩
  rintro x y hx hy ⟨hle, hne⟩
  have hkey : order.fullKey x ≠ order.fullKey y :=
    fun heq => hne (hkeys ((hmem x).1 hx) ((hmem y).1 hy) heq)
  exact lt_of_le_of_ne ((order.le_iff_full_key_le x y).1 hle) hkey

/-- There is one list of the cards in the order of their full keys. -/
theorem IsSelection.unique {rows other : List Row}
    (hrows : catalog.IsSelection predicate order rows)
    (hother : catalog.IsSelection predicate order other) : rows = other := by
  have hnodup {list : List Row} (h : catalog.IsSelection predicate order list) : list.Nodup :=
    h.sorted.imp fun hlt heq => hlt.ne (congrArg order.fullKey heq)
  have hperm : rows.Perm other :=
    (List.perm_ext_iff_of_nodup (hnodup hrows) (hnodup hother)).2
      fun row => (hrows.mem_iff row).trans (hother.mem_iff row).symm
  exact hperm.eq_of_pairwise (fun _ _ _ _ h h' => absurd h h'.asymm) hrows.sorted hother.sorted

/-- The cards of a selection have different summaries. -/
theorem IsSelection.nodup_summaries {rows : List Row}
    (h : catalog.IsSelection predicate order rows) : (rows.map Row.summary).Nodup := by
  refine List.pairwise_map.2 (h.sorted.imp_of_mem ?_)
  intro x y hx hy hlt heq
  have hrows {row : Row} (hrow : row ∈ rows) : row ∈ catalog.rows := ((h.mem_iff row).1 hrow).1
  have hsame : x = y := List.inj_on_of_nodup_map catalog.nodup_ids (hrows hx) (hrows hy)
    (Row.id_eq_of_summary_eq heq)
  exact hlt.ne (congrArg order.fullKey hsame)

/-- A search is admitted with every accepted limit if it is without one. -/
theorem admits_of_limit_le (hadmits : catalog.admits predicate none = true)
    (hlimit : ∀ n ∈ limit, n ≤ maxLimit) : catalog.admits predicate limit = true := by
  cases limit <;> simp_all [admits]

/-- The only answer that a search may give is made from the selection. -/
theorem Answers.eq_of_is_selection (hkeys : Set.InjOn order.fullKey (catalog.TrueRows predicate))
    (hadmits : catalog.admits predicate limit = true) {rows : List Row}
    (hrows : catalog.IsSelection predicate order rows) {result : Option (List Summary)}
    (h : catalog.Answers predicate order limit result) :
    result = some (limit.elim (rows.map Row.summary) (rows.map Row.summary).take) := by
  cases h with
  | refused hrefused => exact absurd hadmits (by simp [hrefused])
  | found _ hperm hsorted => rw [(is_selection_of_perm hkeys hperm hsorted).unique hrows]

end Catalog

namespace Directory

variable {directory : Directory} {catalog : Catalog} {predicate : Predicate} {order : SortOrder}

/-- The searches of a directory by a predicate in an order, from the list of the cards that they
find. -/
structure SearchOutcome (directory : Directory) (catalog : Catalog) (predicate : Predicate)
    (order : SortOrder) (rows : List Row) : Prop where
  /-- The cards for which the predicate is true are found, and they stand in the order of their full
  keys. -/
  selection : catalog.IsSelection predicate order rows
  /-- In the order by mana value none stands before a card of a smaller one, unless the two are
  rounded to the same number. -/
  by_mana_value : order = .manaValue → rows.Pairwise fun x y => ∀ p q : ℚ,
    StoredNumber.StandsFor x.manaValue p → StoredNumber.StandsFor y.manaValue q →
      p ≤ q ∨ StoredNumber.orderKey x.manaValue = StoredNumber.orderKey y.manaValue
  /-- Mana values that need no rounding are in the order of the numbers, and where these agree the
  names decide. -/
  by_number : order = .manaValue → rows.Pairwise fun x y => ∀ p q : ℚ,
    StoredNumber.StandsFor x.manaValue p → StoredNumber.StandsFor y.manaValue q →
      StoredNumber.IsBinary64 p → StoredNumber.IsBinary64 q →
        toLex (p, bytes x.name) < toLex (q, bytes y.name)
  /-- Each of them is found once. -/
  nodup_summaries : (rows.map Row.summary).Nodup
  /-- Without a limit the answer holds their summaries. -/
  unlimited : directory.search predicate order none = .ok (rows.map Row.summary)
  /-- With a limit it holds as many of the first ones. -/
  limited : ∀ n ≤ Catalog.maxLimit,
    directory.search predicate order (some n) = .ok ((rows.map Row.summary).take n)
  /-- The sort order leaves no other answer open. -/
  forced : ∀ limit : Option Nat, (∀ n ∈ limit, n ≤ Catalog.maxLimit) →
    ∀ answer, directory.MayAnswer predicate order limit answer →
      answer = directory.search predicate order limit

/-- A directory gives one of the answers that it may give. -/
theorem may_answer_search (hcatalog : directory.catalog = some catalog) (limit : Option Nat) :
    directory.MayAnswer predicate order limit (directory.search predicate order limit) := by
  refine ⟨catalog, _, hcatalog, catalog.answers_search predicate order limit, ?_⟩
  unfold search
  simp only [open_catalog_eq_ok_iff.2 hcatalog, bind, Except.bind]
  cases catalog.search? predicate order limit <;> rfl

/-- The only answer that a directory may give is made from the selection. -/
theorem MayAnswer.eq_of_is_selection (hcatalog : directory.catalog = some catalog)
    (hadmits : catalog.admits predicate none = true)
    (hkeys : Set.InjOn order.fullKey (catalog.TrueRows predicate)) {rows : List Row}
    (hrows : catalog.IsSelection predicate order rows) {limit : Option Nat}
    (hlimit : ∀ n ∈ limit, n ≤ Catalog.maxLimit) {answer : Except Failure (List Summary)}
    (h : directory.MayAnswer predicate order limit answer) :
    answer = .ok (limit.elim (rows.map Row.summary) (rows.map Row.summary).take) := by
  obtain ⟨other, result, hother, hanswers, rfl⟩ := h
  obtain rfl : catalog = other := Option.some.inj (hcatalog.symm.trans hother)
  rw [hanswers.eq_of_is_selection hkeys (Catalog.admits_of_limit_le hadmits hlimit) hrows]
  rfl

/-- Without two found cards that agree in the full key, a search filters the cards, sorts them and
takes as many as the limit allows. -/
theorem search_filters_sorts_takes (hcatalog : directory.catalog = some catalog)
    (hadmits : catalog.admits predicate none = true)
    (hkeys : Set.InjOn order.fullKey (catalog.TrueRows predicate)) :
    ∃ rows, directory.SearchOutcome catalog predicate order rows := by
  have hrows : catalog.IsSelection predicate order (catalog.hits predicate order) :=
    Catalog.is_selection_of_perm hkeys (List.mergeSort_perm _ _) (order.pairwise_merge_sort _)
  have hforced {limit : Option Nat} (hlimit : ∀ n ∈ limit, n ≤ Catalog.maxLimit)
      {answer : Except Failure (List Summary)}
      (h : directory.MayAnswer predicate order limit answer) :=
    h.eq_of_is_selection hcatalog hadmits hkeys hrows hlimit
  have hsearch {limit : Option Nat} (hlimit : ∀ n ∈ limit, n ≤ Catalog.maxLimit) :=
    hforced hlimit (may_answer_search hcatalog limit)
  refine ⟨_, hrows, ?_, ?_, hrows.nodup_summaries, hsearch (by simp), ?_, ?_⟩
  · rintro rfl
    exact hrows.sorted.imp fun hlt p q => SortOrder.mana_value_le hlt
  · rintro rfl
    exact hrows.sorted.imp fun hlt p q => SortOrder.mana_value_then_name_lt hlt
  · intro n hn
    exact hsearch (by simpa using hn)
  · intro limit hlimit answer h
    rw [hforced hlimit h, hsearch hlimit]

/-- Three cards, of which the dearest was imported first. -/
def curve : List CardRecord :=
  [⟨.repeated 1, (CardFace.minimal "Big" "M19" "Rare").withManaValue "7"⟩,
   ⟨.repeated 2, (CardFace.minimal "Mid" "M19" "Mythic").withManaValue "3"⟩,
   ⟨.repeated 3, (CardFace.minimal "Small" "M19" "Common").withManaValue "1"⟩]

/-- The condition that a card costs less than seven mana. -/
def belowSeven : Predicate :=
  .test (.compare .manaValue .lt 7)

/-- Of three cards, the two that cost less than seven mana are found, the cheaper one first. -/
theorem search_filters_sorts_takes_curve :
    ((Directory.empty "/cards").withCards curve).catalog = some (.ofCards curve) ∧
      (Catalog.ofCards curve).admits belowSeven none = true ∧
      Set.InjOn (SortOrder.fullKey .manaValue) ((Catalog.ofCards curve).TrueRows belowSeven) ∧
      ∃ rows, ((Directory.empty "/cards").withCards curve).SearchOutcome (.ofCards curve) belowSeven
          .manaValue rows ∧
        rows.map Row.name = ["Small", "Mid"] := by
  have hcatalog : ((Directory.empty "/cards").withCards curve).catalog = some (.ofCards curve) :=
    rfl
  have hadmits : (Catalog.ofCards curve).admits belowSeven none = true := by decide +kernel
  have hdifferent : ∀ x ∈ (Catalog.ofCards curve).rows, ∀ y ∈ (Catalog.ofCards curve).rows,
      SortOrder.fullKey .manaValue x = SortOrder.fullKey .manaValue y → x = y := by decide +kernel
  have hkeys : Set.InjOn (SortOrder.fullKey .manaValue)
      ((Catalog.ofCards curve).TrueRows belowSeven) :=
    fun x hx y hy => hdifferent x hx.1 y hy.1
  obtain ⟨rows, houtcome⟩ := search_filters_sorts_takes hcatalog hadmits hkeys
  have hselection : (Catalog.ofCards curve).IsSelection belowSeven .manaValue
      ((curve.map CardRecord.row).reverse.take 2) :=
    Catalog.is_selection_of_perm hkeys (by decide +kernel) (by decide +kernel)
  refine ⟨hcatalog, hadmits, hkeys, rows, houtcome, ?_⟩
  rw [houtcome.selection.unique hselection]
  decide +kernel

end Directory

end CardCatalog
