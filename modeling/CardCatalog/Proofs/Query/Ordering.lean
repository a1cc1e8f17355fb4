import CardCatalog.Proofs.Catalog.Membership
import CardCatalog.Proofs.Query.ColorSets
import CardCatalog.Proofs.Query.Unequal

/-!
# Ordering comparisons

The term that asks for at least a value finds the rows that the terms for more than the value and for
the value itself find between them, and the term for at most a value those of the terms for less and for
the value itself (`finds_or_equal_iff`). It is the law of integers for a number, it is a list with one
more member for a rarity, and it is no more than `P ∨ P` for a key that pays no heed to the order. A
search for colors has a meaning of its own for at most and none for less, so only the first half is true
of it.
-/

namespace CardCatalog

open CardCatalog.Text

namespace Comparison

/-- The first comparison allows what the second one does, and equality. -/
inductive OrEqual : Comparison → Comparison → Prop where
  | ge : OrEqual .ge .gt
  | le : OrEqual .le .lt

variable {weak strict : Comparison}

/-- Integers are in a weak relation if they are in the strict one or equal. -/
theorem OrEqual.relates_iff (h : OrEqual weak strict) (x y : Int) :
    weak.Relates x y ↔ strict.Relates x y ∨ Comparison.eq.Relates x y := by
  cases h with
  | ge =>
      simp only [Relates]
      omega
  | le =>
      simp only [Relates]
      omega

/-- No comparison of an ordering is one of equal or unequal texts. -/
theorem OrEqual.not_textual (h : OrEqual weak strict) : ¬ (weak = .eq ∨ weak = .ne) := by
  cases h <;> simp

end Comparison

namespace SearchKey

section

variable {weak strict : Comparison} (horder : weak.OrEqual strict) (row : Row)
include horder

/-! ## Numbers -/

/-- A number stands in a weak relation to the bound if it stands in the strict one or is the bound. -/
theorem selects_compare_or_equal_iff (field : Field) (bound : Int64) :
    (Predicate.test (.compare field weak bound)).selects row = true ↔
      (Predicate.test (.compare field strict bound)).selects row = true ∨
        (Predicate.test (.compare field .eq bound)).selects row = true := by
  simp only [Predicate.selects, Predicate.eval, Constraint.eval, Truth.holds_of_bool,
    Comparison.holds_iff_relates]
  exact horder.relates_iff _ _

/-- A field stands in a weak relation to a value if it stands in the strict one or is equal to it. What is
not an integer has no order, so the field is compared as a number. -/
theorem selects_compared_to_or_equal_iff {field : Field} {value : String} {p q r : Predicate}
    (hweak : comparedTo? field weak value = some p) (hstrict : comparedTo? field strict value = some q)
    (hequal : comparedTo? field .eq value = some r) :
    p.selects row = true ↔ q.selects row = true ∨ r.selects row = true := by
  cases hinteger : isIntegerText value with
  | false =>
      rw [compared_to_of_not_integer hinteger, if_neg horder.not_textual] at hweak
      cases hweak
  | true =>
      unfold comparedTo? at hweak hstrict hequal
      rw [if_pos hinteger] at hweak hstrict hequal
      obtain ⟨bound, hbound, rfl⟩ := Option.map_eq_some_iff.1 hweak
      rw [hbound] at hstrict hequal
      obtain rfl := Option.some.inj hstrict
      obtain rfl := Option.some.inj hequal
      exact selects_compare_or_equal_iff horder row field bound

/-- A numeric search has the order of the integers, or asks for a parity whatever the comparison. -/
theorem selects_numeric_or_equal_iff {field : Field} {value : String} {p q r : Predicate}
    (hweak : numericSearch? field value (some weak) = some p)
    (hstrict : numericSearch? field value (some strict) = some q)
    (hequal : numericSearch? field value (some .eq) = some r) :
    p.selects row = true ↔ q.selects row = true ∨ r.selects row = true := by
  unfold numericSearch? at hweak hstrict hequal
  cases hparity : parity? field value with
  | some parity =>
      rw [hparity] at hweak hstrict hequal
      obtain rfl := Option.some.inj hweak
      obtain rfl := Option.some.inj hstrict
      obtain rfl := Option.some.inj hequal
      exact (or_self_iff).symm
  | none =>
      rw [hparity] at hweak hstrict hequal
      exact selects_compared_to_or_equal_iff horder row hweak hstrict hequal

end

/-! ## Rarities -/

/-- The place of a rarity is where it stands in the order. -/
theorem get_elem_rarity_rank {value : String} {rank : Nat} (h : rarityRank? value = some rank) :
    ∃ hrank : rank < rarities.length, rarities[rank] = expandRarity value := by
  obtain ⟨hrank, hfound, _⟩ := List.findIdx?_eq_some_iff_getElem.1 h
  exact ⟨hrank, by simpa using hfound⟩

/-- The rarities of the order are written as they are compared. -/
theorem compared_value_rarity :
    ∀ rarity ∈ rarities, comparedValue .rarity rarity = rarity := by
  decide

/-- A rarity of the order is the one that a card is compared as. -/
theorem selects_rarity_eq_iff {rank : Nat} (hrank : rank < rarities.length) (row : Row) :
    (equality .rarity rarities[rank] (some .eq)).selects row = true ↔
      row.comparedText .rarity = rarities[rank] := by
  have hequality : equality .rarity rarities[rank] (some .eq) =
      .test (.equals .rarity rarities[rank]) := rfl
  rw [hequality, selects_equals_iff, compared_value_rarity _ (List.getElem_mem hrank)]

/-- The rarities from a place on, or up to a place, are those beyond it and the one that stands there. A
rarity without a place is compared as a text in either direction. -/
theorem selects_rarity_or_equal_iff {weak strict : Comparison} (horder : weak.OrEqual strict)
    (value : String) (row : Row) :
    (raritySearch value (some weak)).selects row = true ↔
      (raritySearch value (some strict)).selects row = true ∨
        (raritySearch value (some .eq)).selects row = true := by
  unfold raritySearch
  dsimp only
  cases hrank : rarityRank? (toLower value) with
  | none => cases horder <;> exact (or_self_iff).symm
  | some rank =>
      obtain ⟨hlt, hrarity⟩ := get_elem_rarity_rank hrank
      dsimp only
      rw [← hrarity, selects_rarity_eq_iff hlt]
      cases horder with
      | ge =>
          rw [selects_one_of_iff_mem, selects_one_of_iff_mem, List.drop_eq_getElem_cons hlt,
            List.mem_cons, or_comm]
      | le =>
          rw [selects_one_of_iff_mem, selects_one_of_iff_mem, List.take_succ_eq_append_getElem hlt,
            List.mem_append, List.mem_singleton]

/-! ## Colors -/

/-- Comparisons other than equality and at most have no meaning for colors, and are passed over. -/
theorem color_search_passes_over (field : Field) (value : String) {comparison : Comparison}
    (hequal : comparison ≠ .eq) (hwithin : comparison ≠ .le) :
    colorSearch field value (some comparison) = colorSearch field value none := by
  unfold colorSearch
  dsimp only
  split
  · rfl
  · cases comparison <;> simp_all

/-- A search for exactly some colors selects rows that include them. -/
theorem selects_include_of_exactly {field : Field} {value : String} {row : Row}
    (h : (colorSearch field value (some .eq)).selects row = true) :
    (colorSearch field value none).selects row = true := by
  unfold colorSearch at h ⊢
  dsimp only at h ⊢
  split
  · rename_i hempty
    rwa [if_pos hempty] at h
  · rename_i hfilled
    rw [if_neg hfilled, Predicate.selects, Predicate.eval, Constraint.eval, Truth.holds_of_bool,
      Bool.and_eq_true] at h
    rw [Predicate.selects, Predicate.eval, Constraint.eval, Truth.holds_of_bool]
    exact h.1

/-- At least some colors are more than those or exactly those, since more is read as at least. -/
theorem selects_color_at_least_iff (field : Field) (value : String) (row : Row) :
    (colorSearch field value (some .ge)).selects row = true ↔
      (colorSearch field value (some .gt)).selects row = true ∨
        (colorSearch field value (some .eq)).selects row = true := by
  rw [color_search_passes_over field value (by decide) (by decide),
    color_search_passes_over field value (by decide) (by decide)]
  exact ⟨.inl, fun h => h.elim id selects_include_of_exactly⟩

/-! ## All keys -/

/-- Whatever a key builds for a value under the three comparisons, the weak one selects what the strict
one and equality select; for colors, only at least is a weak comparison. -/
theorem selects_build_or_equal_iff {key : SearchKey} {weak strict : Comparison}
    (horder : weak.OrEqual strict) (hcolors : key = .color ∨ key = .identity → weak = .ge)
    {value : String} {p q r : Predicate} (hweak : key.build? value (some weak) = some p)
    (hstrict : key.build? value (some strict) = some q)
    (hequal : key.build? value (some .eq) = some r) (row : Row) :
    p.selects row = true ↔ q.selects row = true ∨ r.selects row = true := by
  cases key
  case color | identity =>
    obtain rfl : weak = .ge := hcolors (by simp)
    cases horder
    obtain rfl := Option.some.inj hweak
    obtain rfl := Option.some.inj hstrict
    obtain rfl := Option.some.inj hequal
    exact selects_color_at_least_iff _ value row
  case manaValue | power | toughness | loyalty =>
    exact selects_numeric_or_equal_iff horder row hweak hstrict hequal
  case rarity =>
    obtain rfl := Option.some.inj hweak
    obtain rfl := Option.some.inj hstrict
    obtain rfl := Option.some.inj hequal
    exact selects_rarity_or_equal_iff horder value row
  all_goals
    -- The other keys build the same under all three comparisons.
    cases horder
    all_goals
      obtain rfl : p = q := Option.some.inj (hweak.symm.trans hstrict)
      obtain rfl : p = r := Option.some.inj (hweak.symm.trans hequal)
      exact or_self_iff.symm

end SearchKey

/-- If the three terms are not dropped, the one with the weak comparison finds what the ones with the
strict comparison and with equality find. -/
theorem Term.finds_weak_iff {key : SearchKey} {weak strict : Comparison} (horder : weak.OrEqual strict)
    (hcolors : key = .color ∨ key = .identity → weak = .ge) {spelling value : String}
    (hspelling : toLower spelling ∈ key.spellings)
    (hweak : (ofKey spelling value (some weak)).predicate?.isSome = true)
    (hstrict : (ofKey spelling value (some strict)).predicate?.isSome = true)
    (hequal : (ofKey spelling value (some .eq)).predicate?.isSome = true) (row : Row) :
    (ofKey spelling value (some weak)).finds row = true ↔
      (ofKey spelling value (some strict)).finds row = true ∨
        (ofKey spelling value (some .eq)).finds row = true := by
  obtain ⟨p, hweak⟩ := Option.isSome_iff_exists.1 hweak
  obtain ⟨q, hstrict⟩ := Option.isSome_iff_exists.1 hstrict
  obtain ⟨r, hequal⟩ := Option.isSome_iff_exists.1 hequal
  rw [finds_of_predicate hweak, finds_of_predicate hstrict, finds_of_predicate hequal]
  exact SearchKey.selects_build_or_equal_iff horder hcolors (build_of_predicate hspelling hweak)
    (build_of_predicate hspelling hstrict) (build_of_predicate hspelling hequal) row

/-- Under every key, the term for at least a value finds the rows that the term for more or the term for
the value itself finds, if none of the three is dropped. Under every key but those of colors, the same is
true of at most and less. In a token the symbol of the comparison stands between the key and the value,
unless the value starts with an equals sign, which would make the symbol a longer one. -/
theorem finds_or_equal_iff {key : SearchKey} {spelling value : String}
    (hspelling : toLower spelling ∈ key.spellings)
    (hequal : (Term.ofKey spelling value (some .eq)).predicate?.isSome = true) :
    ((Term.ofKey spelling value (some .ge)).predicate?.isSome = true →
      (Term.ofKey spelling value (some .gt)).predicate?.isSome = true →
      ∀ row : Row, (Term.ofKey spelling value (some .ge)).finds row = true ↔
        (Term.ofKey spelling value (some .gt)).finds row = true ∨
          (Term.ofKey spelling value (some .eq)).finds row = true) ∧
    (key ≠ .color → key ≠ .identity →
      (Term.ofKey spelling value (some .le)).predicate?.isSome = true →
      (Term.ofKey spelling value (some .lt)).predicate?.isSome = true →
      ∀ row : Row, (Term.ofKey spelling value (some .le)).finds row = true ↔
        (Term.ofKey spelling value (some .lt)).finds row = true ∨
          (Term.ofKey spelling value (some .eq)).finds row = true) ∧
    (value ≠ "" → value.toList.head? ≠ some '=' → ∀ comparison : Comparison,
      Term.parse (spelling ++ comparison.symbol ++ value) =
        Term.ofKey spelling value (some comparison)) := by
  refine ⟨fun hge hgt row => ?_, fun hcolor hidentity hle hlt row => ?_, fun hvalue hequals comparison => ?_⟩
  · exact Term.finds_weak_iff .ge (fun _ => rfl) hspelling hge hgt hequal row
  · have hcolors : ¬ (key = .color ∨ key = .identity) := fun h => h.elim hcolor hidentity
    exact Term.finds_weak_iff .le (fun h => absurd h hcolors) hspelling hle hlt hequal row
  · exact Term.parse_of_key hspelling hvalue fun _ => hequals

/-- A common card is at least common and no more, and it is at most uncommon and less than that. -/
theorem finds_or_equal_iff_common :
    toLower "r" ∈ SearchKey.rarity.spellings ∧
      (Term.ofKey "r" "C" (some .eq)).predicate?.isSome = true ∧
      (Term.ofKey "r" "C" (some .ge)).finds llanowarElves = true ∧
      (Term.ofKey "r" "C" (some .gt)).finds llanowarElves = false ∧
      (Term.ofKey "r" "uncommon" (some .le)).finds llanowarElves = true ∧
      (Term.ofKey "r" "uncommon" (some .eq)).finds llanowarElves = false ∧
      Term.parse ("r" ++ "<=" ++ "uncommon") = Term.ofKey "r" "uncommon" (some .le) := by
  have hspelling : toLower "r" ∈ SearchKey.rarity.spellings := by decide
  have hcommon : (Term.ofKey "r" "C" (some .eq)).predicate?.isSome = true := by decide
  have huncommon : (Term.ofKey "r" "uncommon" (some .eq)).predicate?.isSome = true := by decide
  have hequal : (Term.ofKey "r" "C" (some .eq)).finds llanowarElves = true := by decide
  have hless : (Term.ofKey "r" "uncommon" (some .lt)).finds llanowarElves = true := by decide
  obtain ⟨hleast, _, _⟩ := finds_or_equal_iff hspelling hcommon
  obtain ⟨_, hmost, hparse⟩ := finds_or_equal_iff hspelling huncommon
  exact ⟨hspelling, hcommon, (hleast (by decide) (by decide) llanowarElves).2 (.inr hequal), by decide,
    (hmost (by decide) (by decide) (by decide) (by decide) llanowarElves).2 (.inl hless), by decide,
    hparse (by decide) (by decide) .le⟩

/-- Under the keys of colors less is read as at least: a green card has at most the colors green and blue,
and neither of the other two terms finds it. -/
example :
    (Term.ofKey "c" "gu" (some .le)).finds llanowarElves = true ∧
      (Term.ofKey "c" "gu" (some .lt)).finds llanowarElves = false ∧
      (Term.ofKey "c" "gu" (some .eq)).finds llanowarElves = false := by
  decide

end CardCatalog
