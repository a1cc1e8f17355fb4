import CardCatalog.Proofs.Query.ComparisonSpelling
import CardCatalog.Proofs.Query.KeyedTerm

/-!
# Equal and unequal values

A term that asks for another value than the given one finds the rows that the term for the value does
not find, whether the value is compared as a number, as a text, or as a rarity
(`finds_equal_xor_unequal_iff`). The words for a parity are the exception: a numeric key asks for the
parity under either comparison.
-/

namespace CardCatalog

open CardCatalog.Text CardCatalog.Number

namespace SearchKey

/-- The value is one of the words `even` and `odd`, in any ASCII case. -/
def IsParityWord (value : String) : Prop :=
  eqIgnoringAsciiCase value "even" = true ∨ eqIgnoringAsciiCase value "odd" = true

/-- The words for a parity, and no other values, ask for one. -/
theorem parity_eq_none_iff_not_word {field : Field} {value : String} :
    parity? field value = none ↔ ¬ IsParityWord value := by
  rw [parity_eq_none_iff, IsParityWord, not_or, Bool.not_eq_true, Bool.not_eq_true]

section

variable {field : Field} {value : String} {equal unequal : Predicate} (row : Row)

/-- A text is unequal to the value where it is not equal to it. -/
theorem selects_equality_ne (field : Field) (value : String) :
    (equality field value (some .ne)).selects row =
      !(equality field value (some .eq)).selects row := by
  have hequal : equality field value (some .eq) = .test (.equals field value) := rfl
  have hunequal : equality field value (some .ne) =
      (Predicate.test (.equals field value)).negate := rfl
  have hdecided : (Predicate.test (.equals field value)).eval row ≠ .unknown :=
    Truth.of_bool_ne_unknown _
  rw [hequal, hunequal, Predicate.selects_negate row hdecided]

/-- A number is unequal to the bound where it is not equal to it. -/
theorem selects_compare_ne (field : Field) (bound : Int64) :
    (Predicate.test (.compare field .ne bound)).selects row =
      !(Predicate.test (.compare field .eq bound)).selects row := by
  simp only [Predicate.selects, Predicate.eval, Constraint.eval, Truth.holds_of_bool,
    Comparison.holds]
  rfl

/-- A field is unequal to a value, as a number or as a text, where it is not equal to it. -/
theorem selects_compared_to_ne (hequal : comparedTo? field .eq value = some equal)
    (hunequal : comparedTo? field .ne value = some unequal) :
    unequal.selects row = !equal.selects row := by
  unfold comparedTo? at hequal hunequal
  split at hequal
  · rename_i hinteger
    rw [if_pos hinteger] at hunequal
    obtain ⟨bound, hbound, rfl⟩ := Option.map_eq_some_iff.1 hequal
    rw [hbound] at hunequal
    obtain rfl := Option.some.inj hunequal
    exact selects_compare_ne row field bound
  · rename_i hinteger
    rw [if_neg hinteger] at hunequal
    obtain rfl := Option.some.inj hequal
    obtain rfl := Option.some.inj hunequal
    exact selects_equality_ne row field value

/-- A rarity is unequal to the value where it is not equal to it, in its place in the order or as a
text. -/
theorem selects_rarity_ne (value : String) :
    (raritySearch value (some .ne)).selects row = !(raritySearch value (some .eq)).selects row := by
  unfold raritySearch
  dsimp only
  cases rarityRank? (toLower value) with
  | none => exact selects_equality_ne row .rarity (toLower value)
  | some rank => exact selects_equality_ne row .rarity (expandRarity (toLower value))

end

section

variable {key : SearchKey} {field : Field} {value : String} (hfield : key.fields = [field])
include hfield

/-- A key whose field is a number or is compared in lower case builds complements under the two
comparisons, but for a parity. -/
theorem selects_build_ne (hcompared : field ∈ numberFields ∨ field.isCaseless = true)
    (hword : ¬ (field ∈ numberFields ∧ IsParityWord value)) {equal unequal : Predicate}
    (hequal : key.build? value (some .eq) = some equal)
    (hunequal : key.build? value (some .ne) = some unequal) (row : Row) :
    unequal.selects row = !equal.selects row := by
  by_cases hnumber : field ∈ numberFields
  · have hparity : parity? field value = none :=
      parity_eq_none_iff_not_word.2 fun hparity => hword ⟨hnumber, hparity⟩
    rw [build_numeric hfield hnumber, numericSearch?, hparity] at hequal hunequal
    exact selects_compared_to_ne row hequal hunequal
  · have hcaseless := hcompared.resolve_left hnumber
    cases key
    case set | layout | language =>
      obtain rfl := Option.some.inj hequal
      obtain rfl := Option.some.inj hunequal
      exact selects_equality_ne row _ (toLower value)
    case rarity =>
      obtain rfl := Option.some.inj hequal
      obtain rfl := Option.some.inj hunequal
      exact selects_rarity_ne row value
    case name | exclude => exact absurd hfield (by simp [fields])
    all_goals
      obtain ⟨rfl, _⟩ := List.cons_eq_cons.1 hfield
      exact absurd hcaseless (by decide)

/-- A numeric key asks for a parity under any comparison. -/
theorem build_parity (hnumber : field ∈ numberFields) (hword : IsParityWord value)
    (comparison : Option Comparison) : key.build? value comparison = parity? field value := by
  cases hparity : parity? field value with
  | none => exact absurd hword (parity_eq_none_iff_not_word.1 hparity)
  | some parity =>
      rw [build_numeric hfield hnumber]
      unfold numericSearch?
      rw [hparity]

end

end SearchKey

/-- Of the terms that ask for a value and for another one, under a key whose field is a number or is
compared in lower case, exactly one finds each row, if neither is dropped and the value is no word for a
parity under a numeric key. Under such a key the two terms ask for the parity alike, and both find a row
or neither does. -/
theorem finds_equal_xor_unequal_iff {key : SearchKey} {field : Field} (hfield : key.fields = [field])
    (hcompared : field ∈ numberFields ∨ field.isCaseless = true) {spelling value : String}
    (hspelling : toLower spelling ∈ key.spellings)
    (hequal : (Term.ofKey spelling value (some .eq)).predicate?.isSome = true)
    (hunequal : (Term.ofKey spelling value (some .ne)).predicate?.isSome = true) :
    (∀ row, Xor ((Term.ofKey spelling value (some .eq)).finds row = true)
        ((Term.ofKey spelling value (some .ne)).finds row = true) ↔
      ¬ (field ∈ numberFields ∧ SearchKey.IsParityWord value)) ∧
    (value ≠ "" →
      Term.parse (spelling ++ "=" ++ value) = Term.ofKey spelling value (some .eq) ∧
        Term.parse (spelling ++ "!=" ++ value) = Term.ofKey spelling value (some .ne)) := by
  constructor
  · intro row
    obtain ⟨equal, hequal⟩ := Option.isSome_iff_exists.1 hequal
    obtain ⟨unequal, hunequal⟩ := Option.isSome_iff_exists.1 hunequal
    rw [Term.finds_of_predicate hequal, Term.finds_of_predicate hunequal]
    have hbuildEqual := Term.build_of_predicate hspelling hequal
    have hbuildUnequal := Term.build_of_predicate hspelling hunequal
    by_cases hword : field ∈ numberFields ∧ SearchKey.IsParityWord value
    · rw [SearchKey.build_parity hfield hword.1 hword.2] at hbuildEqual hbuildUnequal
      obtain rfl : equal = unequal := Option.some.inj (hbuildEqual.symm.trans hbuildUnequal)
      simp [hword]
    · rw [SearchKey.selects_build_ne hfield hcompared hword hbuildEqual hbuildUnequal row,
        xor_iff_not_iff]
      simp [hword]
  · intro hvalue
    have hparseEqual := Term.parse_of_key hspelling hvalue
      (Term.leaves_symbol_of_not_strict .eq (by decide) _)
    have hparseUnequal := Term.parse_of_key hspelling hvalue
      (Term.leaves_symbol_of_not_strict .ne (by decide) _)
    exact ⟨hparseEqual, hparseUnequal⟩

/-- The elves have another power than a star. -/
theorem finds_equal_xor_unequal_star :
    SearchKey.power.fields = [.power] ∧ Field.power ∈ numberFields ∧
      toLower "POW" ∈ SearchKey.power.spellings ∧
      (Term.ofKey "POW" "*" (some .eq)).predicate?.isSome = true ∧
      (Term.ofKey "POW" "*" (some .ne)).predicate?.isSome = true ∧
      Xor ((Term.ofKey "POW" "*" (some .eq)).finds llanowarElves = true)
        ((Term.ofKey "POW" "*" (some .ne)).finds llanowarElves = true) ∧
      Term.parse ("POW" ++ "!=" ++ "*") = Term.ofKey "POW" "*" (some .ne) := by
  have hnumber : Field.power ∈ numberFields := by decide
  have hspelling : toLower "POW" ∈ SearchKey.power.spellings := by decide
  have hequal : (Term.ofKey "POW" "*" (some .eq)).predicate?.isSome = true := by decide
  have hunequal : (Term.ofKey "POW" "*" (some .ne)).predicate?.isSome = true := by decide
  obtain ⟨hfinds, hparse⟩ :=
    finds_equal_xor_unequal_iff rfl (.inl hnumber) hspelling hequal hunequal
  have hword : ¬ SearchKey.IsParityWord "*" := by
    rw [SearchKey.IsParityWord]
    decide
  exact ⟨rfl, hnumber, hspelling, hequal, hunequal, (hfinds llanowarElves).2 fun h => hword h.2,
    (hparse (by decide)).2⟩

/-- The two terms for a word for a parity are no complements: under the key of the mana value both ask
for the odd numbers, and so both find the elves. -/
theorem not_complement_of_parity :
    ¬ ∀ (key : SearchKey) (field : Field) (spelling value : String), key.fields = [field] →
      (field ∈ numberFields ∨ field.isCaseless = true) → toLower spelling ∈ key.spellings →
      (Term.ofKey spelling value (some .eq)).predicate?.isSome = true →
      (Term.ofKey spelling value (some .ne)).predicate?.isSome = true → ∀ row : Row,
        Xor ((Term.ofKey spelling value (some .eq)).finds row = true)
          ((Term.ofKey spelling value (some .ne)).finds row = true) := by
  intro h
  have hnumber : Field.manaValue ∈ numberFields := by decide
  have hspelling : toLower "mv" ∈ SearchKey.manaValue.spellings := by decide
  have hword : SearchKey.IsParityWord "odd" := .inr (by decide)
  have hparity (comparison : Comparison) : (Term.ofKey "mv" "odd" (some comparison)).predicate? =
      some (.test (.modulo .manaValue 2 1)) := by
    rw [Term.predicate_of_key hspelling, if_pos (SearchKey.accepts_numeric rfl hnumber "odd"),
      SearchKey.build_parity rfl hnumber hword]
    rfl
  have hpresent (comparison : Comparison) :
      (Term.ofKey "mv" "odd" (some comparison)).predicate?.isSome = true := by
    rw [hparity]
    rfl
  rcases h .manaValue .manaValue "mv" "odd" rfl (.inl hnumber) hspelling (hpresent .eq) (hpresent .ne)
    llanowarElves with ⟨hfinds, hmisses⟩ | ⟨hfinds, hmisses⟩
  all_goals
    rw [Term.finds_of_predicate (hparity _)] at hfinds hmisses
    exact hmisses hfinds

end CardCatalog
