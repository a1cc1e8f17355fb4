import CardCatalog.Proofs.Query.Phrase

/-!
# Terms with a key

A term with a key means what the key builds of its value, if the key accepts the value
(`predicate_of_key`). In a token the key stands first, the symbol of the comparison or a colon after it,
and the value last (`parse_of_key`, `Term.parse_keyed`).
-/

namespace CardCatalog

open CardCatalog.Text

namespace Term

/-- The term that asks for a value under a key: with a comparison, or with a colon in its place. -/
def ofKey (spelling value : String) (comparison : Option Comparison) : Term :=
  ⟨some spelling, value, comparison, false⟩

/-- The term is not dropped, and its predicate selects the row. -/
def finds (term : Term) (row : Row) : Bool :=
  term.predicate?.any fun p => p.selects row

/-- A term finds what its predicate selects. -/
theorem finds_of_predicate {term : Term} {p : Predicate} (h : term.predicate? = some p) (row : Row) :
    term.finds row = p.selects row := by
  rw [finds, h, Option.any_some]

/-- Every value leaves the symbols of the comparisons that are not strict as they are. -/
theorem leaves_symbol_of_not_strict (comparison : Comparison)
    (h : ¬ (comparison = .gt ∨ comparison = .lt)) (value : List Char) : LeavesSymbol comparison value :=
  fun hstrict => absurd hstrict h

section

variable {key : SearchKey} {spelling value : String} (hspelling : toLower spelling ∈ key.spellings)
include hspelling

/-- A term with a key means what the key builds of its value, if the key accepts the value. -/
theorem predicate_of_key (value : String) (comparison : Option Comparison) :
    (ofKey spelling value comparison).predicate? =
      if key.accepts value then key.build? value comparison else none := by
  rw [ofKey, predicate?]
  simp [SearchKey.lookup_eq_of_mem_spellings hspelling]

/-- If a term with a key is not dropped, it means what the key builds of its value. -/
theorem build_of_predicate {comparison : Option Comparison} {p : Predicate}
    (h : (ofKey spelling value comparison).predicate? = some p) : key.build? value comparison = some p := by
  rw [predicate_of_key hspelling, Option.ite_none_right_eq_some] at h
  exact h.2

/-- A token with a comparison after the key is the term with that comparison, if the value leaves the
symbol as it is. -/
theorem parse_of_key {comparison : Comparison} (hvalue : value ≠ "")
    (hsymbol : LeavesSymbol comparison value.toList) :
    parse (spelling ++ comparison.symbol ++ value) = ofKey spelling value (some comparison) := by
  obtain ⟨hfilled, hletters⟩ := SearchKey.is_key_letter_of_mem_spellings hspelling
  exact parse_compared_of_leaves_symbol hfilled hletters hvalue hsymbol

end

end Term

end CardCatalog
