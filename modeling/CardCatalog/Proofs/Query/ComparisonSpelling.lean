import CardCatalog.Proofs.Query.Numeric

/-!
# Comparisons behind a colon

The symbol of a comparison may stand directly after a numeric key or behind a colon. The two spellings
are told apart by a parity, which is not looked for behind a symbol, by white space around the value,
and by a plus sign in front of it, and by nothing else (`build_behind_colon_iff`).
-/

namespace CardCatalog

open CardCatalog.Text CardCatalog.Number

/-- The text of an integer holds no white space. -/
theorem not_white_space_of_integer_text {value : String} (h : isIntegerText value = true) :
    ∀ c ∈ value.toList, isWhiteSpace c = false := by
  rw [isIntegerText, Bool.and_eq_true, List.all_eq_true] at h
  intro c hc
  split at h
  · rename_i rest hdash
    rw [hdash] at hc
    rcases List.mem_cons.1 hc with rfl | hc
    · decide
    · exact not_white_space_of_decimal_digit (h.2 c hc)
  · exact not_white_space_of_decimal_digit (h.2 c hc)

/-! ## The two spellings -/

namespace SearchKey

/-- A symbol of a comparison at the front asks for no parity. -/
theorem parity_behind_symbol (field : Field) (comparison : Comparison) (value : String) :
    parity? field (comparison.symbol ++ value) = none := by
  have hletters : comparison.symbol.toList.all isAsciiLetter = false := by
    cases comparison <;> decide
  obtain ⟨c, hsymbol, hletter⟩ := List.all_eq_false.1 hletters
  have hc : c ∈ (comparison.symbol ++ value).toList := by
    rw [String.toList_append]
    exact List.mem_append_left _ hsymbol
  have heven : eqIgnoringAsciiCase (comparison.symbol ++ value) "even" = false :=
    eq_ignoring_ascii_case_of_not_letter hc hletter (by decide)
  have hodd : eqIgnoringAsciiCase (comparison.symbol ++ value) "odd" = false :=
    eq_ignoring_ascii_case_of_not_letter hc hletter (by decide)
  rw [parity?, heven, hodd]
  rfl

/-- Behind a symbol, an integer is read from what is left without white space around it; and if there
is none, the value is taken without white space at its end. -/
theorem numeric_search_behind_symbol (field : Field) (comparison : Comparison) {value : String}
    (hequals : value.toList.head? ≠ some '=') :
    numericSearch? field (comparison.symbol ++ value) none =
      match parseInteger (String.ofList (trim value.toList)) with
      | some bound => some (.test (.compare field comparison bound))
      | none =>
          comparedTo? field comparison (String.ofList (value.toList.rdropWhile isWhiteSpace)) := by
  have htrim : trim (comparison.symbol ++ value).toList =
      comparison.symbol.toList ++ value.toList.rdropWhile isWhiteSpace := by
    rw [String.toList_append, trim_append comparison.not_white_space_symbol comparison.symbol_ne_nil]
  have hkept : (value.toList.rdropWhile isWhiteSpace).head? ≠ some '=' := by
    intro hhead
    obtain ⟨rest, hrest⟩ := List.rdropWhile_prefix isWhiteSpace (l := value.toList)
    rw [← hrest, List.head?_append, hhead] at hequals
    exact hequals rfl
  have hread := comparison.read_front_append hkept
  have hparse : parseComparison (comparison.symbol ++ value) =
      (comparison, parseInteger (String.ofList (trim value.toList))) := by
    rw [parseComparison, htrim, hread]
    simp only [Option.getD_some, trim_drop_end]
  rw [numericSearch?, parity_behind_symbol, hparse, htrim]
  cases parseInteger (String.ofList (trim value.toList)) with
  | none => simp [Comparison.strip_eq_some_iff.2 rfl]
  | some bound => rfl

/-- A value means the same directly behind the symbol of a comparison as behind a colon and the symbol:
it is no parity, it is the text of an integer if an integer can be read from it, and it does not end in
white space where it can be compared as a text. -/
structure ReadAlike (comparison : Comparison) (value : String) : Prop where
  not_even : eqIgnoringAsciiCase value "even" = false
  not_odd : eqIgnoringAsciiCase value "odd" = false
  is_integer : (parseInteger (String.ofList (trim value.toList))).isSome = true →
    isIntegerText value = true
  ends_filled : comparison = .eq ∨ comparison = .ne →
    ∀ c ∈ value.toList.getLast?, isWhiteSpace c = false

/-- A value asks for no parity if it is neither of the two words. -/
theorem parity_eq_none_iff {field : Field} {value : String} :
    parity? field value = none ↔
      eqIgnoringAsciiCase value "even" = false ∧ eqIgnoringAsciiCase value "odd" = false := by
  unfold parity?
  split_ifs with heven hodd <;> simp [*]

/-- A parity is no comparison with an integer. -/
theorem parity_ne_compare {field : Field} {value : String} {parity : Predicate}
    (h : parity? field value = some parity) (comparison : Comparison) (bound : Int64) :
    parity ≠ .test (.compare field comparison bound) := by
  unfold parity? at h
  split_ifs at h <;> simp [← Option.some.inj h]

/-- A parity is no comparison with a value. -/
theorem parity_ne_compared_to {field : Field} {value : String} {parity : Predicate}
    (h : parity? field value = some parity) (comparison : Comparison) (other : String) :
    comparedTo? field comparison other ≠ some parity := by
  unfold comparedTo?
  split
  · intro hcompared
    obtain ⟨bound, _, hbound⟩ := Option.map_eq_some_iff.1 hcompared
    exact parity_ne_compare h comparison bound hbound.symm
  · unfold parity? at h
    split_ifs at h <;> cases comparison <;> simp [← Option.some.inj h, equality, Predicate.negate]

/-- What is not the text of an integer is compared as a text, or not at all. -/
theorem compared_to_of_not_integer {value : String} (h : isIntegerText value = false) (field : Field)
    (comparison : Comparison) :
    comparedTo? field comparison value =
      if comparison = .eq ∨ comparison = .ne then some (equality field value (some comparison))
      else none := by
  cases comparison <;> simp [comparedTo?, h]

/-- Equality with different texts is different. -/
theorem equality_inj {field : Field} {value other : String} {comparison : Option Comparison} :
    equality field value comparison = equality field other comparison ↔ value = other := by
  unfold equality
  split_ifs <;> simp [Predicate.negate]

/-- Equality is no comparison with an integer. -/
theorem equality_ne_compare (field : Field) (value : String) (asked : Option Comparison)
    (comparison : Comparison) (bound : Int64) :
    equality field value asked ≠ .test (.compare field comparison bound) := by
  unfold equality
  split_ifs <;> simp [Predicate.negate]

/-- The text of an integer is the same without white space at its ends. -/
theorem trim_integer_text {value : String} (h : isIntegerText value = true) :
    String.ofList (trim value.toList) = value := by
  rw [trim_eq_self (not_white_space_of_integer_text h), String.ofList_toList]

/-- Where no integer can be read from a value, white space at its end makes no difference but to a
comparison as a text. -/
theorem compared_to_drop_end_iff {value : String} (hinteger : isIntegerText value = false)
    (hbound : parseInteger (String.ofList (trim value.toList)) = none) (field : Field)
    (comparison : Comparison) :
    comparedTo? field comparison value =
        comparedTo? field comparison (String.ofList (value.toList.rdropWhile isWhiteSpace)) ↔
      (comparison = .eq ∨ comparison = .ne →
        value = String.ofList (value.toList.rdropWhile isWhiteSpace)) := by
  rw [compared_to_of_not_integer hinteger]
  cases hrest : isIntegerText (String.ofList (value.toList.rdropWhile isWhiteSpace)) with
  | true =>
      -- The rest would be a number only in digits of another script.
      have hnone : comparedTo? field comparison
          (String.ofList (value.toList.rdropWhile isWhiteSpace)) = none := by
        have hread := trim_integer_text hrest
        rw [String.toList_ofList, trim_drop_end] at hread
        unfold comparedTo?
        rw [if_pos hrest, ← hread, hbound, Option.map_none]
      have hne : value ≠ String.ofList (value.toList.rdropWhile isWhiteSpace) := by
        intro heq
        rw [← heq, hinteger] at hrest
        cases hrest
      simp [hnone, hne]
  | false =>
      rw [compared_to_of_not_integer hrest]
      split_ifs with htext
      · simp [equality_inj, htext]
      · simp [htext]

/-- A value has no white space at its end exactly if nothing is removed there. -/
theorem ends_filled_iff {value : String} :
    (∀ c ∈ value.toList.getLast?, isWhiteSpace c = false) ↔
      value = String.ofList (value.toList.rdropWhile isWhiteSpace) := by
  rw [← String.toList_inj, String.toList_ofList, eq_comm, List.rdropWhile_eq_self_iff]
  generalize value.toList = cs
  cases cs with
  | nil => simp
  | cons c cs => simp [List.getLast?_eq_some_getLast]

/-- The text of an integer does not end in white space. -/
theorem ends_filled_of_integer {value : String} (h : isIntegerText value = true) :
    ∀ c ∈ value.toList.getLast?, isWhiteSpace c = false :=
  fun c hc => not_white_space_of_integer_text h c (List.mem_of_getLast? hc)

/-- The text of an integer is compared as the integer that is read from it without white space around
it, and if there is none, as what is left of it without white space at its end. -/
theorem compared_to_of_integer {value : String} (h : isIntegerText value = true) (field : Field)
    (comparison : Comparison) :
    comparedTo? field comparison value =
      match parseInteger (String.ofList (trim value.toList)) with
      | some bound => some (.test (.compare field comparison bound))
      | none =>
          comparedTo? field comparison (String.ofList (value.toList.rdropWhile isWhiteSpace)) := by
  rw [trim_integer_text h, ← ends_filled_iff.1 (ends_filled_of_integer h)]
  cases hbound : parseInteger value with
  | none => rfl
  | some bound =>
      unfold comparedTo?
      rw [if_pos h, hbound, Option.map_some]

/-- A numeric search for a value is the same with the comparison of the term and with its symbol in
front of the value exactly if the value means the same there. -/
theorem numeric_search_eq_iff (field : Field) (comparison : Comparison) {value : String}
    (hequals : value.toList.head? ≠ some '=') :
    numericSearch? field value (some comparison) =
        numericSearch? field (comparison.symbol ++ value) none ↔
      ReadAlike comparison value := by
  rw [numeric_search_behind_symbol field comparison hequals]
  cases hparity : parity? field value with
  | some parity =>
      have hattached : numericSearch? field value (some comparison) = some parity := by
        rw [numericSearch?, hparity]
      rw [hattached]
      refine iff_of_false (fun heq => ?_) fun h => ?_
      · split at heq
        · exact parity_ne_compare hparity _ _ (Option.some.inj heq)
        · exact parity_ne_compared_to hparity _ _ heq.symm
      · rw [parity_eq_none_iff.2 ⟨h.not_even, h.not_odd⟩] at hparity
        cases hparity
  | none =>
      have hattached : numericSearch? field value (some comparison) =
          comparedTo? field comparison value := by
        rw [numericSearch?, hparity]
      obtain ⟨heven, hodd⟩ := parity_eq_none_iff.1 hparity
      rw [hattached]
      cases hinteger : isIntegerText value with
      | true =>
          refine iff_of_true (compared_to_of_integer hinteger field comparison) ⟨heven, hodd, ?_, ?_⟩
          · exact fun _ => hinteger
          · exact fun _ => ends_filled_of_integer hinteger
      | false =>
          cases hbound : parseInteger (String.ofList (trim value.toList)) with
          | some bound =>
              refine iff_of_false ?_ fun h => ?_
              · rw [compared_to_of_not_integer hinteger]
                split_ifs <;> simp [equality_ne_compare]
              · rw [h.is_integer (by rw [hbound]; rfl)] at hinteger
                cases hinteger
          | none =>
              refine (compared_to_drop_end_iff hinteger hbound field comparison).trans ?_
              rw [← ends_filled_iff]
              refine ⟨fun h => ⟨heven, hodd, ?_, h⟩, fun h => h.ends_filled⟩
              rw [hbound]
              exact fun hsome => by cases hsome

end SearchKey

/-- A key whose field holds a number builds the same from a value with a comparison as from the value
behind the symbol, and the two spellings of a term with that key mean the same, exactly if the value is
neither of the words for a parity, is the text of an integer if an integer can be read from it without a
plus sign and the white space around it, and has no white space at its end that an equality of texts
would keep. -/
theorem build_behind_colon_iff {key : SearchKey} {field : Field} (hfield : key.fields = [field])
    (hnumber : field ∈ numberFields) (comparison : Comparison) {value : String}
    (hequals : value.toList.head? ≠ some '=') :
    (key.build? value (some comparison) = key.build? (comparison.symbol ++ value) none ↔
      SearchKey.ReadAlike comparison value) ∧
    (value ≠ "" → ∀ spelling : String, toLower spelling ∈ key.spellings →
      (buildTerm (spelling ++ comparison.symbol ++ value) =
          buildTerm (spelling ++ ":" ++ (comparison.symbol ++ value)) ↔
        SearchKey.ReadAlike comparison value)) := by
  have halike := SearchKey.numeric_search_eq_iff field comparison hequals
  constructor
  · rw [SearchKey.build_numeric hfield hnumber, SearchKey.build_numeric hfield hnumber, halike]
  · intro hvalue spelling hspelling
    obtain ⟨hfilled, hletters⟩ := SearchKey.is_key_letter_of_mem_spellings hspelling
    rw [build_numeric_term hfield hnumber hspelling
        (Term.parse_compared hfilled hletters comparison hvalue hequals),
      build_numeric_term hfield hnumber hspelling (Term.parse_keyed hfilled hletters _), halike]

/-- Six as a bound of the mana value is the same in either spelling. -/
theorem build_behind_colon_six :
    SearchKey.manaValue.fields = [.manaValue] ∧ Field.manaValue ∈ numberFields ∧
      "6".toList.head? ≠ some '=' ∧ "6" ≠ "" ∧ toLower "mv" ∈ SearchKey.manaValue.spellings ∧
      SearchKey.manaValue.build? "6" (some .ge) = SearchKey.manaValue.build? ">=6" none ∧
      buildTerm "mv>=6" = buildTerm "mv:>=6" := by
  have hfield : SearchKey.manaValue.fields = [.manaValue] := rfl
  have hnumber : Field.manaValue ∈ numberFields := by decide
  have hequals : "6".toList.head? ≠ some '=' := by decide
  have hspelling : toLower "mv" ∈ SearchKey.manaValue.spellings := by decide
  have halike : SearchKey.ReadAlike .ge "6" :=
    ⟨by decide, by decide, fun _ => by decide, by decide⟩
  obtain ⟨hbuild, hterm⟩ := build_behind_colon_iff hfield hnumber .ge hequals
  exact ⟨hfield, hnumber, hequals, by decide, hspelling, hbuild.2 halike,
    (hterm (by decide) "mv" hspelling).2 halike⟩

/-- The two spellings are not always the same: directly behind the symbol the word `even` asks for a
parity, and behind a colon and the symbol it is compared as a text. -/
theorem not_same_behind_colon :
    ¬ ∀ (key : SearchKey) (field : Field), key.fields = [field] → field ∈ numberFields →
      ∀ (comparison : Comparison) (value : String), value.toList.head? ≠ some '=' →
        key.build? value (some comparison) = key.build? (comparison.symbol ++ value) none := by
  intro h
  have hsame := h .manaValue .manaValue rfl (by decide) .eq "even" (by decide)
  have hparity : SearchKey.manaValue.build? "even" (some .eq) =
      some (.test (.modulo .manaValue 2 0)) := rfl
  have htext : SearchKey.manaValue.build? ("=" ++ "even") none =
      some (.test (.equals .manaValue "even")) := by rfl
  rw [hparity] at hsame
  exact absurd (hsame.trans htext) (by simp)

end CardCatalog
