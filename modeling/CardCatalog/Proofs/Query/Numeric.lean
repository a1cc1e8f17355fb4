import CardCatalog.Proofs.Catalog.StoredNumber
import CardCatalog.Proofs.Query.NumberValue
import CardCatalog.Proofs.Query.Phrase

/-!
# Comparisons with numbers

A key whose field holds a number can be compared with an integer of any size. The symbol may stand
directly after the key or behind a colon, and a card is selected if the integer that its field is
read as stands in the relation to the very integer of the term (`selects_comparison_term`).
-/

namespace CardCatalog

open CardCatalog.Text CardCatalog.Number

/-! ## Terms with a numeric key -/

namespace SearchKey

variable {key : SearchKey} {field : Field}

/-- A key whose field holds a number builds a numeric search. -/
theorem build_numeric (hfield : key.fields = [field]) (hnumber : field ∈ numberFields)
    (value : String) (comparison : Option Comparison) :
    key.build? value comparison = numericSearch? field value comparison := by
  cases key
  case manaValue | power | toughness | loyalty =>
    obtain ⟨rfl, _⟩ := List.cons_eq_cons.1 hfield
    rfl
  case name | exclude => exact absurd hfield (by simp [fields])
  all_goals
    obtain ⟨rfl, _⟩ := List.cons_eq_cons.1 hfield
    exact absurd hnumber (by decide)

/-- A key whose field holds a number accepts every value. -/
theorem accepts_numeric (hfield : key.fields = [field]) (hnumber : field ∈ numberFields)
    (value : String) : key.accepts value = true := by
  cases key
  case set | layout | language =>
    obtain ⟨rfl, _⟩ := List.cons_eq_cons.1 hfield
    exact absurd hnumber (by decide)
  all_goals rfl

/-- A value with a digit asks for no parity. -/
theorem parity_eq_none {value : String} {c : Char} (hc : c ∈ value.toList)
    (hdigit : isAsciiDigit c = true) : parity? field value = none := by
  have hletter : ¬ isAsciiLetter c = true := by
    rw [is_ascii_digit_iff] at hdigit
    rw [is_ascii_letter_iff]
    omega
  have heven : eqIgnoringAsciiCase value "even" = false :=
    eq_ignoring_ascii_case_of_not_letter hc hletter (by decide)
  have hodd : eqIgnoringAsciiCase value "odd" = false :=
    eq_ignoring_ascii_case_of_not_letter hc hletter (by decide)
  rw [parity?, heven, hodd]
  rfl

end SearchKey

/-- The characters of a numeric term are plain: letters, signs, a colon and digits. -/
theorem Token.is_plain_literal {literal : IntegerLiteral} {c : Char} (h : c ∈ literal.chars) :
    Token.IsPlain c := by
  rcases literal.eq_dash_or_is_digit h with rfl | hdigit
  · decide
  · rw [is_ascii_digit_iff] at hdigit
    refine ⟨?_, ?_, literal.not_white_space h⟩
    all_goals
      simp only [isQuote, isParen, Bool.or_eq_false_iff, beq_eq_false_iff_ne]
      constructor
      all_goals
        rintro rfl
        revert hdigit
        decide

/-- The symbols of comparisons are plain. -/
theorem Token.is_plain_symbol (comparison : Comparison) :
    ∀ c ∈ comparison.symbol.toList, Token.IsPlain c := by
  cases comparison <;> exact forall_is_plain_of_all (by decide)

section

variable {key : SearchKey} {field : Field} {spelling : String} (hfield : key.fields = [field])
  (hnumber : field ∈ numberFields) (hspelling : toLower spelling ∈ key.spellings)

include hfield hnumber hspelling

/-- A term with a numeric key is a numeric search for its value. -/
theorem build_numeric_term {token value : String} {comparison : Option Comparison}
    (hparse : Term.parse token = ⟨some spelling, value, comparison, false⟩) :
    buildTerm token = SearchKey.numericSearch? field value comparison := by
  rw [build_term_of_parse hspelling hparse (SearchKey.accepts_numeric hfield hnumber value),
    SearchKey.build_numeric hfield hnumber]

omit hfield hnumber in
/-- A key with plain characters after it is one token. -/
theorem tokenize_spelling_append {rest : String} (hrest : ∀ c ∈ rest.toList, Token.IsPlain c) :
    tokenize (spelling ++ rest) = [spelling ++ rest] := by
  obtain ⟨hfilled, hletters⟩ := SearchKey.is_key_letter_of_mem_spellings hspelling
  refine tokenize_plain ?_ ?_
  · intro hempty
    exact hfilled (String.append_eq_empty_iff.1 hempty).1
  · rw [String.toList_append, List.forall_mem_append]
    exact ⟨fun c hc => Token.is_plain_of_is_key_letter (hletters c hc), hrest⟩

end

/-! ## Comparisons -/

/-- The ways to write a term that compares a key with a literal: with the symbol directly after the
key, with the symbol behind a colon, and for equality with the colon alone. -/
inductive ComparisonTerm (spelling : String) (literal : IntegerLiteral) :
    Comparison → String → Prop where
  | attached (comparison : Comparison) :
      ComparisonTerm spelling literal comparison (spelling ++ comparison.symbol ++ literal.text)
  | behindColon (comparison : Comparison) :
      ComparisonTerm spelling literal comparison
        (spelling ++ ":" ++ (comparison.symbol ++ literal.text))
  | colonAlone : ComparisonTerm spelling literal .eq (spelling ++ ":" ++ literal.text)

namespace ComparisonTerm

variable {key : SearchKey} {field : Field} {spelling token : String} {comparison : Comparison}
  {literal : IntegerLiteral}

/-- Between the key and the literal of a comparison stand plain characters. -/
theorem exists_between (h : ComparisonTerm spelling literal comparison token) :
    ∃ between : String, token = spelling ++ (between ++ literal.text) ∧
      ∀ c ∈ between.toList, Token.IsPlain c := by
  have hsymbol := Token.is_plain_symbol comparison
  cases h with
  | attached => exact ⟨comparison.symbol, String.append_assoc .., hsymbol⟩
  | behindColon =>
      refine ⟨":" ++ comparison.symbol, by simp only [String.append_assoc], ?_⟩
      rw [String.toList_append, List.forall_mem_append]
      exact ⟨Token.forall_is_plain_of_all (by decide), hsymbol⟩
  | colonAlone =>
      exact ⟨":", String.append_assoc .., Token.forall_is_plain_of_all (by decide)⟩

/-- A comparison is one token, which is no parenthesis and not the word `or`. -/
theorem tokenize_eq (hspelling : toLower spelling ∈ key.spellings)
    (h : ComparisonTerm spelling literal comparison token) :
    tokenize token = [token] ∧ Symbol.IsPlain token := by
  obtain ⟨between, rfl, hbetween⟩ := h.exists_between
  have hchars : literal.text.toList = literal.chars := String.toList_ofList
  constructor
  · refine tokenize_spelling_append hspelling ?_
    rw [String.toList_append, List.forall_mem_append, hchars]
    exact ⟨hbetween, fun _ => Token.is_plain_literal⟩
  · obtain ⟨digit, hmem, hdigit⟩ := literal.exists_digit
    have hmem : digit ∈ (spelling ++ (between ++ literal.text)).toList := by
      rw [String.toList_append, String.toList_append, hchars]
      exact List.mem_append_right _ (List.mem_append_right _ hmem)
    rw [is_ascii_digit_iff] at hdigit
    refine is_plain_of_mem hmem ?_ ?_
    · simp only [Token.isParen, Bool.or_eq_false_iff, beq_eq_false_iff_ne]
      constructor
      all_goals
        rintro rfl
        revert hdigit
        decide
    · rw [is_ascii_letter_iff]
      omega

/-- A comparison asks for the relation to the value of its literal, clamped to 64 bits. -/
theorem build_eq (hfield : key.fields = [field]) (hnumber : field ∈ numberFields)
    (hspelling : toLower spelling ∈ key.spellings)
    (h : ComparisonTerm spelling literal comparison token) :
    buildTerm token =
      some (.test (.compare field comparison (Int64.ofIntClamp literal.value))) := by
  obtain ⟨hfilled, hletters⟩ := SearchKey.is_key_letter_of_mem_spellings hspelling
  obtain ⟨digit, hmem, hdigit⟩ := literal.exists_digit
  have hchars : literal.text.toList = literal.chars := String.toList_ofList
  have hliteral : digit ∈ literal.text.toList := hchars ▸ hmem
  cases h with
  | attached =>
      have hvalue : literal.text ≠ "" := by
        intro hempty
        rw [hempty] at hliteral
        exact absurd hliteral (by simp)
      have hequals : literal.text.toList.head? ≠ some '=' :=
        hchars ▸ literal.head_ne '=' (by decide) (by decide)
      rw [build_numeric_term hfield hnumber hspelling
          (Term.parse_compared hfilled hletters comparison hvalue hequals),
        SearchKey.numericSearch?, SearchKey.parity_eq_none hliteral hdigit]
      simp only [SearchKey.comparedTo?, literal.is_integer_text, literal.parse_integer_literal,
        if_true, Option.map_some]
  | behindColon =>
      have hbehind : digit ∈ (comparison.symbol ++ literal.text).toList := by
        rw [String.toList_append]
        exact List.mem_append_right _ hliteral
      rw [build_numeric_term hfield hnumber hspelling (Term.parse_keyed hfilled hletters _),
        SearchKey.numericSearch?, SearchKey.parity_eq_none hbehind hdigit]
      simp only [parse_comparison_append]
  | colonAlone =>
      rw [build_numeric_term hfield hnumber hspelling (Term.parse_keyed hfilled hletters _),
        SearchKey.numericSearch?, SearchKey.parity_eq_none hliteral hdigit]
      simp only [parse_comparison_literal]

end ComparisonTerm

/-- The text of an integer has no character zero. -/
theorem zero_not_mem_int_text (n : Int) : '\x00' ∉ (intText n).toList := by
  have hdigits : '\x00' ∉ natDigits n.natAbs := fun hmem =>
    absurd (is_ascii_digit_of_mem_nat_digits _ hmem) (by decide)
  rw [intText, String.toList_ofList]
  split
  · exact fun hmem => hdigits ((List.mem_cons.1 hmem).resolve_left (by decide))
  · exact hdigits

/-- The expression for the integer of a field has no character zero. -/
theorem Field.zero_not_mem_integer_expression (field : Field) :
    '\x00' ∉ field.integerExpression.toList := by
  have hcolumn : '\x00' ∉ field.column.toList := by cases field <;> decide
  have hexpression : field.integerExpression =
      "coalesce(TRY_CAST(" ++ field.column ++ " AS INTEGER), 0)" := rfl
  rw [hexpression]
  simp [String.toList_append, hcolumn]

/-- The database takes the condition of a comparison with an integer. -/
theorem Predicate.is_executable_compare (field : Field) (comparison : Comparison) (bound : Int64) :
    (Predicate.test (.compare field comparison bound)).isExecutable = true := by
  rw [is_executable_iff]
  intro c hc
  obtain rfl := List.mem_singleton.1 hc
  have hsymbol : '\x00' ∉ comparison.symbol.toList := by cases comparison <;> decide
  have hcondition : (Constraint.compare field comparison bound).condition =
      field.integerExpression ++ " " ++ comparison.symbol ++ " " ++ intText bound.toInt := rfl
  refine ⟨rfl, ?_⟩
  rw [hcondition]
  simp [String.toList_append, field.zero_not_mem_integer_expression, hsymbol,
    zero_not_mem_int_text]

/-- A comparison with a numeric key means the comparison with its literal, which the database
takes; and it selects the cards whose field, read as a 32-bit integer or as zero where it is
absent or cannot be read so, stands in the relation to the value of the literal, however great
that is. -/
theorem selects_comparison_term {key : SearchKey} {field : Field} {spelling : String}
    (hfield : key.fields = [field]) (hnumber : field ∈ numberFields)
    (hspelling : toLower spelling ∈ key.spellings) {comparison : Comparison}
    {literal : IntegerLiteral} {token : String}
    (hterm : ComparisonTerm spelling literal comparison token) (row : Row) :
    buildTerm token =
        some (.test (.compare field comparison (Int64.ofIntClamp literal.value))) ∧
      (compile token).isExecutable = true ∧
      ((compile token).selects row = true ↔
        comparison.Relates (((row.text? field).bind StoredNumber.toInt32?).getD 0)
          literal.value) := by
  have hbuild := hterm.build_eq hfield hnumber hspelling
  obtain ⟨htokens, hplain⟩ := hterm.tokenize_eq hspelling
  have hrange := (StoredNumber.is_int32_iff _).1
    (StoredNumber.is_int32_integer_of (row.text? field))
  refine ⟨hbuild, ?_, ?_⟩
  · exact is_executable_of_plain_token htokens hplain hbuild
      (Predicate.is_executable_compare field comparison _)
  · rw [selects_of_plain_token htokens hplain hbuild, Predicate.selects, Predicate.eval,
      Constraint.eval, Truth.holds_of_bool, Row.integer, Comparison.holds_clamp _ hrange,
      Comparison.holds_iff_relates, StoredNumber.integerOf]

/-- The literal of `-10 ^ 20`, which is less than every 64-bit integer. -/
def IntegerLiteral.beyondRange : IntegerLiteral where
  negative := true
  digits := '1' :: List.replicate 20 '0'
  digits_ne_nil := List.cons_ne_nil _ _
  ascii := List.all_eq_true.1 (by decide)

/-- The power of the elves is greater than an integer below all 64-bit integers. -/
theorem selects_comparison_term_elves :
    SearchKey.power.fields = [.power] ∧ Field.power ∈ numberFields ∧
      toLower "POW" ∈ SearchKey.power.spellings ∧
      ComparisonTerm "POW" .beyondRange .gt "POW:>-100000000000000000000" ∧
      (compile "POW:>-100000000000000000000").selects llanowarElves = true := by
  have hnumber : Field.power ∈ numberFields := by decide
  have hspelling : toLower "POW" ∈ SearchKey.power.spellings := by decide
  have hterm : ComparisonTerm "POW" .beyondRange .gt "POW:>-100000000000000000000" :=
    .behindColon .gt
  refine ⟨rfl, hnumber, hspelling, hterm, ?_⟩
  exact (selects_comparison_term rfl hnumber hspelling hterm llanowarElves).2.2.2 (by decide)

end CardCatalog
