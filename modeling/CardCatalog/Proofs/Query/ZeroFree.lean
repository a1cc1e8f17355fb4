import CardCatalog.Proofs.Query.Numeric
import CardCatalog.Proofs.Query.Texts

/-!
# Queries without the character zero

Neither escaping a text nor lower-casing it makes the character zero of another (`zero_not_mem_to_lower`), so the
texts of a query hold that character only if the query does. What else stands in a condition never holds it
(`Constraint.IsZeroFree.zero_not_mem_condition`). Since every constraint of a query suits its field, the database
takes the condition of a query without the character zero (`is_executable_compile`).
-/

namespace CardCatalog

open CardCatalog.Text CardCatalog.Number

/-! ## Lower case -/

namespace Text

/-- A valid code other than zero is that of a character other than zero. -/
theorem of_nat_ne_zero {n : Nat} (hvalid : n.isValidChar) (hn : n ≠ 0) : Char.ofNat n ≠ '\x00' := by
  intro heq
  have hcode := to_nat_of_nat hvalid
  rw [heq] at hcode
  exact hn hcode.symm

/-- The lower-case mapping beyond ASCII does not lead to the character zero. -/
theorem move_by_lower_ne_zero {c : Char} (hc : c ≠ '\x00') : moveBy lowerCaseRuns c ≠ '\x00' := by
  rcases move_by_lower_cases c with ⟨hstays, _⟩ | ⟨run, hrun, hcovers, hmoved⟩
  · rwa [hstays]
  · intro heq
    simp only [CaseRun.covers, Bool.and_eq_true, decide_eq_true_eq] at hcovers
    have hpositive := (lower_case_runs_valid run hrun).1
    have hzero : '\x00'.toNat = 0 := rfl
    rw [heq, hzero] at hmoved
    omega

/-- The simple lower-case mapping does not lead to the character zero. -/
theorem lower_char_ne_zero {c : Char} (hc : c ≠ '\x00') : lowerChar c ≠ '\x00' := by
  rw [lowerChar]
  split
  · rename_i hascii
    rw [asciiLower]
    split
    · refine of_nat_ne_zero ?_ (by omega)
      rw [Nat.isValidChar]
      omega
    · exact hc
  · split
    · decide
    · exact move_by_lower_ne_zero hc

/-- Lower-casing does not lead to the character zero, wherever the characters stand. -/
theorem zero_not_mem_lower_after {cs : List Char} (before : List Char) (h : '\x00' ∉ cs) :
    '\x00' ∉ lowerAfter before cs := by
  induction cs generalizing before with
  | nil => exact List.not_mem_nil
  | cons c cs ih =>
      obtain ⟨hc, hcs⟩ := not_or.1 (h ∘ List.mem_cons.2)
      rw [lowerAfter, List.mem_append, not_or]
      refine ⟨?_, ih _ hcs⟩
      split
      · split <;> decide
      · split
        · decide
        · exact fun hmem => lower_char_ne_zero (Ne.symm hc) (List.mem_singleton.1 hmem).symm

/-- A text without the character zero has a lower-case form without it. -/
theorem zero_not_mem_to_lower {s : String} (h : '\x00' ∉ s.toList) : '\x00' ∉ (toLower s).toList := by
  rw [toLower, String.toList_ofList]
  exact zero_not_mem_lower_after [] h

end Text

/-- A text that stems from a value without the character zero has none either. -/
theorem SearchKey.StemsFrom.zero_not_mem {value text : String} (h : StemsFrom value text)
    (hvalue : '\x00' ∉ value.toList) : '\x00' ∉ text.toList := by
  cases h with
  | escaped => rwa [Pattern.zero_mem_escape_iff]
  | lowered => exact zero_not_mem_to_lower hvalue
  | part hpart => exact fun hmem => hvalue (hpart.subset hmem)
  | known hknown =>
      have hwords : ∀ word ∈ knownWords, '\x00' ∉ word.toList := by decide
      exact hwords text hknown

/-! ## Conditions -/

/-- No text of the constraint holds the character zero. -/
def Constraint.IsZeroFree (constraint : Constraint) : Prop :=
  ∀ text ∈ constraint.texts, '\x00' ∉ text.toList

namespace Field

variable (field : Field)

/-- The name of a column has no character zero. -/
theorem zero_not_mem_column : '\x00' ∉ field.column.toList := by
  cases field <;> decide

/-- The expression for the text of a field has no character zero. -/
theorem zero_not_mem_text_expression : '\x00' ∉ field.textExpression.toList := by
  rw [textExpression]
  simp [String.toList_append, field.zero_not_mem_column]

/-- The expression for the text that a field is compared by has no character zero. -/
theorem zero_not_mem_compared_expression : '\x00' ∉ field.comparedExpression.toList := by
  rw [comparedExpression]
  split
  · simp [String.toList_append, field.zero_not_mem_text_expression]
  · exact field.zero_not_mem_text_expression

/-- The expression for the colors of a field has no character zero. -/
theorem zero_not_mem_colors_expression : '\x00' ∉ field.colorsExpression.toList := by
  rw [colorsExpression]
  simp [String.toList_append, field.zero_not_mem_column]

end Field

/-- The literal of a text without the character zero has none. -/
theorem zero_not_mem_literal {s : String} (h : '\x00' ∉ s.toList) : '\x00' ∉ (literal s).toList := by
  rwa [zero_mem_literal_iff]

/-- The value that a field is compared with has no character zero if the text has none. -/
theorem zero_not_mem_compared_value (field : Field) {s : String} (h : '\x00' ∉ s.toList) :
    '\x00' ∉ (comparedValue field s).toList := by
  rw [comparedValue]
  split
  · exact zero_not_mem_to_lower h
  · exact h

/-- Two texts without the character zero have none together. -/
theorem zero_not_mem_append {s t : String} (hs : '\x00' ∉ s.toList) (ht : '\x00' ∉ t.toList) :
    '\x00' ∉ (s ++ t).toList := by
  rw [String.toList_append, List.mem_append]
  exact not_or.2 ⟨hs, ht⟩

/-- Texts with a separator between them have the character zero only if one of them or the separator does. -/
theorem zero_not_mem_intercalate {separator : String} {texts : List String}
    (hseparator : '\x00' ∉ separator.toList) (htexts : ∀ text ∈ texts, '\x00' ∉ text.toList) :
    '\x00' ∉ (String.intercalate separator texts).toList := by
  induction texts with
  | nil => simp
  | cons text texts ih =>
      obtain ⟨htext, hrest⟩ := List.forall_mem_cons.1 htexts
      cases texts with
      | nil => rwa [String.intercalate_singleton]
      | cons next texts =>
          rw [String.intercalate_cons_cons, String.toList_append, String.toList_append, List.mem_append,
            List.mem_append]
          exact not_or.2 ⟨not_or.2 ⟨htext, hseparator⟩, ih hrest⟩

/-- The literal of a list of colors has no character zero. -/
theorem zero_not_mem_colors_literal (colors : List Color) : '\x00' ∉ (colorsLiteral colors).toList := by
  rw [colorsLiteral]
  split
  · decide
  · refine zero_not_mem_append (zero_not_mem_append (by decide) ?_) (by decide)
    refine zero_not_mem_intercalate (by decide) fun text htext => ?_
    obtain ⟨color, _, rfl⟩ := List.mem_map.1 htext
    cases color <;> decide

/-- The condition of a constraint has no character zero if its texts have none. -/
theorem Constraint.IsZeroFree.zero_not_mem_condition {constraint : Constraint} (h : constraint.IsZeroFree) :
    '\x00' ∉ constraint.condition.toList := by
  cases constraint with
  | matchesPattern field pattern =>
      have hpattern := zero_not_mem_literal (h pattern (List.mem_singleton_self _))
      have hcondition : (matchesPattern field pattern).condition =
          "regexp_matches(" ++ field.textExpression ++ ", " ++ literal pattern ++ ", 'i')" := rfl
      rw [hcondition]
      simp [String.toList_append, field.zero_not_mem_text_expression, hpattern]
  | equals field value =>
      have hcompared := zero_not_mem_compared_value field (h value (List.mem_singleton_self _))
      have hvalue := zero_not_mem_literal hcompared
      have hcondition : (equals field value).condition =
          field.comparedExpression ++ " = " ++ literal (comparedValue field value) := rfl
      rw [hcondition]
      simp [String.toList_append, field.zero_not_mem_compared_expression, hvalue]
  | oneOf field values =>
      have hvalues : '\x00' ∉ (String.intercalate ", " (values.map literal)).toList := by
        refine zero_not_mem_intercalate (by decide) fun text htext => ?_
        obtain ⟨value, hvalue, rfl⟩ := List.mem_map.1 htext
        exact zero_not_mem_literal (h value hvalue)
      have hcondition : (oneOf field values).condition = if values.isEmpty then "FALSE"
          else field.comparedExpression ++ " IN (" ++ String.intercalate ", " (values.map literal) ++ ")" := rfl
      rw [hcondition]
      split
      · decide
      · exact zero_not_mem_append (zero_not_mem_append (zero_not_mem_append
          field.zero_not_mem_compared_expression (by decide)) hvalues) (by decide)
  | colorsInclude field colors =>
      have hcondition : (colorsInclude field colors).condition =
          "list_has_all(" ++ field.colorsExpression ++ ", " ++ colorsLiteral colors ++ ")" := rfl
      rw [hcondition]
      simp [String.toList_append, field.zero_not_mem_colors_expression, zero_not_mem_colors_literal]
  | colorsWithin field colors =>
      have hcondition : (colorsWithin field colors).condition =
          "list_has_all(" ++ colorsLiteral colors ++ ", " ++ field.colorsExpression ++ ")" := rfl
      rw [hcondition]
      simp [String.toList_append, field.zero_not_mem_colors_expression, zero_not_mem_colors_literal]
  | colorsExactly field colors =>
      have hlength : '\x00' ∉ (natText colors.length).toList := zero_not_mem_int_text colors.length
      have hcondition : (colorsExactly field colors).condition =
          "(list_has_all(" ++ field.colorsExpression ++ ", " ++ colorsLiteral colors ++ ") AND len(" ++
            field.colorsExpression ++ ") = " ++ natText colors.length ++ ")" := rfl
      rw [hcondition]
      simp [String.toList_append, field.zero_not_mem_colors_expression, zero_not_mem_colors_literal, hlength]
  | noColors field =>
      have hcondition : (noColors field).condition =
          "(" ++ field.column ++ " IS NULL OR len(" ++ field.column ++ ") = 0)" := rfl
      rw [hcondition]
      simp [String.toList_append, field.zero_not_mem_column]
  | compare field comparison bound =>
      exact ((Predicate.is_executable_iff _).1 (Predicate.is_executable_compare field comparison bound) _
        (List.mem_singleton_self _)).2
  | modulo field divisor remainder =>
      have hcondition : (modulo field divisor remainder).condition =
          field.integerExpression ++ " % " ++ intText divisor.toInt ++ " = " ++ intText remainder.toInt := rfl
      rw [hcondition]
      simp [String.toList_append, field.zero_not_mem_integer_expression, zero_not_mem_int_text]

/-! ## The condition of a query -/

/-- The texts of a query without the character zero have none. -/
theorem zero_free_compile {query : String} (h : '\x00' ∉ query.toList) :
    (compile query).Each Constraint.IsZeroFree := by
  intro constraint hmem text htext
  obtain ⟨token, htoken, hstem⟩ := texts_compile query constraint hmem
  refine (hstem text htext).zero_not_mem fun hzero => ?_
  exact h (subset_of_mem_tokenize htoken (Term.value_subset token hzero))

/-- The database can carry out a constraint that suits its field. -/
theorem Constraint.IsSearch.is_executable {constraint : Constraint} (h : constraint.IsSearch) :
    constraint.isExecutable = true := by
  cases constraint with
  | matchesPattern field pattern =>
      obtain ⟨hfield, text, rfl⟩ := h
      have htexts : ∀ field ∈ phraseFields, field.isColorList = false := by decide
      simp [isExecutable, htexts field hfield, Pattern.parse_escape]
  | equals field value => simpa [isExecutable, IsSearch] using h
  | oneOf field values => simp [isExecutable, show field.isColorList = false from h]
  | colorsInclude field colors => exact h.1
  | colorsWithin field colors => exact h.1
  | colorsExactly field colors => exact h.1
  | noColors field => rfl
  | compare field comparison bound => rfl
  | modulo field divisor remainder => rfl

/-- The database takes the condition of a query without the character zero. -/
theorem is_executable_compile {query : String} (h : '\x00' ∉ query.toList) :
    (compile query).isExecutable = true := by
  rw [Predicate.is_executable_iff]
  intro constraint hmem
  exact ⟨(compile_constraints query constraint hmem).is_executable,
    (zero_free_compile h constraint hmem).zero_not_mem_condition⟩

end CardCatalog
