import CardCatalog.Proofs.Condition.Reader

/-!
# Conditions are unambiguous

The reader gets the canonical form of every predicate back from its condition, so predicates with the
same condition have the same canonical form. The converse holds as well, since the condition depends
on the canonical form only: `condition_eq_iff`. No text within a predicate, whatever quotes,
parentheses or words it holds, can therefore pass for a part of the condition around it.
-/

namespace CardCatalog

open CardCatalog.Text CardCatalog.Number

namespace ConditionReader

/-- The names that constraints start with. -/
def functionNames : List String :=
  ["regexp_matches", "list_has_all", "lower", "coalesce"]

/-- The names that conditions start with; some start with a parenthesis and so with no name. -/
def openingNames : List String :=
  functionNames ++ ["TRUE", "FALSE", "NOT", ""]

/-- No condition starts with a column. -/
theorem read_column_eq_none {cs : List Char} (h : word cs ∈ openingNames) : readColumn cs = none := by
  have hcolumn : ∀ name ∈ openingNames, Field.all.find? (fun field => field.column == name) = none := by
    decide
  rw [readColumn, hcolumn _ h]
  rfl

/-- No condition starts with a length. -/
theorem word_ne_len {cs : List Char} (h : word cs ∈ openingNames) : word cs ≠ "len" :=
  fun heq => absurd (heq ▸ h) (by decide)

/-- A text that starts with the name of a function is read as a constraint. -/
theorem read_predicate_of_function {cs : List Char} (h : word cs ∈ functionNames) (fuel : Nat) :
    readPredicate (fuel + 1) cs =
      (readConstraint fuel cs).map fun (constraint, cs) => (.test constraint, cs) := by
  have hnames : ∀ name ∈ functionNames,
      name ≠ "TRUE" ∧ name ≠ "FALSE" ∧ name ≠ "NOT" ∧ name ≠ "" := by decide
  obtain ⟨htrue, hfalse, hnot, hempty⟩ := hnames _ h
  rw [readPredicate, if_neg htrue, if_neg hfalse, if_neg hnot, if_neg hempty]

/-- A text that starts with a parenthesis is read as what stands between parentheses. -/
theorem read_predicate_parenthesis (fuel : Nat) (cs : List Char) :
    readPredicate (fuel + 1) ("(".toList ++ cs) = readParenthesised fuel cs := by
  rw [readPredicate, word_parenthesis, if_neg (by decide), if_neg (by decide), if_neg (by decide), if_pos rfl,
    expect_append]
  rfl

/-- What is read back as a constraint is read back as a predicate. -/
theorem ReadsBack.test {text : String} {constraint : Constraint}
    (hword : ∀ rest, word (text.toList ++ rest) ∈ functionNames)
    (h : ReadsBack readConstraint text constraint) :
    ReadsBack readPredicate text (.test constraint) := by
  obtain ⟨bound, hread⟩ := h
  refine ⟨bound + 1, fun fuel hfuel rest hrest => ?_⟩
  obtain ⟨fuel, rfl⟩ : ∃ n, fuel = n + 1 := ⟨fuel - 1, by omega⟩
  rw [read_predicate_of_function (hword rest), hread fuel (by omega) rest hrest]
  rfl

/-! ## The names at the front of conditions -/

/-- The condition of the constraint starts with the name of a function. The others are decided
outright or stand between parentheses. -/
def startsWithFunction : Constraint → Bool
  | .oneOf _ [] | .colorsExactly _ _ | .noColors _ => false
  | _ => true

/-- What is compared with values starts with the name of a function. -/
theorem word_compared_mem (field : Field) (rest : List Char) :
    word (field.comparedExpression.toList ++ rest) ∈ functionNames := by
  unfold Field.comparedExpression Field.textExpression
  cases field.isCaseless with
  | true =>
      rw [if_pos rfl]
      simp only [String.toList_append, List.append_assoc]
      rw [word_lower]
      decide
  | false =>
      rw [if_neg (by decide)]
      simp only [String.toList_append, List.append_assoc]
      rw [word_coalesce]
      decide

/-- What is compared with a bound starts with the name of a function. -/
theorem word_integer_mem (field : Field) (rest : List Char) :
    word (field.integerExpression.toList ++ rest) ∈ functionNames := by
  unfold Field.integerExpression
  simp only [String.toList_append, List.append_assoc]
  rw [word_cast]
  decide

/-- Every other constraint starts with the name of a function. -/
theorem word_constraint_mem {constraint : Constraint} (h : startsWithFunction constraint = true)
    (rest : List Char) : word (constraint.condition.toList ++ rest) ∈ functionNames := by
  cases constraint with
  | matchesPattern field pattern =>
      unfold Constraint.condition
      simp only [String.toList_append, List.append_assoc]
      rw [word_regexp_matches]
      decide
  | equals field value =>
      unfold Constraint.condition
      simp only [String.toList_append, List.append_assoc]
      exact word_compared_mem field _
  | oneOf field values =>
      cases values with
      | nil => exact absurd h Bool.false_ne_true
      | cons value values =>
          have hcondition : (Constraint.oneOf field (value :: values)).condition =
              field.comparedExpression ++ " IN (" ++
                String.intercalate ", " ((value :: values).map literal) ++ ")" := rfl
          rw [hcondition]
          simp only [String.toList_append, List.append_assoc]
          exact word_compared_mem field _
  | colorsInclude field colors | colorsWithin field colors =>
      unfold Constraint.condition
      simp only [String.toList_append, List.append_assoc]
      rw [word_list_has_all]
      decide
  | colorsExactly field colors | noColors field => exact absurd h Bool.false_ne_true
  | compare field comparison bound =>
      unfold Constraint.condition
      simp only [String.toList_append, List.append_assoc]
      exact word_integer_mem field _
  | modulo field divisor remainder =>
      unfold Constraint.condition
      simp only [String.toList_append, List.append_assoc]
      exact word_integer_mem field _

/-- The condition of a predicate starts with one of the opening names. -/
theorem word_condition_mem (p : Predicate) {rest : List Char} (hrest : Stops rest) :
    word (p.condition.toList ++ rest) ∈ openingNames := by
  have htrue : word ("TRUE".toList ++ rest) = "TRUE" := word_append rfl hrest.ends_name
  have hfalse : word ("FALSE".toList ++ rest) = "FALSE" := word_append rfl hrest.ends_name
  cases p with
  | test constraint =>
      rw [Predicate.condition]
      cases hstart : startsWithFunction constraint with
      | true => exact List.mem_append_left _ (word_constraint_mem hstart rest)
      | false =>
          cases constraint with
          | oneOf field values =>
              cases values with
              | nil =>
                  have hcondition : (Constraint.oneOf field []).condition = "FALSE" := rfl
                  rw [hcondition, hfalse]
                  decide
              | cons value values => exact absurd hstart.symm Bool.false_ne_true
          | colorsExactly field colors =>
              have hexactly (tail : List Char) : word ("(list_has_all(".toList ++ tail) = "" := rfl
              unfold Constraint.condition
              simp only [String.toList_append, List.append_assoc]
              rw [hexactly]
              decide
          | noColors field =>
              unfold Constraint.condition
              simp only [String.toList_append, List.append_assoc]
              rw [word_parenthesis]
              decide
          | _ => exact absurd hstart.symm Bool.false_ne_true
  | all parts =>
      cases parts with
      | nil =>
          rw [Predicate.condition, htrue]
          decide
      | cons p ps =>
          rw [Predicate.condition]
          simp only [String.toList_append, List.append_assoc]
          rw [word_parenthesis]
          decide
  | any parts =>
      cases parts with
      | nil =>
          rw [Predicate.condition, hfalse]
          decide
      | cons p ps =>
          rw [Predicate.condition]
          simp only [String.toList_append, List.append_assoc]
          rw [word_parenthesis]
          decide
  | not inner =>
      rw [Predicate.condition]
      simp only [String.toList_append, List.append_assoc]
      rw [word_not]
      decide

/-! ## Constraints -/

/-- A constraint that starts with the name of a function is read back. -/
theorem reads_back_function {constraint : Constraint}
    (h : startsWithFunction constraint = true) :
    ReadsBack readPredicate constraint.condition constraint.canonical := by
  have hword := word_constraint_mem h
  cases constraint with
  | matchesPattern field pattern => exact (reads_back_matches_pattern field pattern).test hword
  | equals field value => exact (reads_back_equals field value).test hword
  | oneOf field values =>
      cases values with
      | nil => exact absurd h Bool.false_ne_true
      | cons value values => exact (reads_back_one_of field value values).test hword
  | colorsInclude field colors => exact (reads_back_colors_include field colors).test hword
  | colorsWithin field colors => exact (reads_back_colors_within field colors).test hword
  | colorsExactly field colors | noColors field => exact absurd h Bool.false_ne_true
  | compare field comparison bound => exact (reads_back_compare field comparison bound).test hword
  | modulo field divisor remainder => exact (reads_back_modulo field divisor remainder).test hword

/-- The text of a truth value is read back. -/
theorem reads_back_true : ReadsBack readPredicate "TRUE" (.all []) := by
  refine ⟨1, fun fuel hfuel rest hrest => ?_⟩
  obtain ⟨fuel, rfl⟩ : ∃ n, fuel = n + 1 := ⟨fuel - 1, by omega⟩
  have hword : word ("TRUE".toList ++ rest) = "TRUE" := word_append rfl hrest.ends_name
  rw [readPredicate, if_pos hword, expect_append]
  rfl

/-- The text of the other truth value is read back. -/
theorem reads_back_false : ReadsBack readPredicate "FALSE" (.any []) := by
  refine ⟨1, fun fuel hfuel rest hrest => ?_⟩
  obtain ⟨fuel, rfl⟩ : ∃ n, fuel = n + 1 := ⟨fuel - 1, by omega⟩
  have hword : word ("FALSE".toList ++ rest) = "FALSE" := word_append rfl hrest.ends_name
  rw [readPredicate, hword, if_neg (by decide), if_pos rfl, expect_append]
  rfl

/-- The test for no colors is read back: it is the only one in which a column follows the
parenthesis. -/
theorem reads_back_no_colors (field : Field) :
    ReadsBack readPredicate (Constraint.noColors field).condition (.test (.noColors field)) := by
  refine ⟨2, fun fuel hfuel rest _ => ?_⟩
  obtain ⟨fuel, rfl⟩ : ∃ n, fuel = n + 2 := ⟨fuel - 2, by omega⟩
  have hcondition : (Constraint.noColors field).condition.toList ++ rest = "(".toList ++
      (field.column.toList ++
        ((" IS NULL OR len(" ++ field.column ++ ") = 0)").toList ++ rest)) := by
    unfold Constraint.condition
    simp only [String.toList_append, List.append_assoc]
  have hends : EndsName ((" IS NULL OR len(" ++ field.column ++ ") = 0)").toList ++ rest) := by
    simp [EndsName, isNameChar, isAsciiLetter]
  rw [hcondition, read_predicate_parenthesis, readParenthesised, read_column_append hends]
  simp only [expect_append, Option.map_some]

/-- The test for exact colors is read back: it is an inclusion to which a length is added. -/
theorem reads_back_colors_exactly (field : Field) (colors : List Color) :
    ReadsBack readPredicate (Constraint.colorsExactly field colors).condition
      (.test (.colorsExactly field colors)) := by
  have hfunction : startsWithFunction (.colorsInclude field colors) = true := rfl
  obtain ⟨bound, hinclude⟩ := reads_back_function hfunction
  refine ⟨bound + 2, fun fuel hfuel rest _ => ?_⟩
  obtain ⟨fuel, rfl⟩ : ∃ n, fuel = n + 2 := ⟨fuel - 2, by omega⟩
  have hcondition : (Constraint.colorsExactly field colors).condition.toList ++ rest = "(".toList ++
      ((Constraint.colorsInclude field colors).condition.toList ++ (" AND ".toList ++
        (("len(" ++ field.colorsExpression ++ ") = " ++ natText colors.length ++ ")").toList ++
          rest))) := by
    have hopening : "(list_has_all(".toList = "(".toList ++ "list_has_all(".toList := rfl
    have hmiddle : ") AND len(".toList = ")".toList ++ (" AND ".toList ++ "len(".toList) := rfl
    unfold Constraint.condition
    simp only [String.toList_append, hopening, hmiddle, List.append_assoc]
  have hstops (tail : List Char) : Stops (" AND ".toList ++ tail) := by simp [Stops]
  -- What comes first is read as an inclusion, and only the length after it tells the two apart.
  have hcolumn := read_column_eq_none
    (word_condition_mem (.test (.colorsInclude field colors)) (hstops
      (("len(" ++ field.colorsExpression ++ ") = " ++ natText colors.length ++ ")").toList ++ rest)))
  rw [Predicate.condition] at hcolumn
  have hlen : word (("len(" ++ field.colorsExpression ++ ") = " ++ natText colors.length ++
      ")").toList ++ rest) = "len" := by
    simp only [String.toList_append, List.append_assoc]
    rfl
  rw [hcondition, read_predicate_parenthesis, readParenthesised, hcolumn]
  simp only [hinclude fuel (by omega) _ (hstops _), Option.bind_eq_bind, Option.bind_some,
    expect_append, if_pos hlen, Constraint.canonical, Option.map_some]

/-- Every constraint is read back as its canonical form. -/
theorem reads_back_constraint (constraint : Constraint) :
    ReadsBack readPredicate constraint.condition constraint.canonical := by
  cases hstart : startsWithFunction constraint with
  | true => exact reads_back_function hstart
  | false =>
      cases constraint with
      | oneOf field values =>
          cases values with
          | nil => exact reads_back_false
          | cons value values => exact absurd hstart.symm Bool.false_ne_true
      | colorsExactly field colors => exact reads_back_colors_exactly field colors
      | noColors field => exact reads_back_no_colors field
      | _ => exact absurd hstart.symm Bool.false_ne_true

/-! ## Predicates -/

/-- The words that stand between the parts of a condition. -/
def IsSeparator (separator : String) : Prop :=
  separator = " AND " ∨ separator = " OR "

/-- After a part comes a separator or the closing parenthesis. -/
theorem stops_condition_rest {separator : String} (hseparator : IsSeparator separator)
    (ps : List Predicate) (rest : List Char) :
    Stops ((Predicate.conditionRest separator ps).toList ++ (")".toList ++ rest)) := by
  cases ps with
  | nil =>
      rw [Predicate.conditionRest]
      simp [Stops]
  | cons p ps =>
      rw [Predicate.conditionRest, String.toList_append, String.toList_append]
      rcases hseparator with rfl | rfl <;> simp [Stops]

/-- The closing parenthesis ends the parts. -/
theorem read_parts_closing (fuel : Nat) (separator : String) (rest : List Char) :
    readParts (fuel + 1) separator (")".toList ++ rest) = some ([], rest) := by
  rw [readParts, expect_append]

/-- A condition between parentheses is read from its first part on. -/
theorem read_parenthesised_of_first {p : Predicate} {cs : List Char} {fuel : Nat}
    (hstops : Stops cs)
    (hfirst : readPredicate fuel (p.condition.toList ++ cs) = some (p.canonical, cs))
    (hlen : ∀ next, expect " AND " cs = some next → word next ≠ "len") :
    readParenthesised (fuel + 1) (p.condition.toList ++ cs) =
      match expect " AND " cs with
      | some _ => (readParts fuel " AND " cs).map fun (ps, cs) => (.all (p.canonical :: ps), cs)
      | none => (readParts fuel " OR " cs).map fun (ps, cs) => (.any (p.canonical :: ps), cs) := by
  rw [readParenthesised, read_column_eq_none (word_condition_mem p hstops)]
  simp only [hfirst, Option.bind_eq_bind, Option.bind_some]
  cases hand : expect " AND " cs with
  | none => simp only [Option.map_eq_bind]; rfl
  | some next =>
      simp only [if_neg (hlen next hand), Option.map_eq_bind]; rfl

mutual

/-- The condition of a predicate is read back as the canonical form of the predicate. -/
theorem reads_back_condition (p : Predicate) :
    ReadsBack readPredicate p.condition p.canonical := by
  match p with
  | .test constraint => exact reads_back_constraint constraint
  | .all [] => exact reads_back_true
  | .all [p] =>
      -- No ` AND ` follows the only part, so the reader takes it for a disjunct.
      obtain ⟨bound, hfirst⟩ := reads_back_condition p
      refine ⟨bound + 3, fun fuel hfuel rest _ => ?_⟩
      obtain ⟨fuel, rfl⟩ : ∃ n, fuel = n + 3 := ⟨fuel - 3, by omega⟩
      have hstops : Stops (")".toList ++ rest) := by simp [Stops]
      have hand : expect " AND " (")".toList ++ rest) = none := rfl
      have hcondition : (Predicate.all [p]).condition.toList ++ rest =
          "(".toList ++ (p.condition.toList ++ (")".toList ++ rest)) := by
        rw [Predicate.condition, Predicate.conditionRest]
        simp only [String.toList_append, String.append_empty, List.append_assoc]
      rw [hcondition, read_predicate_parenthesis,
        read_parenthesised_of_first hstops (hfirst _ (by omega) _ hstops)
          (fun next hnext => by rw [hand] at hnext; exact absurd hnext (by simp)),
        hand, read_parts_closing]
      rfl
  | .all (p :: q :: qs) =>
      -- A second part follows the ` AND `; a length would make the first one a test for exact colors.
      obtain ⟨bound, hfirst⟩ := reads_back_condition p
      obtain ⟨boundRest, hrest⟩ := reads_back_parts (.inl rfl) (q :: qs)
      refine ⟨bound + boundRest + 2, fun fuel hfuel rest _ => ?_⟩
      obtain ⟨fuel, rfl⟩ : ∃ n, fuel = n + 2 := ⟨fuel - 2, by omega⟩
      have hstops := stops_condition_rest (.inl rfl : IsSeparator " AND ") (q :: qs) rest
      have hand : expect " AND "
          ((Predicate.conditionRest " AND " (q :: qs)).toList ++ (")".toList ++ rest)) =
            some (q.condition.toList ++
              ((Predicate.conditionRest " AND " qs).toList ++ (")".toList ++ rest))) := by
        rw [Predicate.conditionRest, String.toList_append, String.toList_append, List.append_assoc,
          List.append_assoc, expect_append]
      have hlen := word_ne_len (word_condition_mem q (stops_condition_rest (.inl rfl) qs rest))
      rw [Predicate.condition, String.toList_append, String.toList_append, String.toList_append,
        List.append_assoc, List.append_assoc, List.append_assoc, read_predicate_parenthesis,
        read_parenthesised_of_first hstops (hfirst _ (by omega) _ hstops)
          (fun next hnext => by rw [hand] at hnext; exact Option.some.inj hnext ▸ hlen),
        hand, hrest _ (by omega)]
      rfl
  | .any [] => exact reads_back_false
  | .any (p :: ps) =>
      obtain ⟨bound, hfirst⟩ := reads_back_condition p
      obtain ⟨boundRest, hrest⟩ := reads_back_parts (.inr rfl) ps
      refine ⟨bound + boundRest + 2, fun fuel hfuel rest _ => ?_⟩
      obtain ⟨fuel, rfl⟩ : ∃ n, fuel = n + 2 := ⟨fuel - 2, by omega⟩
      have hstops := stops_condition_rest (.inr rfl : IsSeparator " OR ") ps rest
      have hand : expect " AND "
          ((Predicate.conditionRest " OR " ps).toList ++ (")".toList ++ rest)) = none := by
        cases ps with
        | nil => rfl
        | cons q qs =>
            rw [Predicate.conditionRest, String.toList_append, String.toList_append,
              List.append_assoc, List.append_assoc]
            rfl
      rw [Predicate.condition, String.toList_append, String.toList_append, String.toList_append,
        List.append_assoc, List.append_assoc, List.append_assoc, read_predicate_parenthesis,
        read_parenthesised_of_first hstops (hfirst _ (by omega) _ hstops)
          (fun next hnext => by rw [hand] at hnext; exact absurd hnext (by simp)),
        hand, hrest _ (by omega)]
      rfl
  | .not inner =>
      -- The parenthesis that closes the negation ends whatever condition stands within.
      obtain ⟨bound, hinner⟩ := reads_back_condition inner
      refine ⟨bound + 1, fun fuel hfuel rest _ => ?_⟩
      obtain ⟨fuel, rfl⟩ : ∃ n, fuel = n + 1 := ⟨fuel - 1, by omega⟩
      have hstops : Stops (")".toList ++ rest) := by simp [Stops]
      rw [Predicate.condition, String.toList_append, String.toList_append, List.append_assoc,
        List.append_assoc, readPredicate, word_not, if_neg (by decide), if_neg (by decide), if_pos rfl]
      simp only [Option.bind_eq_bind, Option.bind_some, expect_append,
        hinner fuel (by omega) _ hstops, Predicate.canonical]

/-- The conditions of further parts are read back as the canonical forms of the parts. -/
theorem reads_back_parts {separator : String} (hseparator : IsSeparator separator)
    (ps : List Predicate) : ∃ bound, ∀ fuel ≥ bound, ∀ rest, readParts fuel separator
      ((Predicate.conditionRest separator ps).toList ++ (")".toList ++ rest)) =
        some (Predicate.canonicalList ps, rest) := by
  match ps with
  | [] =>
      refine ⟨1, fun fuel hfuel rest => ?_⟩
      obtain ⟨fuel, rfl⟩ : ∃ n, fuel = n + 1 := ⟨fuel - 1, by omega⟩
      rw [Predicate.conditionRest, readParts]
      rfl
  | p :: ps =>
      obtain ⟨bound, hfirst⟩ := reads_back_condition p
      obtain ⟨boundRest, hrest⟩ := reads_back_parts hseparator ps
      refine ⟨bound + boundRest + 1, fun fuel hfuel rest => ?_⟩
      obtain ⟨fuel, rfl⟩ : ∃ n, fuel = n + 1 := ⟨fuel - 1, by omega⟩
      have hclosing (tail : List Char) : expect ")" (separator.toList ++ tail) = none := by
        rcases hseparator with rfl | rfl <;> rfl
      rw [Predicate.conditionRest, String.toList_append, String.toList_append, List.append_assoc,
        List.append_assoc, readParts, hclosing]
      simp only [expect_append, Option.bind_eq_bind, Option.bind_some,
        hfirst fuel (by omega) _ (stops_condition_rest hseparator ps rest),
        hrest fuel (by omega), Predicate.canonicalList]

end

end ConditionReader

/-! ## The condition depends on the canonical form only -/

/-- The condition of a constraint whose value is in lower case already, where it is compared so. -/
def Constraint.canonicalCondition : Constraint → String
  | .equals field value => field.comparedExpression ++ " = " ++ literal value
  | constraint => constraint.condition

namespace Predicate

mutual

/-- The condition of a predicate whose values are in lower case already, where they are compared
so. -/
def canonicalCondition : Predicate → String
  | .test constraint => constraint.canonicalCondition
  | .all [] => "TRUE"
  | .all (p :: ps) => "(" ++ p.canonicalCondition ++ canonicalConditionRest " AND " ps ++ ")"
  | .any [] => "FALSE"
  | .any (p :: ps) => "(" ++ p.canonicalCondition ++ canonicalConditionRest " OR " ps ++ ")"
  | .not inner => "NOT (" ++ inner.canonicalCondition ++ ")"

/-- The conditions of further parts, each with the word before it. -/
def canonicalConditionRest (word : String) : List Predicate → String
  | [] => ""
  | p :: ps => word ++ p.canonicalCondition ++ canonicalConditionRest word ps

end

end Predicate

/-- The condition of a constraint can be written from its canonical form. -/
theorem Constraint.condition_eq_canonical (constraint : Constraint) :
    constraint.condition = constraint.canonical.canonicalCondition := by
  cases constraint with
  | oneOf field values => cases values <;> rfl
  | _ => rfl

namespace Predicate

mutual

/-- The condition of a predicate can be written from its canonical form. -/
theorem condition_eq_canonical (p : Predicate) :
    p.condition = p.canonical.canonicalCondition := by
  match p with
  | .test constraint =>
      rw [condition, canonical]
      exact constraint.condition_eq_canonical
  | .all [] => rfl
  | .all [p] =>
      rw [condition, conditionRest, canonical, canonicalList, canonicalList, conjunction,
        canonicalCondition, canonicalConditionRest, condition_eq_canonical p]
  | .all (p :: q :: qs) =>
      rw [condition, canonical, canonicalList, canonicalList, conjunction, canonicalCondition,
        condition_eq_canonical p, condition_rest_eq_canonical " AND " (q :: qs), canonicalList]
      exact fun _ h => by cases h
  | .any [] => rfl
  | .any (p :: ps) =>
      rw [condition, canonical, canonicalList, canonicalCondition, condition_eq_canonical p,
        condition_rest_eq_canonical " OR " ps]
  | .not inner =>
      rw [condition, canonical, canonicalCondition, condition_eq_canonical inner]

/-- The conditions of further parts can be written from their canonical forms. -/
theorem condition_rest_eq_canonical (word : String) (ps : List Predicate) :
    conditionRest word ps = canonicalConditionRest word (canonicalList ps) := by
  match ps with
  | [] => rfl
  | p :: ps =>
      rw [conditionRest, canonicalList, canonicalConditionRest, condition_eq_canonical p,
        condition_rest_eq_canonical word ps]

end

/-- Two predicates have the same condition if and only if they have the same canonical form. -/
theorem condition_eq_iff (p q : Predicate) :
    p.condition = q.condition ↔ p.canonical = q.canonical := by
  constructor
  · intro h
    -- One reader gets both canonical forms back from the same text.
    obtain ⟨boundLeft, hleft⟩ := ConditionReader.reads_back_condition p
    obtain ⟨boundRight, hright⟩ := ConditionReader.reads_back_condition q
    have hstops : ConditionReader.Stops [] := by simp [ConditionReader.Stops]
    have hp := hleft (boundLeft + boundRight) (by omega) [] hstops
    have hq := hright (boundLeft + boundRight) (by omega) [] hstops
    rw [h, hq] at hp
    exact (congrArg Prod.fst (Option.some.inj hp)).symm
  · intro h
    rw [condition_eq_canonical p, condition_eq_canonical q, h]

end Predicate

end CardCatalog
