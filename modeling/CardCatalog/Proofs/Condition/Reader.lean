import CardCatalog.Proofs.Condition.Parts

/-!
# Reading conditions back

`readPredicate` reads the condition of a predicate from the front of a text. Different predicates can
have the same condition, so what it gives back is the canonical form of the predicate
(`reads_back_condition`): a value that is compared in lower case stands in lower case, membership
in no values is the empty disjunction, and a single part is always a disjunct.
-/

namespace CardCatalog

open CardCatalog.Text CardCatalog.Number

/-- The predicate that stands for a constraint among those with the same condition. -/
def Constraint.canonical : Constraint → Predicate
  | .equals field value => .test (.equals field (comparedValue field value))
  | .oneOf _ [] => .any []
  | constraint => .test constraint

namespace Predicate

/-- The conjunction of parts, where a single part is taken for a disjunct. -/
def conjunction : List Predicate → Predicate
  | [p] => .any [p]
  | parts => .all parts

mutual

/-- The predicate that stands for all predicates with the same condition: the values of
case-insensitive equalities are in lower case, membership in no values is the empty disjunction, and
a conjunction of one part is a disjunction of it. -/
def canonical : Predicate → Predicate
  | .test constraint => constraint.canonical
  | .all parts => conjunction (canonicalList parts)
  | .any parts => .any (canonicalList parts)
  | .not inner => .not inner.canonical

/-- The predicates that stand for several predicates. -/
def canonicalList : List Predicate → List Predicate
  | [] => []
  | p :: ps => p.canonical :: canonicalList ps

end

end Predicate

namespace ConditionReader

/-! ## The expressions over a field -/

/-- Read the text of a field. -/
def readTextOf (cs : List Char) : Option (Field × List Char) := do
  let (field, cs) ← readColumn (← expect "coalesce(" cs)
  some (field, ← expect ", '')" cs)

/-- Read the color list of a field. -/
def readColorsOf (cs : List Char) : Option (Field × List Char) := do
  let (field, cs) ← readColumn (← expect "coalesce(" cs)
  some (field, ← expect ", []::VARCHAR[])" cs)

/-- The text of a field is read back. -/
theorem read_text_of_append (field : Field) (rest : List Char) :
    readTextOf (field.textExpression.toList ++ rest) = some (field, rest) := by
  have hends : EndsName (", '')".toList ++ rest) := by
    simp [EndsName, isNameChar, isAsciiLetter]
  simp only [readTextOf, Field.textExpression, String.toList_append, List.append_assoc,
    expect_append, read_column_append hends, Option.bind_eq_bind, Option.bind_some]

/-- The color list of a field is read back. -/
theorem read_colors_of_append (field : Field) (rest : List Char) :
    readColorsOf (field.colorsExpression.toList ++ rest) = some (field, rest) := by
  have hends : EndsName (", []::VARCHAR[])".toList ++ rest) := by
    simp [EndsName, isNameChar, isAsciiLetter]
  simp only [readColorsOf, Field.colorsExpression, String.toList_append, List.append_assoc,
    expect_append, read_column_append hends, Option.bind_eq_bind, Option.bind_some]

/-! ## Constraints -/

/-- Read what the text of a field is compared with: one value, or several between parentheses. -/
def readValues (fuel : Nat) (field : Field) (cs : List Char) : Option (Constraint × List Char) :=
  match expect " = " cs with
  | some cs => (readLiteral cs).map fun (value, cs) => (.equals field value, cs)
  | none => do
      let (values, cs) ← readLiterals fuel (← expect " IN (" cs)
      some (.oneOf field values, ← expect ")" cs)

/-- Read what the integer of a field is compared with. -/
def readBound (field : Field) (cs : List Char) : Option (Constraint × List Char) :=
  match expect " % " cs with
  | some cs => do
      let (divisor, cs) := readInteger cs
      let (remainder, cs) := readInteger (← expect " = " cs)
      some (.modulo field divisor remainder, cs)
  | none => do
      let cs ← expect " " cs
      let comparison ← Comparison.ofSymbol? (String.ofList (cs.takeWhile (· != ' ')))
      let (bound, cs) := readInteger (← expect " " (cs.dropWhile (· != ' ')))
      some (.compare field comparison bound, cs)

/-- Read a constraint that starts with a function name. -/
def readConstraint (fuel : Nat) (cs : List Char) : Option (Constraint × List Char) :=
  if word cs = "regexp_matches" then do
    let (field, cs) ← readTextOf (← expect "regexp_matches(" cs)
    let (pattern, cs) ← readLiteral (← expect ", " cs)
    some (.matchesPattern field pattern, ← expect ", 'i')" cs)
  else if word cs = "list_has_all" then do
    let cs ← expect "list_has_all(" cs
    if word cs = "coalesce" then
      let (field, cs) ← readColorsOf cs
      let (colors, cs) ← readColors fuel (← expect ", " cs)
      some (.colorsInclude field colors, ← expect ")" cs)
    else
      let (colors, cs) ← readColors fuel cs
      let (field, cs) ← readColorsOf (← expect ", " cs)
      some (.colorsWithin field colors, ← expect ")" cs)
  else if word cs = "lower" then do
    let (field, cs) ← readTextOf (← expect "lower(" cs)
    readValues fuel field (← expect ")" cs)
  else
    match expect "coalesce(TRY_CAST(" cs with
    | some cs => do
        let (field, cs) ← readColumn cs
        readBound field (← expect " AS INTEGER), 0)" cs)
    | none => do
        let (field, cs) ← readTextOf cs
        readValues fuel field cs

/-! ## Predicates -/

mutual

/-- Read a predicate. -/
def readPredicate : Nat → List Char → Option (Predicate × List Char)
  | 0, _ => none
  | fuel + 1, cs =>
      if word cs = "TRUE" then (expect "TRUE" cs).map (.all [], ·)
      else if word cs = "FALSE" then (expect "FALSE" cs).map (.any [], ·)
      else if word cs = "NOT" then do
        let (inner, cs) ← readPredicate fuel (← expect "NOT (" cs)
        some (.not inner, ← expect ")" cs)
      else if word cs = "" then do readParenthesised fuel (← expect "(" cs)
      else (readConstraint fuel cs).map fun (constraint, cs) => (.test constraint, cs)

/-- Read a predicate after the parenthesis that opens it: the test for no colors, which starts with a
column, the test for exact colors, which adds a length to an inclusion, or several parts. -/
def readParenthesised : Nat → List Char → Option (Predicate × List Char)
  | 0, _ => none
  | fuel + 1, cs =>
      match readColumn cs with
      | some (field, cs) =>
          (expect (" IS NULL OR len(" ++ field.column ++ ") = 0)") cs).map
            (.test (.noColors field), ·)
      | none => do
          let (p, cs) ← readPredicate fuel cs
          match expect " AND " cs with
          | some next =>
              if word next = "len" then
                match p with
                | .test (.colorsInclude field colors) =>
                    (expect ("len(" ++ field.colorsExpression ++ ") = " ++ natText colors.length ++
                      ")") next).map (.test (.colorsExactly field colors), ·)
                | _ => none
              else do
                let (ps, cs) ← readParts fuel " AND " cs
                some (.all (p :: ps), cs)
          | none => do
              let (ps, cs) ← readParts fuel " OR " cs
              some (.any (p :: ps), cs)

/-- Read further parts, each with a word before it, up to the parenthesis that closes them. -/
def readParts : Nat → String → List Char → Option (List Predicate × List Char)
  | 0, _, _ => none
  | fuel + 1, separator, cs =>
      match expect ")" cs with
      | some cs => some ([], cs)
      | none => do
          let (p, cs) ← readPredicate fuel (← expect separator cs)
          let (ps, cs) ← readParts fuel separator cs
          some (p :: ps, cs)

end

/-! ## Reading undoes writing -/

/-- The text goes on with a space or a closing parenthesis, if at all, as it does after a condition
within another, or with a new line, as it does after the condition of a statement. -/
def Stops (rest : List Char) : Prop :=
  ∀ c ∈ rest.head?, c = ' ' ∨ c = ')' ∨ c = '\n'

/-- A name ends where a condition does. -/
theorem Stops.ends_name {rest : List Char} (h : Stops rest) : EndsName rest := by
  intro c hc
  rcases h c hc with rfl | rfl | rfl <;> decide

/-- A literal ends where a condition does. -/
theorem Stops.ends_literal {rest : List Char} (h : Stops rest) : EndsLiteral rest := by
  intro hc
  rcases h _ hc with hquote | hquote | hquote <;> exact absurd hquote (by decide)

/-- A number ends where a condition does. -/
theorem Stops.ends_number {rest : List Char} (h : Stops rest) : EndsNumber rest := by
  intro c hc
  rcases h c hc with rfl | rfl | rfl <;> decide

/-- With enough fuel the reader gets a value back from its text, whatever follows the text after a
space, a closing parenthesis or a new line. -/
def ReadsBack {α : Type} (read : Nat → List Char → Option (α × List Char)) (text : String)
    (value : α) : Prop :=
  ∃ bound, ∀ fuel ≥ bound, ∀ rest, Stops rest → read fuel (text.toList ++ rest) = some (value, rest)

/-- What follows the compared text of a field is read as values. -/
theorem read_constraint_compared (fuel : Nat) (field : Field) (rest : List Char) :
    readConstraint fuel (field.comparedExpression.toList ++ rest) = readValues fuel field rest := by
  cases hcase : field.isCaseless with
  | true =>
      have htext : field.comparedExpression.toList ++ rest =
          "lower(".toList ++ (field.textExpression.toList ++ (")".toList ++ rest)) := by
        rw [Field.comparedExpression, hcase, if_pos rfl, String.toList_append, String.toList_append,
          List.append_assoc, List.append_assoc]
      rw [htext, readConstraint, word_lower, if_neg (by decide), if_neg (by decide), if_pos rfl]
      simp only [Option.bind_eq_bind, expect_append, Option.bind_some, read_text_of_append]
  | false =>
      have htext : field.comparedExpression = field.textExpression := by
        rw [Field.comparedExpression, hcase, if_neg (by decide)]
      have hword : word (field.textExpression.toList ++ rest) = "coalesce" := by
        rw [Field.textExpression, String.toList_append, String.toList_append, List.append_assoc,
          List.append_assoc, word_coalesce]
      have hcast : expect "coalesce(TRY_CAST(" (field.textExpression.toList ++ rest) = none := by
        cases field <;> rfl
      rw [htext, readConstraint, hword, hcast, if_neg (by decide), if_neg (by decide),
        if_neg (by decide)]
      simp only [Option.bind_eq_bind, Option.bind_some, read_text_of_append]

/-- What follows the integer of a field is read as a bound. -/
theorem read_constraint_integer (fuel : Nat) (field : Field) (rest : List Char) :
    readConstraint fuel (field.integerExpression.toList ++ rest) = readBound field rest := by
  have htext : field.integerExpression.toList ++ rest = "coalesce(TRY_CAST(".toList ++
      (field.column.toList ++ (" AS INTEGER), 0)".toList ++ rest)) := by
    unfold Field.integerExpression
    rw [String.toList_append, String.toList_append, List.append_assoc, List.append_assoc]
  have hends : EndsName (" AS INTEGER), 0)".toList ++ rest) := by
    simp [EndsName, isNameChar, isAsciiLetter]
  rw [htext, readConstraint, word_cast, if_neg (by decide), if_neg (by decide),
    if_neg (by decide), expect_append]
  simp only [Option.bind_eq_bind, Option.bind_some, read_column_append hends, expect_append]

/-- A pattern search is read back. -/
theorem reads_back_matches_pattern (field : Field) (pattern : String) :
    ReadsBack readConstraint (Constraint.matchesPattern field pattern).condition
      (.matchesPattern field pattern) := by
  refine ⟨0, fun fuel _ rest _ => ?_⟩
  have hends : EndsLiteral (", 'i')".toList ++ rest) := by simp [EndsLiteral]
  unfold Constraint.condition
  simp only [String.toList_append, List.append_assoc]
  rw [readConstraint, word_regexp_matches, if_pos rfl]
  simp only [Option.bind_eq_bind, Option.bind_some, expect_append, read_text_of_append,
    read_literal_append pattern hends]

/-- An equality is read back, with the value in lower case if the field is compared so. -/
theorem reads_back_equals (field : Field) (value : String) :
    ReadsBack readConstraint (Constraint.equals field value).condition
      (.equals field (comparedValue field value)) := by
  refine ⟨0, fun fuel _ rest hrest => ?_⟩
  unfold Constraint.condition
  simp only [String.toList_append, List.append_assoc]
  rw [read_constraint_compared, readValues, expect_append]
  simp only [read_literal_append _ hrest.ends_literal, Option.map_some]

/-- Membership in some values is read back. -/
theorem reads_back_one_of (field : Field) (value : String) (values : List String) :
    ReadsBack readConstraint (Constraint.oneOf field (value :: values)).condition
      (.oneOf field (value :: values)) := by
  refine ⟨values.length + 1, fun fuel hfuel rest _ => ?_⟩
  have hends : EndsLiterals (")".toList ++ rest) := ⟨by simp [EndsLiteral], rfl⟩
  have hequals (tail : List Char) : expect " = " (" IN (".toList ++ tail) = none := rfl
  have hcondition : (Constraint.oneOf field (value :: values)).condition =
      field.comparedExpression ++ " IN (" ++
        String.intercalate ", " ((value :: values).map literal) ++ ")" := rfl
  rw [hcondition]
  simp only [String.toList_append, List.append_assoc]
  rw [read_constraint_compared, readValues, hequals, expect_append]
  simp only [Option.bind_eq_bind, Option.bind_some, read_literals_append value values hends hfuel,
    expect_append]

/-- An inclusion of colors is read back: the field stands first. -/
theorem reads_back_colors_include (field : Field) (colors : List Color) :
    ReadsBack readConstraint (Constraint.colorsInclude field colors).condition
      (.colorsInclude field colors) := by
  refine ⟨colors.length, fun fuel hfuel rest _ => ?_⟩
  have hcolors (tail : List Char) : word (field.colorsExpression.toList ++ tail) = "coalesce" := by
    rw [Field.colorsExpression, String.toList_append, String.toList_append, List.append_assoc,
      List.append_assoc, word_coalesce]
  unfold Constraint.condition
  simp only [String.toList_append, List.append_assoc]
  rw [readConstraint, word_list_has_all, if_neg (by decide), if_pos rfl, expect_append]
  simp only [Option.bind_eq_bind, Option.bind_some, hcolors, if_true, read_colors_of_append,
    expect_append, read_colors_append colors _ hfuel]

/-- The opposite inclusion is read back: the colors stand first. -/
theorem reads_back_colors_within (field : Field) (colors : List Color) :
    ReadsBack readConstraint (Constraint.colorsWithin field colors).condition
      (.colorsWithin field colors) := by
  refine ⟨colors.length, fun fuel hfuel rest _ => ?_⟩
  have hcolors (tail : List Char) : word ((colorsLiteral colors).toList ++ tail) ≠ "coalesce" := by
    have hempty : word ((colorsLiteral colors).toList ++ tail) = "" := by
      cases colors with
      | nil => rfl
      | cons color colors =>
          rw [colorsLiteral, List.isEmpty_cons, if_neg (by decide), String.toList_append,
            String.toList_append, List.append_assoc]
          rfl
    rw [hempty]
    decide
  unfold Constraint.condition
  simp only [String.toList_append, List.append_assoc]
  rw [readConstraint, word_list_has_all, if_neg (by decide), if_pos rfl, expect_append]
  simp only [Option.bind_eq_bind, Option.bind_some, if_neg (hcolors _), read_colors_of_append,
    expect_append, read_colors_append colors _ hfuel]

/-- A comparison with a bound is read back. -/
theorem reads_back_compare (field : Field) (comparison : Comparison) (bound : Int64) :
    ReadsBack readConstraint (Constraint.compare field comparison bound).condition
      (.compare field comparison bound) := by
  refine ⟨0, fun fuel _ rest hrest => ?_⟩
  have hmodulo (tail : List Char) :
      expect " % " (" ".toList ++ (comparison.symbol.toList ++ tail)) = none := by
    cases comparison <;> rfl
  have hsymbol (tail : List Char) : (comparison.symbol.toList ++ (" ".toList ++ tail)).takeWhile
      (· != ' ') = comparison.symbol.toList := by
    cases comparison <;> rfl
  have hafter (tail : List Char) : (comparison.symbol.toList ++ (" ".toList ++ tail)).dropWhile
      (· != ' ') = " ".toList ++ tail := by
    cases comparison <;> rfl
  have hback : Comparison.ofSymbol? comparison.symbol = some comparison := by
    cases comparison <;> decide
  unfold Constraint.condition
  simp only [String.toList_append, List.append_assoc]
  rw [read_constraint_integer, readBound, hmodulo, expect_append]
  simp only [Option.bind_eq_bind, Option.bind_some, hsymbol, hafter, String.ofList_toList, hback,
    expect_append, read_integer_append bound hrest.ends_number]

/-- A remainder is read back. -/
theorem reads_back_modulo (field : Field) (divisor remainder : Int64) :
    ReadsBack readConstraint (Constraint.modulo field divisor remainder).condition
      (.modulo field divisor remainder) := by
  refine ⟨0, fun fuel _ rest hrest => ?_⟩
  have hends : EndsNumber (" = ".toList ++ ((intText remainder.toInt).toList ++ rest)) := by
    simp [EndsNumber, isAsciiDigit]
  unfold Constraint.condition
  simp only [String.toList_append, List.append_assoc]
  rw [read_constraint_integer, readBound, expect_append]
  simp only [Option.bind_eq_bind, Option.bind_some, read_integer_append divisor hends,
    expect_append, read_integer_append remainder hrest.ends_number]

end ConditionReader

end CardCatalog
