import CardCatalog.Number.Decimal
import CardCatalog.Query.Predicate

/-!
# The database condition of a predicate

`Predicate.condition` writes a predicate as a condition over the table of cards. Absent text counts
as empty text, absent colors as no colors, and text that is no integer as zero. Values stand between
single quotes, with the quotes inside them doubled, so no value can end its own literal.
-/

namespace CardCatalog

open CardCatalog.Text CardCatalog.Number

/-- The single quotes in a text, doubled. -/
def doubleQuotes : List Char → List Char
  | [] => []
  | c :: rest => if c = '\x27' then c :: c :: doubleQuotes rest else c :: doubleQuotes rest

/-- A text literal. -/
def literal (value : String) : String :=
  String.ofList ('\x27' :: doubleQuotes value.toList ++ ['\x27'])

namespace Field

/-- The text of a field. -/
def textExpression (field : Field) : String :=
  "coalesce(" ++ field.column ++ ", '')"

/-- The text of a field, in lower case if the field is compared so. -/
def comparedExpression (field : Field) : String :=
  if field.isCaseless then "lower(" ++ field.textExpression ++ ")" else field.textExpression

/-- The integer that a field holds. -/
def integerExpression (field : Field) : String :=
  "coalesce(TRY_CAST(" ++ field.column ++ " AS INTEGER), 0)"

/-- The color list of a field. -/
def colorsExpression (field : Field) : String :=
  "coalesce(" ++ field.column ++ ", []::VARCHAR[])"

end Field

/-- A list of colors. -/
def colorsLiteral (colors : List Color) : String :=
  if colors.isEmpty then "[]::VARCHAR[]"
  else "[" ++ String.intercalate ", " (colors.map fun color => literal color.code) ++ "]"

/-- The value that a field is compared with: in lower case if the field is compared so. -/
def comparedValue (field : Field) (value : String) : String :=
  if field.isCaseless then toLower value else value

/-- The condition of a constraint. -/
def Constraint.condition : Constraint → String
  | .matchesPattern field pattern =>
      "regexp_matches(" ++ field.textExpression ++ ", " ++ literal pattern ++ ", 'i')"
  | .equals field value => field.comparedExpression ++ " = " ++ literal (comparedValue field value)
  | .oneOf field values =>
      if values.isEmpty then "FALSE"
      else field.comparedExpression ++ " IN (" ++ String.intercalate ", " (values.map literal) ++ ")"
  | .colorsInclude field colors =>
      "list_has_all(" ++ field.colorsExpression ++ ", " ++ colorsLiteral colors ++ ")"
  | .colorsWithin field colors =>
      "list_has_all(" ++ colorsLiteral colors ++ ", " ++ field.colorsExpression ++ ")"
  | .colorsExactly field colors =>
      "(list_has_all(" ++ field.colorsExpression ++ ", " ++ colorsLiteral colors ++ ") AND len(" ++
        field.colorsExpression ++ ") = " ++ natText colors.length ++ ")"
  | .noColors field => "(" ++ field.column ++ " IS NULL OR len(" ++ field.column ++ ") = 0)"
  | .compare field comparison bound =>
      field.integerExpression ++ " " ++ comparison.symbol ++ " " ++ intText bound.toInt
  | .modulo field divisor remainder =>
      field.integerExpression ++ " % " ++ intText divisor.toInt ++ " = " ++
        intText remainder.toInt

namespace Predicate

mutual

/-- The condition of a predicate. -/
def condition : Predicate → String
  | .test constraint => constraint.condition
  | .all [] => "TRUE"
  | .all (p :: ps) => "(" ++ p.condition ++ conditionRest " AND " ps ++ ")"
  | .any [] => "FALSE"
  | .any (p :: ps) => "(" ++ p.condition ++ conditionRest " OR " ps ++ ")"
  | .not inner => "NOT (" ++ inner.condition ++ ")"

/-- The conditions of further parts, each with the word before it. -/
def conditionRest (word : String) : List Predicate → String
  | [] => ""
  | p :: ps => word ++ p.condition ++ conditionRest word ps

end

end Predicate

end CardCatalog
