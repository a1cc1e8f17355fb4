import CardCatalog.Number.Decimal
import CardCatalog.Query.Predicate
import CardCatalog.Text.Quoted

/-!
# The readable form of a predicate

`Predicate.describe` writes a predicate for people: field names, symbols, quoted values, and
`AND`, `OR` and `NOT` between them.
-/

namespace CardCatalog

open CardCatalog.Text CardCatalog.Number

/-- The codes of colors between braces. -/
def describeColors (colors : List Color) : String :=
  "\x7b" ++ String.intercalate "," (colors.map Color.code) ++ "\x7d"

/-- Quoted texts between brackets. -/
def describeTexts (texts : List String) : String :=
  "[" ++ String.intercalate ", " (texts.map quoted) ++ "]"

/-- The readable form of a constraint. -/
def Constraint.describe : Constraint → String
  | .matchesPattern field pattern => field.label ++ " ~ /" ++ pattern ++ "/i"
  | .equals field value => field.label ++ " = " ++ quoted value
  | .oneOf field values => field.label ++ " in " ++ describeTexts values
  | .colorsInclude field colors => field.label ++ " >= " ++ describeColors colors
  | .colorsWithin field colors => field.label ++ " <= " ++ describeColors colors
  | .colorsExactly field colors => field.label ++ " = " ++ describeColors colors
  | .noColors field => field.label ++ " = \x7b\x7d"
  | .compare field comparison bound =>
      field.label ++ " " ++ comparison.symbol ++ " " ++ intText bound.toInt
  | .modulo field divisor remainder =>
      field.label ++ " % " ++ intText divisor.toInt ++ " = " ++ intText remainder.toInt

namespace Predicate

mutual

/-- The readable form of a predicate. -/
def describe : Predicate → String
  | .test constraint => constraint.describe
  | .all [] => "TRUE"
  | .all (p :: ps) => "(" ++ p.describe ++ describeRest " AND " ps ++ ")"
  | .any [] => "FALSE"
  | .any (p :: ps) => "(" ++ p.describe ++ describeRest " OR " ps ++ ")"
  | .not inner => "NOT " ++ inner.describe

/-- The readable forms of further parts, each with the word before it. -/
def describeRest (word : String) : List Predicate → String
  | [] => ""
  | p :: ps => word ++ p.describe ++ describeRest word ps

end

end Predicate

end CardCatalog
