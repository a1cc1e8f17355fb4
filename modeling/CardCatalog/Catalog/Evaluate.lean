import CardCatalog.Catalog.Row
import CardCatalog.Catalog.Truth
import CardCatalog.Query.Condition
import CardCatalog.Text.Pattern.Reader

/-!
# What a predicate says of a stored card

`Predicate.eval` gives the truth of a predicate for a row. Only a division by zero is unknown; a
text, a color list or a number that is absent counts as an empty one or as zero. A predicate is
executable when its constraints suit the columns they stand on and its patterns can be read.
-/

namespace CardCatalog

open CardCatalog.Text

/-- Every color of the first list is in the second. -/
def allAmong (colors : List Color) (list : List (Option String)) : Bool :=
  colors.all fun color => list.contains (some color.code)

/-- Every entry of a list is one of the colors. An entry without a value counts for nothing. -/
def entriesAmong (list : List (Option String)) (colors : List Color) : Bool :=
  list.all fun entry => entry.all fun code => (colors.map Color.code).contains code

namespace Constraint

/-- The truth of a constraint for a row. -/
def eval (row : Row) : Constraint → Truth
  | .matchesPattern field pattern =>
      match Pattern.parse? true pattern with
      | some pattern => .ofBool (pattern.matchesIn (row.text field))
      | none => .unknown
  | .equals field value => .ofBool (row.comparedText field == comparedValue field value)
  | .oneOf field values => .ofBool (values.contains (row.comparedText field))
  | .colorsInclude field colors => .ofBool (allAmong colors (row.colorList field))
  | .colorsWithin field colors => .ofBool (entriesAmong (row.colorList field) colors)
  | .colorsExactly field colors =>
      .ofBool (allAmong colors (row.colorList field) &&
        (row.colorList field).length == colors.length)
  | .noColors field =>
      if field.isColorList then .ofBool (row.colorList field).isEmpty
      else .ofBool (row.text field).isEmpty
  | .compare field comparison bound =>
      .ofBool (comparison.holds (row.integer field) bound.toInt)
  | .modulo field divisor remainder =>
      if divisor.toInt = 0 then .unknown
      else .ofBool ((row.integer field).tmod divisor.toInt == remainder.toInt)

/-- The constraint suits the column it stands on, and its pattern can be read. -/
def isExecutable : Constraint → Bool
  | .matchesPattern field pattern =>
      !field.isColorList && (Pattern.parse? true pattern).isSome
  | .equals field _ => !field.isColorList
  | .oneOf field values => values.isEmpty || !field.isColorList
  | .colorsInclude field _ => field.isColorList
  | .colorsWithin field _ => field.isColorList
  | .colorsExactly field _ => field.isColorList
  | .noColors _ => true
  | .compare _ _ _ => true
  | .modulo _ _ _ => true

/-- The constraint divides the least 32-bit integer by minus one, whose quotient is out of
range. -/
def overflows (row : Row) : Constraint → Bool
  | .modulo field divisor _ => divisor.toInt == -1 && row.integer field == -0x80000000
  | _ => false

end Constraint

namespace Predicate

mutual

/-- The truth of a predicate for a row. -/
def eval (row : Row) : Predicate → Truth
  | .test constraint => constraint.eval row
  | .all parts => evalAll row parts
  | .any parts => evalAny row parts
  | .not inner => (inner.eval row).not

/-- The truth of a conjunction. -/
def evalAll (row : Row) : List Predicate → Truth
  | [] => .yes
  | p :: ps => (p.eval row).and (evalAll row ps)

/-- The truth of a disjunction. -/
def evalAny (row : Row) : List Predicate → Truth
  | [] => .no
  | p :: ps => (p.eval row).or (evalAny row ps)

end

mutual

/-- The constraints at the leaves of a predicate. -/
def constraints : Predicate → List Constraint
  | .test constraint => [constraint]
  | .all parts => constraintsOf parts
  | .any parts => constraintsOf parts
  | .not inner => inner.constraints

/-- The constraints at the leaves of several predicates. -/
def constraintsOf : List Predicate → List Constraint
  | [] => []
  | p :: ps => p.constraints ++ constraintsOf ps

end

/-- A search keeps the row. -/
def selects (predicate : Predicate) (row : Row) : Bool :=
  (predicate.eval row).holds

/-- The database takes the condition of the predicate: every constraint is executable, and no text
in it holds the character zero, which ends a condition. -/
def isExecutable (predicate : Predicate) : Bool :=
  predicate.constraints.all Constraint.isExecutable &&
    !predicate.condition.toList.contains '\x00'

end Predicate

end CardCatalog
