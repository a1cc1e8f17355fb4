import CardCatalog.Json.Basic
import CardCatalog.Query.Predicate

/-!
# Predicates as JSON

A predicate is written as an object that names its kind under `op` and holds its parts under keys
of their own. Reading takes the keys in any order and passes over others. The parts may also stand
in an array after the kind, in the order in which they are written.
-/

namespace CardCatalog

/-- An integer of 64 bits as JSON. -/
def Json.ofInt64 (n : Int64) : Json :=
  .ofInt n.toInt

/-- The name of a case: a text, or the only key of an object that holds `null` under it. -/
def Json.asName? : Json → Option String
  | .text s => some s
  | .object [(s, .null)] => some s
  | _ => none

/-- Read a field by its name. -/
def Field.ofJson? (value : Json) : Option Field := do
  Field.ofLabel? (← value.asName?)

/-- Read a comparison by its symbol. -/
def Comparison.ofJson? (value : Json) : Option Comparison := do
  Comparison.ofSymbol? (← value.asName?)

/-- Read a color by its code. -/
def Color.ofJson? (value : Json) : Option Color := do
  Color.ofCode? (← value.asName?)

/-- Read a list of colors. -/
def Color.listOfJson? (value : Json) : Option (List Color) := do
  (← value.asArray?).mapM Color.ofJson?

namespace Constraint

/-- Colors as JSON. -/
def colorsJson (colors : List Color) : Json :=
  .array (colors.map fun color => .text color.code)

/-- The kind of a constraint and its parts. -/
def members : Constraint → List (String × Json)
  | .matchesPattern field pattern =>
      [("op", .text "matches"), ("field", .text field.label), ("pattern", .text pattern)]
  | .equals field value =>
      [("op", .text "equals"), ("field", .text field.label), ("value", .text value)]
  | .oneOf field values =>
      [("op", .text "one_of"), ("field", .text field.label), ("values", .ofTexts values)]
  | .colorsInclude field colors =>
      [("op", .text "colors_include"), ("field", .text field.label),
       ("colors", colorsJson colors)]
  | .colorsWithin field colors =>
      [("op", .text "colors_within"), ("field", .text field.label), ("colors", colorsJson colors)]
  | .colorsExactly field colors =>
      [("op", .text "colors_exactly"), ("field", .text field.label),
       ("colors", colorsJson colors)]
  | .noColors field => [("op", .text "no_colors"), ("field", .text field.label)]
  | .compare field comparison bound =>
      [("op", .text "compare"), ("field", .text field.label), ("cmp", .text comparison.symbol),
       ("value", .ofInt64 bound)]
  | .modulo field divisor remainder =>
      [("op", .text "modulo"), ("field", .text field.label), ("divisor", .ofInt64 divisor),
       ("remainder", .ofInt64 remainder)]

/-- The names of the parts of a kind of constraint, in the order in which they are written. -/
def partNames (kind : String) : Option (List String) :=
  if kind = "matches" then some ["field", "pattern"]
  else if kind = "equals" then some ["field", "value"]
  else if kind = "one_of" then some ["field", "values"]
  else if kind = "colors_include" ∨ kind = "colors_within" ∨ kind = "colors_exactly" then
    some ["field", "colors"]
  else if kind = "no_colors" then some ["field"]
  else if kind = "compare" then some ["field", "cmp", "value"]
  else if kind = "modulo" then some ["field", "divisor", "remainder"]
  else none

/-- Read the parts of a kind of constraint. -/
def ofParts? (kind : String) (parts : List (String × Json)) : Option Constraint := do
  let part (key : String) : Json := (parts.lookup key).getD .null
  let field ← Field.ofJson? (part "field")
  if kind = "matches" then some (.matchesPattern field (← (part "pattern").asText?))
  else if kind = "equals" then some (.equals field (← (part "value").asText?))
  else if kind = "one_of" then some (.oneOf field (← (part "values").asTexts?))
  else if kind = "colors_include" then
    some (.colorsInclude field (← Color.listOfJson? (part "colors")))
  else if kind = "colors_within" then
    some (.colorsWithin field (← Color.listOfJson? (part "colors")))
  else if kind = "colors_exactly" then
    some (.colorsExactly field (← Color.listOfJson? (part "colors")))
  else if kind = "no_colors" then some (.noColors field)
  else if kind = "compare" then
    some (.compare field (← Comparison.ofJson? (part "cmp")) (← (part "value").asInt64?))
  else if kind = "modulo" then
    some (.modulo field (← (part "divisor").asInt64?) (← (part "remainder").asInt64?))
  else none

end Constraint

namespace Predicate

mutual

/-- A predicate as JSON. -/
def toJson : Predicate → Json
  | .test constraint => .object constraint.members
  | .all parts => .object [("op", .text "and"), ("all", .array (listToJson parts))]
  | .any parts => .object [("op", .text "or"), ("any", .array (listToJson parts))]
  | .not inner => .object [("op", .text "not"), ("inner", inner.toJson)]

/-- A list of predicates as JSON values. -/
def listToJson : List Predicate → List Json
  | [] => []
  | p :: ps => p.toJson :: listToJson ps

end

mutual

/-- Read a predicate. -/
def ofJson? : Json → Option Predicate
  | .object members =>
      match members.lookup "op" with
      | some (.text kind) =>
          if kind = "and" then (listUnder? "all" members).map .all
          else if kind = "or" then (listUnder? "any" members).map .any
          else if kind = "not" then (under? "inner" members).map .not
          else (Constraint.ofParts? kind members).map .test
      | _ => none
  | .array [.text kind, part] =>
      if kind = "not" then (ofJson? part).map .not
      else
        match part with
        | .array items =>
            if kind = "and" then (listOfJson? items).map .all
            else if kind = "or" then (listOfJson? items).map .any
            else (ofItems? kind [.array items]).map .test
        | part => (ofItems? kind [part]).map .test
  | .array (.text kind :: items) => (ofItems? kind items).map .test
  | _ => none
where
  /-- Read the parts of a kind of constraint from the items that hold them in order. -/
  ofItems? (kind : String) (items : List Json) : Option Constraint := do
    let names ← Constraint.partNames kind
    if names.length = items.length then Constraint.ofParts? kind (names.zip items) else none

/-- Read a list of predicates. -/
def listOfJson? : List Json → Option (List Predicate)
  | [] => some []
  | value :: values => do
      let p ← ofJson? value
      let ps ← listOfJson? values
      some (p :: ps)

/-- Read the predicate under a key. -/
def under? (key : String) : List (String × Json) → Option Predicate
  | [] => none
  | (other, value) :: members => if other = key then ofJson? value else under? key members

/-- Read the list of predicates under a key. -/
def listUnder? (key : String) : List (String × Json) → Option (List Predicate)
  | [] => none
  | (other, .array items) :: members =>
      if other = key then listOfJson? items else listUnder? key members
  | (other, _) :: members => if other = key then none else listUnder? key members

end

end Predicate

end CardCatalog
