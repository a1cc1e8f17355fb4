import CardCatalog.Query.Color
import CardCatalog.Query.Comparison
import CardCatalog.Query.Field

/-!
# Predicates

A predicate is a tree: constraints on single fields at its leaves, conjunction, disjunction and
negation above them. The empty conjunction holds of every card and the empty disjunction of none.
`Predicate.allOf`, `Predicate.anyOf` and `Predicate.negate` build trees without superfluous nodes:
they merge a conjunction into the conjunction around it, a disjunction into the disjunction around
it, drop the node around a single part, and cancel a double negation.
-/

namespace CardCatalog

/-- What a leaf of a predicate asks of one field. -/
inductive Constraint where
  /-- The text of the field matches the pattern somewhere, ignoring case. -/
  | matchesPattern (field : Field) (pattern : String)
  /-- The text of the field is the value. -/
  | equals (field : Field) (value : String)
  /-- The text of the field is one of the values. -/
  | oneOf (field : Field) (values : List String)
  /-- The color list of the field holds every listed color. -/
  | colorsInclude (field : Field) (colors : List Color)
  /-- The color list of the field holds listed colors only. -/
  | colorsWithin (field : Field) (colors : List Color)
  /-- The color list of the field holds every listed color and is as long as the list. -/
  | colorsExactly (field : Field) (colors : List Color)
  /-- The field is absent or empty. -/
  | noColors (field : Field)
  /-- The field, read as an integer, stands in the relation to the bound. -/
  | compare (field : Field) (comparison : Comparison) (bound : Int64)
  /-- The field, read as an integer, leaves the remainder when divided. -/
  | modulo (field : Field) (divisor remainder : Int64)
deriving DecidableEq

/-- A condition on a card. -/
inductive Predicate where
  | test (constraint : Constraint)
  | all (parts : List Predicate)
  | any (parts : List Predicate)
  | not (inner : Predicate)

namespace Predicate

mutual

/-- Two predicates are the same tree. -/
def same : Predicate → Predicate → Bool
  | .test c, .test d => c = d
  | .all ps, .all qs => sameList ps qs
  | .any ps, .any qs => sameList ps qs
  | .not p, .not q => p.same q
  | _, _ => false

/-- Two lists of predicates are the same, tree by tree. -/
def sameList : List Predicate → List Predicate → Bool
  | [], [] => true
  | p :: ps, q :: qs => p.same q && sameList ps qs
  | _, _ => false

end

mutual

/-- `same` decides equality. -/
theorem same_iff : ∀ p q : Predicate, p.same q = true ↔ p = q
  | .test c, q => by cases q <;> simp [same]
  | .all ps, q => by cases q <;> simp [same, same_list_iff]
  | .any ps, q => by cases q <;> simp [same, same_list_iff]
  | .not p, q => by cases q <;> simp [same, same_iff p]

/-- `sameList` decides equality. -/
theorem same_list_iff : ∀ ps qs : List Predicate, sameList ps qs = true ↔ ps = qs
  | [], qs => by cases qs <;> simp [sameList]
  | p :: ps, qs => by cases qs <;> simp [sameList, same_iff p, same_list_iff ps]

end

instance : DecidableEq Predicate := fun p q =>
  decidable_of_iff (p.same q = true) (same_iff p q)

/-- The predicate that holds of every card: the empty conjunction. -/
def matchAll : Predicate :=
  .all []

/-- The predicate is the empty conjunction. -/
def isMatchAll : Predicate → Bool
  | .all [] => true
  | _ => false

/-- The parts that a predicate adds to a conjunction: those of a conjunction, or itself. -/
def conjuncts : Predicate → List Predicate
  | .all parts => parts
  | p => [p]

/-- The parts that a predicate adds to a disjunction: those of a disjunction, or itself. -/
def disjuncts : Predicate → List Predicate
  | .any parts => parts
  | p => [p]

/-- The conjunction of parts that need no merging; a single part stands for itself. -/
def conjoin : List Predicate → Predicate
  | [p] => p
  | parts => .all parts

/-- The disjunction of parts that need no merging; a single part stands for itself. -/
def disjoin : List Predicate → Predicate
  | [p] => p
  | parts => .any parts

/-- The conjunction of the parts, conjunctions among them merged. -/
def allOf (parts : List Predicate) : Predicate :=
  conjoin (parts.flatMap conjuncts)

/-- The disjunction of the parts, disjunctions among them merged. -/
def anyOf (parts : List Predicate) : Predicate :=
  disjoin (parts.flatMap disjuncts)

/-- The negation of a predicate; that of a negation is what it negates. -/
def negate : Predicate → Predicate
  | .not inner => inner
  | p => .not p

end Predicate

end CardCatalog
