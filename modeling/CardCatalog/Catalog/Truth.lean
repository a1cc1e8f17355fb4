/-!
# Three-valued truth

A condition on a stored card is true, false, or unknown where a value it needs is undefined. A
search keeps the cards for which the condition is true.
-/

namespace CardCatalog

/-- The truth of a condition. -/
inductive Truth where
  | yes
  | no
  | unknown
deriving DecidableEq

namespace Truth

/-- The truth of a decided condition. -/
def ofBool (b : Bool) : Truth :=
  if b then .yes else .no

/-- The condition is true. -/
def holds : Truth → Bool
  | .yes => true
  | _ => false

/-- The truth of a negation: that of an unknown condition is unknown. -/
def not : Truth → Truth
  | .yes => .no
  | .no => .yes
  | .unknown => .unknown

/-- The truth of a conjunction: false when either part is false. -/
def and : Truth → Truth → Truth
  | .no, _ => .no
  | _, .no => .no
  | .yes, .yes => .yes
  | _, _ => .unknown

/-- The truth of a disjunction: true when either part is true. -/
def or : Truth → Truth → Truth
  | .yes, _ => .yes
  | _, .yes => .yes
  | .no, .no => .no
  | _, _ => .unknown

end Truth

end CardCatalog
