import CardCatalog.Catalog.Evaluate

/-!
# The truth of composed predicates

The operations that build predicates leave out superfluous nodes, and leave the truth as it is: for
every row, `Predicate.allOf` has the truth of the conjunction of its parts, `Predicate.anyOf` that of
their disjunction, and `Predicate.negate` that of the negation. A composed predicate is unknown only
where a part of it is.
-/

namespace CardCatalog

namespace Truth

/-- Truth is a left identity of conjunction. -/
theorem yes_and (s : Truth) : Truth.yes.and s = s := by
  cases s <;> rfl

/-- Truth is a right identity of conjunction. -/
theorem and_yes (s : Truth) : s.and .yes = s := by
  cases s <;> rfl

/-- Conjunction is associative. -/
theorem and_assoc (s t u : Truth) : (s.and t).and u = s.and (t.and u) := by
  cases s <;> cases t <;> cases u <;> rfl

/-- Falsehood is a left identity of disjunction. -/
theorem no_or (s : Truth) : Truth.no.or s = s := by
  cases s <;> rfl

/-- Falsehood is a right identity of disjunction. -/
theorem or_no (s : Truth) : s.or .no = s := by
  cases s <;> rfl

/-- Disjunction is associative. -/
theorem or_assoc (s t u : Truth) : (s.or t).or u = s.or (t.or u) := by
  cases s <;> cases t <;> cases u <;> rfl

/-- A double negation cancels. -/
theorem not_not (s : Truth) : s.not.not = s := by
  cases s <;> rfl

/-- A Boolean is decided. -/
theorem of_bool_ne_unknown (b : Bool) : ofBool b ≠ .unknown := by
  cases b <;> decide

/-- The negation of a decided condition is decided. -/
theorem not_ne_unknown {s : Truth} (h : s ≠ .unknown) : s.not ≠ .unknown := by
  cases s <;> simp_all [Truth.not]

/-- The conjunction of decided conditions is decided. -/
theorem and_ne_unknown {s t : Truth} (hs : s ≠ .unknown) (ht : t ≠ .unknown) :
    s.and t ≠ .unknown := by
  cases s <;> cases t <;> simp_all [Truth.and]

/-- The disjunction of decided conditions is decided. -/
theorem or_ne_unknown {s t : Truth} (hs : s ≠ .unknown) (ht : t ≠ .unknown) :
    s.or t ≠ .unknown := by
  cases s <;> cases t <;> simp_all [Truth.or]

/-- Of a decided condition and its negation, exactly one holds. -/
theorem holds_not {s : Truth} (h : s ≠ .unknown) : s.not.holds = !s.holds := by
  cases s with
  | yes | no => rfl
  | unknown => exact absurd rfl h

/-- A decided condition holds as its Boolean says. -/
theorem holds_of_bool (b : Bool) : (ofBool b).holds = b := by
  cases b <;> rfl

/-- A conjunction holds if both parts do. -/
theorem holds_and (s t : Truth) : (s.and t).holds = (s.holds && t.holds) := by
  cases s <;> cases t <;> rfl

/-- A disjunction holds if either part does. -/
theorem holds_or (s t : Truth) : (s.or t).holds = (s.holds || t.holds) := by
  cases s <;> cases t <;> rfl

end Truth

namespace Predicate

variable (row : Row)

/-- The parts of two conjunctions in a row have the truth of their conjunction. -/
theorem eval_all_append (ps qs : List Predicate) :
    evalAll row (ps ++ qs) = (evalAll row ps).and (evalAll row qs) := by
  induction ps with
  | nil => rw [List.nil_append, evalAll, Truth.yes_and]
  | cons p ps ih => rw [List.cons_append, evalAll, evalAll, ih, Truth.and_assoc]

/-- The parts of two disjunctions in a row have the truth of their disjunction. -/
theorem eval_any_append (ps qs : List Predicate) :
    evalAny row (ps ++ qs) = (evalAny row ps).or (evalAny row qs) := by
  induction ps with
  | nil => rw [List.nil_append, evalAny, Truth.no_or]
  | cons p ps ih => rw [List.cons_append, evalAny, evalAny, ih, Truth.or_assoc]

/-- The parts that a predicate adds to a conjunction have its truth. -/
theorem eval_all_conjuncts (p : Predicate) : evalAll row p.conjuncts = p.eval row := by
  cases p with
  | all parts => rw [conjuncts, eval]
  | test _ | any _ | not _ => exact Truth.and_yes _

/-- The parts that a predicate adds to a disjunction have its truth. -/
theorem eval_any_disjuncts (p : Predicate) : evalAny row p.disjuncts = p.eval row := by
  cases p with
  | any parts => rw [disjuncts, eval]
  | test _ | all _ | not _ => exact Truth.or_no _

/-- A conjunction without a superfluous node has the truth of its parts. -/
theorem eval_conjoin (parts : List Predicate) : (conjoin parts).eval row = evalAll row parts := by
  match parts with
  | [] => rfl
  | [p] => exact (Truth.and_yes _).symm
  | p :: q :: ps => rfl

/-- A disjunction without a superfluous node has the truth of its parts. -/
theorem eval_disjoin (parts : List Predicate) : (disjoin parts).eval row = evalAny row parts := by
  match parts with
  | [] => rfl
  | [p] => exact (Truth.or_no _).symm
  | p :: q :: ps => rfl

/-- A conjunction with conjunctions among its parts merged has the truth of its parts. -/
theorem eval_all_of (parts : List Predicate) : (allOf parts).eval row = evalAll row parts := by
  rw [allOf, eval_conjoin]
  induction parts with
  | nil => rfl
  | cons p ps ih => rw [List.flatMap_cons, eval_all_append, eval_all_conjuncts, ih, evalAll]

/-- A disjunction with disjunctions among its parts merged has the truth of its parts. -/
theorem eval_any_of (parts : List Predicate) : (anyOf parts).eval row = evalAny row parts := by
  rw [anyOf, eval_disjoin]
  induction parts with
  | nil => rfl
  | cons p ps ih => rw [List.flatMap_cons, eval_any_append, eval_any_disjuncts, ih, evalAny]

/-- A negation that cancels another has the truth of the negation. -/
theorem eval_negate (p : Predicate) : p.negate.eval row = (p.eval row).not := by
  cases p with
  | not inner => rw [negate, eval, Truth.not_not]
  | test _ | all _ | any _ => rfl

/-- The negation of a predicate that is decided for a row selects it if the predicate does not. -/
theorem selects_negate {p : Predicate} (h : p.eval row ≠ .unknown) :
    p.negate.selects row = !p.selects row := by
  rw [selects, eval_negate, Truth.holds_not h, selects]

/-- A conjunction selects the rows that all of its parts select. -/
theorem selects_all_of (parts : List Predicate) :
    (allOf parts).selects row = parts.all fun p => p.selects row := by
  rw [selects, eval_all_of]
  induction parts with
  | nil => rfl
  | cons p ps ih => rw [evalAll, Truth.holds_and, ih, List.all_cons, selects]

/-- A disjunction selects the rows that one of its parts selects. -/
theorem selects_any_of (parts : List Predicate) :
    (anyOf parts).selects row = parts.any fun p => p.selects row := by
  rw [selects, eval_any_of]
  induction parts with
  | nil => rfl
  | cons p ps ih => rw [evalAny, Truth.holds_or, ih, List.any_cons, selects]

mutual

/-- A predicate is decided for a row if its constraints are. -/
theorem eval_ne_unknown (p : Predicate)
    (h : ∀ constraint ∈ p.constraints, constraint.eval row ≠ .unknown) :
    p.eval row ≠ .unknown := by
  match p with
  | .test constraint =>
      rw [eval]
      exact h constraint (List.mem_singleton_self constraint)
  | .all parts =>
      rw [eval]
      exact eval_all_ne_unknown parts h
  | .any parts =>
      rw [eval]
      exact eval_any_ne_unknown parts h
  | .not inner =>
      rw [eval]
      exact Truth.not_ne_unknown (eval_ne_unknown inner h)

/-- A conjunction is decided for a row if the constraints of its parts are. -/
theorem eval_all_ne_unknown (ps : List Predicate)
    (h : ∀ constraint ∈ constraintsOf ps, constraint.eval row ≠ .unknown) :
    evalAll row ps ≠ .unknown := by
  match ps with
  | [] => simp [evalAll]
  | p :: ps =>
      rw [evalAll]
      exact Truth.and_ne_unknown
        (eval_ne_unknown p fun c hc => h c (List.mem_append_left _ hc))
        (eval_all_ne_unknown ps fun c hc => h c (List.mem_append_right _ hc))

/-- A disjunction is decided for a row if the constraints of its parts are. -/
theorem eval_any_ne_unknown (ps : List Predicate)
    (h : ∀ constraint ∈ constraintsOf ps, constraint.eval row ≠ .unknown) :
    evalAny row ps ≠ .unknown := by
  match ps with
  | [] => simp [evalAny]
  | p :: ps =>
      rw [evalAny]
      exact Truth.or_ne_unknown
        (eval_ne_unknown p fun c hc => h c (List.mem_append_left _ hc))
        (eval_any_ne_unknown ps fun c hc => h c (List.mem_append_right _ hc))

end

end Predicate

end CardCatalog
