import CardCatalog.Proofs.Catalog.Evaluate
import CardCatalog.Proofs.Query.Negation
import CardCatalog.Proofs.Query.Nodes

/-!
# Merging predicates

Composing predicates keeps their meaning: for every row a conjunction, a disjunction and a negation have the
truth that three-valued logic gives them, whatever the parts are. It is also associative where the parts are
flat, that is, where no conjunction stands directly under a conjunction and no disjunction directly under a
disjunction: composing some of the parts beforehand makes no difference to the tree (`composition_laws`). A
part that is not flat is merged one level at a time, so it can tell how often it was composed.
-/

namespace CardCatalog

/-! ## Truth -/

namespace Truth

/-- The conjunction of several conditions: false if one of them is, and otherwise unknown if one is. -/
def conjunction (truths : List Truth) : Truth :=
  if .no ∈ truths then .no
  else if .unknown ∈ truths then .unknown
  else .yes

/-- The disjunction of several conditions: true if one of them is, and otherwise unknown if one is. -/
def disjunction (truths : List Truth) : Truth :=
  if .yes ∈ truths then .yes
  else if .unknown ∈ truths then .unknown
  else .no

/-- One condition more is a conjunction with it. -/
theorem conjunction_cons (s : Truth) (truths : List Truth) :
    conjunction (s :: truths) = s.and (conjunction truths) := by
  by_cases hno : Truth.no ∈ truths
  · cases s <;> simp [conjunction, hno, Truth.and]
  · by_cases hunknown : Truth.unknown ∈ truths
    · cases s <;> simp [conjunction, hno, hunknown, Truth.and]
    · cases s <;> simp [conjunction, hno, hunknown, Truth.and]

/-- One condition more is a disjunction with it. -/
theorem disjunction_cons (s : Truth) (truths : List Truth) :
    disjunction (s :: truths) = s.or (disjunction truths) := by
  by_cases hyes : Truth.yes ∈ truths
  · cases s <;> simp [disjunction, hyes, Truth.or]
  · by_cases hunknown : Truth.unknown ∈ truths
    · cases s <;> simp [disjunction, hyes, hunknown, Truth.or]
    · cases s <;> simp [disjunction, hyes, hunknown, Truth.or]

end Truth

namespace Predicate

/-- The parts of a conjunction have the conjunction of their truths. -/
theorem eval_all_eq_conjunction (row : Row) (parts : List Predicate) :
    evalAll row parts = Truth.conjunction (parts.map (eval row)) := by
  induction parts with
  | nil => rfl
  | cons p parts ih => rw [evalAll, ih, List.map_cons, Truth.conjunction_cons]

/-- The parts of a disjunction have the disjunction of their truths. -/
theorem eval_any_eq_disjunction (row : Row) (parts : List Predicate) :
    evalAny row parts = Truth.disjunction (parts.map (eval row)) := by
  induction parts with
  | nil => rfl
  | cons p parts ih => rw [evalAny, ih, List.map_cons, Truth.disjunction_cons]

/-! ## Trees -/

/-- None of the parts under the node could be merged into it. -/
def IsMerged : Predicate → Prop
  | .test _ => True
  | .all parts => ∀ p ∈ parts, p.isAll = false
  | .any parts => ∀ p ∈ parts, p.isAny = false
  | .not _ => True

instance : DecidablePred IsMerged
  | .test _ | .not _ => .isTrue trivial
  | .all parts => inferInstanceAs (Decidable (∀ p ∈ parts, p.isAll = false))
  | .any parts => inferInstanceAs (Decidable (∀ p ∈ parts, p.isAny = false))

/-- No conjunction in the predicate stands directly under a conjunction, and no disjunction directly under
a disjunction. -/
def IsFlat (p : Predicate) : Prop :=
  p.Everywhere IsMerged

instance (p : Predicate) : Decidable p.IsFlat :=
  inferInstanceAs (Decidable (p.Everywhere IsMerged))

namespace IsFlat

variable {p : Predicate} {parts : List Predicate}

/-- Flat parts without a conjunction make up a flat conjunction. -/
protected theorem all (h : ∀ p ∈ parts, p.IsFlat ∧ p.isAll = false) : (all parts).IsFlat :=
  (everywhere_iff _).2 ⟨fun p hp => (h p hp).2, fun p hp => (h p hp).1⟩

/-- Flat parts without a disjunction make up a flat disjunction. -/
protected theorem any (h : ∀ p ∈ parts, p.IsFlat ∧ p.isAny = false) : (any parts).IsFlat :=
  (everywhere_iff _).2 ⟨fun p hp => (h p hp).2, fun p hp => (h p hp).1⟩

/-- The parts that a flat predicate adds to a conjunction are flat, and no conjunctions. -/
theorem of_mem_conjuncts (h : p.IsFlat) : ∀ q ∈ p.conjuncts, q.IsFlat ∧ q.isAll = false := by
  intro q hq
  cases p with
  | all parts =>
      obtain ⟨hmerged, hparts⟩ := (everywhere_iff _).1 h
      exact ⟨hparts q hq, hmerged q hq⟩
  | test _ | any _ | not _ =>
      obtain rfl := List.mem_singleton.1 hq
      exact ⟨h, rfl⟩

/-- The parts that a flat predicate adds to a disjunction are flat, and no disjunctions. -/
theorem of_mem_disjuncts (h : p.IsFlat) : ∀ q ∈ p.disjuncts, q.IsFlat ∧ q.isAny = false := by
  intro q hq
  cases p with
  | any parts =>
      obtain ⟨hmerged, hparts⟩ := (everywhere_iff _).1 h
      exact ⟨hparts q hq, hmerged q hq⟩
  | test _ | all _ | not _ =>
      obtain rfl := List.mem_singleton.1 hq
      exact ⟨h, rfl⟩

/-- Flat parts have a flat conjunction. -/
protected theorem all_of (h : ∀ p ∈ parts, p.IsFlat) : (allOf parts).IsFlat := by
  have hmerged := of_mem_flat_map of_mem_conjuncts h
  rw [allOf]
  rcases conjoin_cases (parts.flatMap conjuncts) with hmem | heq
  · exact (hmerged _ hmem).1
  · exact heq ▸ .all hmerged

/-- Flat parts have a flat disjunction. -/
protected theorem any_of (h : ∀ p ∈ parts, p.IsFlat) : (anyOf parts).IsFlat := by
  have hmerged := of_mem_flat_map of_mem_disjuncts h
  rw [anyOf]
  rcases disjoin_cases (parts.flatMap disjuncts) with hmem | heq
  · exact (hmerged _ hmem).1
  · exact heq ▸ .any hmerged

end IsFlat

/-- A disjunction of merged parts has just these parts. -/
theorem disjuncts_disjoin {parts : List Predicate} (h : ∀ p ∈ parts, p.isAny = false) :
    (disjoin parts).disjuncts = parts := by
  match parts with
  | [] => rfl
  | [p] => exact disjuncts_of_not_any (h p (List.mem_singleton_self p))
  | p :: q :: parts => rfl

/-- The conjunction of flat parts can be composed before that of the parts around them. -/
theorem all_of_nested (xs : List Predicate) {ys : List Predicate} (zs : List Predicate)
    (h : ∀ p ∈ ys, p.IsFlat) : allOf (xs ++ [allOf ys] ++ zs) = allOf (xs ++ ys ++ zs) := by
  have hnested : (allOf ys).conjuncts = ys.flatMap conjuncts :=
    conjuncts_conjoin fun q hq => (of_mem_flat_map IsFlat.of_mem_conjuncts h q hq).2
  rw [allOf, List.flatMap_append, List.flatMap_append, List.flatMap_singleton, hnested,
    ← List.flatMap_append, ← List.flatMap_append, allOf]

/-- The disjunction of flat parts can be composed before that of the parts around them. -/
theorem any_of_nested (xs : List Predicate) {ys : List Predicate} (zs : List Predicate)
    (h : ∀ p ∈ ys, p.IsFlat) : anyOf (xs ++ [anyOf ys] ++ zs) = anyOf (xs ++ ys ++ zs) := by
  have hnested : (anyOf ys).disjuncts = ys.flatMap disjuncts :=
    disjuncts_disjoin fun q hq => (of_mem_flat_map IsFlat.of_mem_disjuncts h q hq).2
  rw [anyOf, List.flatMap_append, List.flatMap_append, List.flatMap_singleton, hnested,
    ← List.flatMap_append, ← List.flatMap_append, anyOf]

/-- Composed predicates have the truth of the composition, whatever the parts are; and composing flat parts
is associative, and gives flat predicates. -/
theorem composition_laws :
    (∀ (row : Row) (parts : List Predicate),
      (allOf parts).eval row = Truth.conjunction (parts.map (eval row)) ∧
        (anyOf parts).eval row = Truth.disjunction (parts.map (eval row))) ∧
    (∀ (row : Row) (p : Predicate), p.negate.eval row = (p.eval row).not) ∧
    (∀ xs ys zs : List Predicate, (∀ p ∈ xs ++ ys ++ zs, p.IsFlat) →
      allOf (xs ++ [allOf ys] ++ zs) = allOf (xs ++ ys ++ zs) ∧
        anyOf (xs ++ [anyOf ys] ++ zs) = anyOf (xs ++ ys ++ zs) ∧
        (allOf (xs ++ ys ++ zs)).IsFlat ∧ (anyOf (xs ++ ys ++ zs)).IsFlat) := by
  refine ⟨fun row parts => ⟨?_, ?_⟩, fun row p => eval_negate row p, fun xs ys zs h => ?_⟩
  · rw [eval_all_of, eval_all_eq_conjunction]
  · rw [eval_any_of, eval_any_eq_disjunction]
  · have hys : ∀ p ∈ ys, p.IsFlat := fun p hp =>
      h p (List.mem_append_left _ (List.mem_append_right _ hp))
    exact ⟨all_of_nested xs zs hys, any_of_nested xs zs hys, .all_of h, .any_of h⟩

/-- The remainder of a division by zero, which is undefined for every row. -/
def dividedByZero : Predicate :=
  .test (.modulo .power 0 0)

/-- The condition that a card is green. -/
def green : Predicate :=
  .test (.colorsInclude .colors [.green])

/-- The condition that a card costs less than three mana. -/
def cheap : Predicate :=
  .test (.compare .manaValue .lt 3)

/-- A conjunction and the negation of one among the parts are composed either way to the same tree, which is
undefined for elves that satisfy everything but the division by zero. -/
theorem composition_laws_divided_by_zero :
    (∀ p ∈ [any [dividedByZero, green]] ++ [all [green, cheap], not (all [dividedByZero, green])] ++
        [cheap], p.IsFlat) ∧
      allOf ([any [dividedByZero, green]] ++
          [allOf [all [green, cheap], not (all [dividedByZero, green])]] ++ [cheap]) =
        all [any [dividedByZero, green], green, cheap, not (all [dividedByZero, green]), cheap] ∧
      (allOf [any [dividedByZero, green], not (all [dividedByZero, green])]).eval llanowarElves =
        .unknown := by
  have hflat : ∀ p ∈ [any [dividedByZero, green]] ++
      [all [green, cheap], not (all [dividedByZero, green])] ++ [cheap], p.IsFlat := by decide
  obtain ⟨htruth, _, hnested⟩ := composition_laws
  exact ⟨hflat, (hnested _ _ _ hflat).1, (htruth llanowarElves _).1.trans (by decide)⟩

/-- A conjunction under a conjunction is merged once more where the part is composed on its own first. -/
example :
    allOf [all [all [test (.noColors .colors)]]] ≠
      allOf [allOf [all [all [test (.noColors .colors)]]]] := by
  decide

end Predicate

end CardCatalog
