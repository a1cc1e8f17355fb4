import CardCatalog.Proofs.Query.NormalForm

/-!
# The nodes of a predicate

A predicate has a node for itself and the nodes of the predicates that stand directly under it. What is
said of every node is said of the predicate and of what stands under it (`everywhere_iff`), so a property of
whole predicates can be proved from there up (`of_children`). Normal form is such a property: each node is
needed where it stands (`is_normal_iff`). The predicate of a query is therefore the empty conjunction, or
has nothing but needed nodes (`compile_everywhere_needed`).
-/

namespace CardCatalog

namespace Predicate

/-- The predicates that stand directly under a predicate. -/
def children : Predicate → List Predicate
  | .test _ => []
  | .all parts => parts
  | .any parts => parts
  | .not inner => [inner]

mutual

/-- The nodes of a predicate: itself, and those of the predicates under it. -/
def nodes : Predicate → List Predicate
  | .test constraint => [.test constraint]
  | .all parts => .all parts :: nodesOf parts
  | .any parts => .any parts :: nodesOf parts
  | .not inner => .not inner :: inner.nodes

/-- The nodes of several predicates. -/
def nodesOf : List Predicate → List Predicate
  | [] => []
  | p :: ps => p.nodes ++ nodesOf ps

end

/-- Every node of the predicate has the property. -/
def Everywhere (P : Predicate → Prop) (p : Predicate) : Prop :=
  ∀ node ∈ p.nodes, P node

instance (P : Predicate → Prop) [DecidablePred P] (p : Predicate) : Decidable (p.Everywhere P) :=
  inferInstanceAs (Decidable (∀ node ∈ p.nodes, P node))

/-- The nodes of several predicates are those of each in turn. -/
theorem mem_nodes_of {node : Predicate} {ps : List Predicate} :
    node ∈ nodesOf ps ↔ ∃ p ∈ ps, node ∈ p.nodes := by
  induction ps with
  | nil => simp [nodesOf]
  | cons p ps ih => simp [nodesOf, ih]

/-- The nodes of a predicate are the predicate and the nodes under it. -/
theorem nodes_eq (p : Predicate) : p.nodes = p :: nodesOf p.children := by
  cases p with
  | not inner => rw [nodes, children, nodesOf, nodesOf, List.append_nil]
  | test _ | all _ | any _ => rfl

/-- Every node has a property if the predicate has it, and every node of what stands under it. -/
theorem everywhere_iff {P : Predicate → Prop} (p : Predicate) :
    p.Everywhere P ↔ P p ∧ ∀ q ∈ p.children, q.Everywhere P := by
  rw [Everywhere, nodes_eq, List.forall_mem_cons]
  refine and_congr_right fun _ => ?_
  constructor
  · intro h q hq node hnode
    exact h node (mem_nodes_of.2 ⟨q, hq, hnode⟩)
  · intro h node hnode
    obtain ⟨q, hq, hnode⟩ := mem_nodes_of.1 hnode
    exact h q hq node hnode

/-- What stands under a predicate is smaller. -/
theorem size_of_lt_of_mem_children {p q : Predicate} (h : q ∈ p.children) : sizeOf q < sizeOf p := by
  cases p with
  | test constraint => exact absurd h List.not_mem_nil
  | all parts | any parts =>
      have hsize : sizeOf q < sizeOf parts := List.sizeOf_lt_of_mem h
      simp only [all.sizeOf_spec, any.sizeOf_spec]
      omega
  | not inner =>
      obtain rfl : q = inner := List.mem_singleton.1 h
      simp only [not.sizeOf_spec]
      omega

/-- What holds of a predicate if it holds of everything directly under it holds of every predicate. -/
@[elab_as_elim]
theorem of_children {motive : Predicate → Prop}
    (step : ∀ p, (∀ q ∈ p.children, motive q) → motive p) (p : Predicate) : motive p :=
  step p fun q _ => of_children step q
termination_by sizeOf p
decreasing_by exact size_of_lt_of_mem_children ‹_›

/-- The node is needed where it stands: a conjunction or a disjunction joins two parts at least and could
not be merged with any of them, and a negation does not cancel the one under it. -/
def IsNeeded : Predicate → Prop
  | .test _ => True
  | .all parts => 2 ≤ parts.length ∧ ∀ p ∈ parts, p.isAll = false
  | .any parts => 2 ≤ parts.length ∧ ∀ p ∈ parts, p.isAny = false
  | .not inner => inner.isNot = false

/-- A predicate is in normal form exactly if all of its nodes are needed. -/
theorem is_normal_iff (p : Predicate) : p.IsNormal ↔ p.Everywhere IsNeeded := by
  induction p using of_children with
  | step p ih =>
  rw [everywhere_iff, ← forall₂_congr ih]
  constructor
  · intro h
    cases h with
    | test constraint => exact ⟨trivial, fun q hq => absurd hq List.not_mem_nil⟩
    | all hlength hparts hmerged => exact ⟨⟨hlength, hmerged⟩, hparts⟩
    | any hlength hparts hmerged => exact ⟨⟨hlength, hmerged⟩, hparts⟩
    | not hinner hsingle => exact ⟨hsingle, fun q hq => List.mem_singleton.1 hq ▸ hinner⟩
  · rintro ⟨hneeded, hchildren⟩
    cases p with
    | test constraint => exact .test constraint
    | all parts => exact .all hneeded.1 hchildren hneeded.2
    | any parts => exact .any hneeded.1 hchildren hneeded.2
    | not inner => exact .not (hchildren inner (List.mem_singleton_self inner)) hneeded

end Predicate

/-- The predicate of a query is the empty conjunction, which matches every card, or has only nodes that are
needed where they stand; then no conjunction or disjunction without parts is among them. -/
theorem compile_everywhere_needed (query : String) :
    compile query = .matchAll ∨
      (compile query).Everywhere Predicate.IsNeeded ∧ .all [] ∉ (compile query).nodes ∧
        .any [] ∉ (compile query).nodes := by
  refine (Predicate.is_compositional_is_normal.compile_query query).imp_right fun hnormal => ?_
  have hneeded := (Predicate.is_normal_iff _).1 hnormal
  exact ⟨hneeded, fun h => absurd (hneeded _ h).1 (by decide),
    fun h => absurd (hneeded _ h).1 (by decide)⟩

end CardCatalog
