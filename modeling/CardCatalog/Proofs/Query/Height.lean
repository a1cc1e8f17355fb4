import CardCatalog.Proofs.Query.Nesting
import CardCatalog.Proofs.Query.Nodes
import CardCatalog.Query.Condition
import CardCatalog.Query.Describe

/-!
# The height of compiled predicates

Each level of a query adds a negation, a disjunction and a conjunction at most, and there are no more levels
than the depth limit allows, so the height of a compiled predicate is bounded whatever the query
(`IsGraded.height`). A predicate is written by a recursion that goes as deep as the predicate is high
(`write_eq`), and with the bound as its limit it writes the condition and the readable form of every query
(`height_compile_le`).
-/

namespace CardCatalog

namespace Predicate

/-! ## Heights -/

mutual

/-- The height of a predicate: one more than that of the highest predicate under it. -/
def height : Predicate → Nat
  | .test _ => 1
  | .all parts => greatestHeight parts + 1
  | .any parts => greatestHeight parts + 1
  | .not inner => inner.height + 1

/-- The height of the highest of several predicates. -/
def greatestHeight : List Predicate → Nat
  | [] => 0
  | p :: ps => max p.height (greatestHeight ps)

end

/-- None of several predicates is higher than a bound if the highest of them is not. -/
theorem greatest_height_le_iff {n : Nat} {ps : List Predicate} :
    greatestHeight ps ≤ n ↔ ∀ p ∈ ps, p.height ≤ n := by
  induction ps with
  | nil => simp [greatestHeight]
  | cons p ps ih => rw [greatestHeight, Nat.max_le, ih, List.forall_mem_cons]

/-- A predicate is one higher than what stands under it. -/
theorem height_eq (p : Predicate) : p.height = greatestHeight p.children + 1 := by
  cases p with
  | not inner => rw [height, children, greatestHeight, greatestHeight, Nat.max_zero]
  | test _ | all _ | any _ => rfl

/-- A predicate is no higher than a bound if what stands under it is lower. -/
theorem height_le_succ_iff {n : Nat} {p : Predicate} :
    p.height ≤ n + 1 ↔ ∀ q ∈ p.children, q.height ≤ n := by
  rw [height_eq, Nat.succ_le_succ_iff, greatest_height_le_iff]

/-- The parts that a predicate adds to a conjunction are no higher than the predicate. -/
theorem height_le_of_mem_conjuncts {p q : Predicate} (h : q ∈ p.conjuncts) : q.height ≤ p.height := by
  cases p with
  | all parts => exact Nat.le_succ_of_le (greatest_height_le_iff.1 le_rfl q h)
  | test _ | any _ | not _ => exact (congrArg height (List.mem_singleton.1 h)).le

/-- The parts that a predicate adds to a disjunction are no higher than the predicate. -/
theorem height_le_of_mem_disjuncts {p q : Predicate} (h : q ∈ p.disjuncts) : q.height ≤ p.height := by
  cases p with
  | any parts => exact Nat.le_succ_of_le (greatest_height_le_iff.1 le_rfl q h)
  | test _ | all _ | not _ => exact (congrArg height (List.mem_singleton.1 h)).le

variable {n : Nat} {parts : List Predicate}

/-- A conjunction is at most one higher than its parts. -/
theorem height_all_of_le (h : ∀ p ∈ parts, p.height ≤ n) : (allOf parts).height ≤ n + 1 := by
  have hmerged : ∀ q ∈ parts.flatMap conjuncts, q.height ≤ n := by
    intro q hq
    obtain ⟨p, hp, hq⟩ := List.mem_flatMap.1 hq
    exact (height_le_of_mem_conjuncts hq).trans (h p hp)
  rw [allOf]
  rcases conjoin_cases (parts.flatMap conjuncts) with hmem | heq
  · exact Nat.le_succ_of_le (hmerged _ hmem)
  · exact heq ▸ height_le_succ_iff.2 hmerged

/-- A disjunction is at most one higher than its parts. -/
theorem height_any_of_le (h : ∀ p ∈ parts, p.height ≤ n) : (anyOf parts).height ≤ n + 1 := by
  have hmerged : ∀ q ∈ parts.flatMap disjuncts, q.height ≤ n := by
    intro q hq
    obtain ⟨p, hp, hq⟩ := List.mem_flatMap.1 hq
    exact (height_le_of_mem_disjuncts hq).trans (h p hp)
  rw [anyOf]
  rcases disjoin_cases (parts.flatMap disjuncts) with hmem | heq
  · exact Nat.le_succ_of_le (hmerged _ hmem)
  · exact heq ▸ height_le_succ_iff.2 hmerged

/-- A negation is at most one higher than what it negates. -/
theorem height_negate_le (p : Predicate) : p.negate.height ≤ p.height + 1 := by
  cases p with
  | not inner => exact Nat.le_succ_of_le (Nat.le_succ_of_le le_rfl)
  | test _ | all _ | any _ => exact le_rfl

end Predicate

/-- The highest predicate of a term is the negated exclusion of extras. -/
theorem height_build_term_le {token : String} {p : Predicate} (h : buildTerm token = some p) :
    p.height ≤ 4 := by
  obtain ⟨key, built, hbuilt, hp⟩ := build_term_eq_some h
  have hheight : built.height ≤ 3 := by
    rcases SearchKey.build_cases hbuilt with hliteral | ⟨c, d, rfl⟩ | ⟨c, d, rfl⟩
    · cases hliteral <;> simp [Predicate.height]
    · simp [Predicate.height, Predicate.greatestHeight]
    · simp [Predicate.height, Predicate.greatestHeight]
  rcases hp with rfl | rfl
  · exact Nat.le_succ_of_le hheight
  · exact built.height_negate_le.trans (Nat.succ_le_succ hheight)

/-- From one level to the next, what the items and the groups of a query mean is three higher at most. -/
theorem IsGraded.height :
    IsGraded (fun _ => True) (fun depth p => p.height + 3 * depth ≤ 3 * QueryTree.maxDepth + 4)
      (fun depth p => p.height + 3 * depth ≤ 3 * QueryTree.maxDepth + 5) where
  term depth hdepth token p _ h := by
    have hheight := height_build_term_le h
    omega
  any_of depth parts hfilled h := by
    obtain ⟨first, hfirst⟩ := List.exists_mem_of_ne_nil parts hfilled
    have hbound := h first hfirst
    have hheight : (Predicate.anyOf parts).height ≤ 3 * QueryTree.maxDepth + 4 - 3 * depth + 1 :=
      Predicate.height_any_of_le fun p hp => Nat.le_sub_of_add_le (h p hp)
    omega
  nested depth parts hfilled h := by
    obtain ⟨first, hfirst⟩ := List.exists_mem_of_ne_nil parts hfilled
    have hbound := h first hfirst
    have hheight :
        (Predicate.allOf parts).height ≤ 3 * QueryTree.maxDepth + 5 - 3 * (depth + 1) + 1 :=
      Predicate.height_all_of_le fun p hp => Nat.le_sub_of_add_le (h p hp)
    have hnegate := (Predicate.allOf parts).height_negate_le
    omega

/-! ## Writing by a limited recursion -/

/-- A way to write predicates: the texts of constraints, and what stands around a predicate that is
negated. -/
structure Style where
  leaf : Constraint → String
  opening : String
  closing : String

namespace Style

/-- Texts with a word in front of each. -/
def joinRest (word : String) : List String → String
  | [] => ""
  | text :: texts => word ++ text ++ joinRest word texts

/-- Texts between parentheses with a word between them, or what stands for no text at all. -/
def join (word absent : String) : List String → String
  | [] => absent
  | text :: texts => "(" ++ text ++ joinRest word texts ++ ")"

/-- The text of a predicate, by a recursion that may go only so deep: `none` where it would go deeper. -/
def write? (style : Style) : Nat → Predicate → Option String
  | 0, _ => none
  | _ + 1, .test constraint => some (style.leaf constraint)
  | depth + 1, .all parts => (parts.mapM (style.write? depth)).map (join " AND " "TRUE")
  | depth + 1, .any parts => (parts.mapM (style.write? depth)).map (join " OR " "FALSE")
  | depth + 1, .not inner =>
      (style.write? depth inner).map fun text => style.opening ++ text ++ style.closing

/-- Predicates are written in the style. -/
structure Writes (style : Style) (write : Predicate → String) : Prop where
  test : ∀ constraint, write (.test constraint) = style.leaf constraint
  all : ∀ parts, write (.all parts) = join " AND " "TRUE" (parts.map write)
  any : ∀ parts, write (.any parts) = join " OR " "FALSE" (parts.map write)
  not : ∀ inner, write (.not inner) = style.opening ++ write inner ++ style.closing

variable {style : Style} {write : Predicate → String}

/-- Several predicates can be written if the highest of them can. -/
theorem map_write_eq {depth : Nat}
    (h : ∀ p, style.write? depth p = if p.height ≤ depth then some (write p) else none)
    (parts : List Predicate) :
    parts.mapM (style.write? depth) =
      if Predicate.greatestHeight parts ≤ depth then some (parts.map write) else none := by
  induction parts with
  | nil => rfl
  | cons p ps ih =>
      simp only [List.mapM_cons, h, ih, Predicate.greatestHeight, Nat.max_le]
      by_cases hfirst : p.height ≤ depth
      · by_cases hrest : Predicate.greatestHeight ps ≤ depth
        · simp [hfirst, hrest]
        · simp [hfirst, hrest]
      · simp [hfirst]

/-- A recursion that writes predicates in the style goes exactly as deep as the predicate is high. -/
theorem Writes.write_eq (h : style.Writes write) (depth : Nat) (p : Predicate) :
    style.write? depth p = if p.height ≤ depth then some (write p) else none := by
  induction depth generalizing p with
  | zero =>
      rw [write?, if_neg]
      rw [p.height_eq]
      exact Nat.not_succ_le_zero _
  | succ depth ih =>
      cases p with
      | test constraint => rw [write?, h.test, Predicate.height, if_pos (Nat.le_add_left 1 depth)]
      | all parts =>
          rw [write?, map_write_eq ih, h.all, Predicate.height]
          by_cases hparts : Predicate.greatestHeight parts ≤ depth
          · simp [hparts]
          · simp [hparts]
      | any parts =>
          rw [write?, map_write_eq ih, h.any, Predicate.height]
          by_cases hparts : Predicate.greatestHeight parts ≤ depth
          · simp [hparts]
          · simp [hparts]
      | not inner =>
          rw [write?, ih, h.not, Predicate.height]
          by_cases hinner : inner.height ≤ depth
          · simp [hinner]
          · simp [hinner]

/-- The style of database conditions. -/
def ofConditions : Style :=
  ⟨Constraint.condition, "NOT (", ")"⟩

/-- The style of readable forms. -/
def ofDescriptions : Style :=
  ⟨Constraint.describe, "NOT ", ""⟩

/-- The conditions of further parts are their conditions with the word in front of each. -/
theorem condition_rest_eq (word : String) (ps : List Predicate) :
    Predicate.conditionRest word ps = joinRest word (ps.map Predicate.condition) := by
  induction ps with
  | nil => rfl
  | cons p ps ih => rw [Predicate.conditionRest, ih, List.map_cons, joinRest]

/-- The readable forms of further parts are their forms with the word in front of each. -/
theorem describe_rest_eq (word : String) (ps : List Predicate) :
    Predicate.describeRest word ps = joinRest word (ps.map Predicate.describe) := by
  induction ps with
  | nil => rfl
  | cons p ps ih => rw [Predicate.describeRest, ih, List.map_cons, joinRest]

/-- Database conditions are written in their style. -/
theorem writes_condition : ofConditions.Writes Predicate.condition where
  test constraint := by rw [Predicate.condition, ofConditions]
  all parts := by cases parts <;> simp [Predicate.condition, join, condition_rest_eq]
  any parts := by cases parts <;> simp [Predicate.condition, join, condition_rest_eq]
  not inner := by rw [Predicate.condition, ofConditions]

/-- Readable forms are written in their style. -/
theorem writes_describe : ofDescriptions.Writes Predicate.describe where
  test constraint := by rw [Predicate.describe, ofDescriptions]
  all parts := by cases parts <;> simp [Predicate.describe, join, describe_rest_eq]
  any parts := by cases parts <;> simp [Predicate.describe, join, describe_rest_eq]
  not inner := by rw [Predicate.describe, ofDescriptions, String.append_empty]

end Style

/-- The predicate of a query is no higher than three nodes for each level that the depth limit allows and six
more, so a recursion that goes no deeper writes its condition and its readable form. -/
theorem height_compile_le (query : String) :
    (compile query).height ≤ 3 * QueryTree.maxDepth + 6 ∧
      Style.ofConditions.write? (3 * QueryTree.maxDepth + 6) (compile query) =
        some (compile query).condition ∧
      Style.ofDescriptions.write? (3 * QueryTree.maxDepth + 6) (compile query) =
        some (compile query).describe := by
  have hheight : (compile query).height ≤ 3 * QueryTree.maxDepth + 6 := by
    have hkinds : ∀ token ∈ tokenize query, True := fun _ _ => trivial
    obtain ⟨parts, hcompile, hparts⟩ := IsGraded.height.compile_query hkinds
    rw [hcompile]
    exact Predicate.height_all_of_le hparts
  refine ⟨hheight, ?_, ?_⟩
  · rw [Style.writes_condition.write_eq, if_pos hheight]
  · rw [Style.writes_describe.write_eq, if_pos hheight]

end CardCatalog
