import CardCatalog.Proofs.Query.Leaves

/-!
# Predicates without superfluous nodes

The operations that compose predicates merge a conjunction into the one around it, drop the node around a
single part, and cancel a double negation. They keep a predicate in normal form, and the predicates of
terms are in normal form, so what a query means is as well (`is_compositional_is_normal`). On predicates
in normal form the operations undo each other: a conjunction is put together again from its parts
(`conjoin_conjuncts`), a single part stands for itself, and a second negation cancels the first
(`negate_negate`).
-/

namespace CardCatalog

namespace Predicate

/-- The predicate is a conjunction. -/
def isAll : Predicate → Bool
  | .all _ => true
  | _ => false

/-- The predicate is a disjunction. -/
def isAny : Predicate → Bool
  | .any _ => true
  | _ => false

/-- The predicate is a negation. -/
def isNot : Predicate → Bool
  | .not _ => true
  | _ => false

/-- A predicate without superfluous nodes: conjunctions and disjunctions have two parts at least, none of
them of the same kind, and no negation stands under another one. -/
inductive IsNormal : Predicate → Prop where
  | test (constraint : Constraint) : IsNormal (.test constraint)
  | all {parts : List Predicate} (hlength : 2 ≤ parts.length) (hparts : ∀ p ∈ parts, IsNormal p)
      (hmerged : ∀ p ∈ parts, p.isAll = false) : IsNormal (.all parts)
  | any {parts : List Predicate} (hlength : 2 ≤ parts.length) (hparts : ∀ p ∈ parts, IsNormal p)
      (hmerged : ∀ p ∈ parts, p.isAny = false) : IsNormal (.any parts)
  | not {inner : Predicate} (hinner : IsNormal inner) (hsingle : inner.isNot = false) :
      IsNormal (.not inner)

/-! ## Taking predicates apart -/

/-- A predicate that is no conjunction is a single part of one. -/
theorem conjuncts_of_not_all {p : Predicate} (h : p.isAll = false) : p.conjuncts = [p] := by
  cases p with
  | all parts => exact absurd h (by simp [isAll])
  | test _ | any _ | not _ => rfl

/-- A predicate that is no disjunction is a single part of one. -/
theorem disjuncts_of_not_any {p : Predicate} (h : p.isAny = false) : p.disjuncts = [p] := by
  cases p with
  | any parts => exact absurd h (by simp [isAny])
  | test _ | all _ | not _ => rfl

/-- A conjunction of merged parts has just these parts. -/
theorem conjuncts_conjoin {parts : List Predicate} (h : ∀ p ∈ parts, p.isAll = false) :
    (conjoin parts).conjuncts = parts := by
  match parts with
  | [] => rfl
  | [p] => exact conjuncts_of_not_all (h p (List.mem_singleton_self p))
  | p :: q :: parts => rfl

/-- A conjunction without a superfluous node is its only part, or a conjunction. -/
theorem conjoin_cases (parts : List Predicate) : conjoin parts ∈ parts ∨ conjoin parts = all parts := by
  rcases parts with _ | ⟨p, _ | ⟨q, parts⟩⟩
  · exact .inr rfl
  · exact .inl (List.mem_singleton_self p)
  · exact .inr rfl

/-- A disjunction without a superfluous node is its only part, or a disjunction. -/
theorem disjoin_cases (parts : List Predicate) : disjoin parts ∈ parts ∨ disjoin parts = any parts := by
  rcases parts with _ | ⟨p, _ | ⟨q, parts⟩⟩
  · exact .inr rfl
  · exact .inl (List.mem_singleton_self p)
  · exact .inr rfl

/-- Merging parts leaves nothing but what each of them adds. -/
theorem of_mem_flat_map {P : Predicate → Prop} {merge : Predicate → List Predicate}
    {kind : Predicate → Bool} (hmerge : ∀ {p : Predicate}, P p → ∀ q ∈ merge p, P q ∧ kind q = false)
    {parts : List Predicate} (h : ∀ p ∈ parts, P p) :
    ∀ q ∈ parts.flatMap merge, P q ∧ kind q = false := by
  intro q hq
  obtain ⟨p, hp, hq⟩ := List.mem_flatMap.1 hq
  exact hmerge (h p hp) q hq

namespace IsNormal

variable {p : Predicate}

/-- The parts that a predicate adds to a conjunction are in normal form, and no conjunctions. -/
theorem of_mem_conjuncts (h : p.IsNormal) : ∀ q ∈ p.conjuncts, q.IsNormal ∧ q.isAll = false := by
  cases hall : p.isAll with
  | false =>
      rw [conjuncts_of_not_all hall, List.forall_mem_singleton]
      exact ⟨h, hall⟩
  | true =>
      cases h with
      | all hlength hparts hmerged => exact fun q hq => ⟨hparts q hq, hmerged q hq⟩
      | test | any | not => exact absurd hall (by simp [isAll])

/-- The parts that a predicate adds to a disjunction are in normal form, and no disjunctions. -/
theorem of_mem_disjuncts (h : p.IsNormal) : ∀ q ∈ p.disjuncts, q.IsNormal ∧ q.isAny = false := by
  cases hany : p.isAny with
  | false =>
      rw [disjuncts_of_not_any hany, List.forall_mem_singleton]
      exact ⟨h, hany⟩
  | true =>
      cases h with
      | any hlength hparts hmerged => exact fun q hq => ⟨hparts q hq, hmerged q hq⟩
      | test | all | not => exact absurd hany (by simp [isAny])

/-- A predicate in normal form is the conjunction of the parts that it adds to one. -/
theorem conjoin_conjuncts (h : p.IsNormal) : conjoin p.conjuncts = p := by
  cases h with
  | @all parts hlength hparts hmerged =>
      match parts with
      | p :: q :: parts => rfl
  | test | any | not => rfl

/-- A predicate in normal form is the disjunction of the parts that it adds to one. -/
theorem disjoin_disjuncts (h : p.IsNormal) : disjoin p.disjuncts = p := by
  cases h with
  | @any parts hlength hparts hmerged =>
      match parts with
      | p :: q :: parts => rfl
  | test | all | not => rfl

/-- A predicate in normal form adds something to a conjunction. -/
theorem conjuncts_ne_nil (h : p.IsNormal) : p.conjuncts ≠ [] := by
  intro hnil
  cases h with
  | all hlength => exact absurd (congrArg List.length hnil) (by rw [conjuncts, List.length_nil]; omega)
  | test | any | not => exact List.cons_ne_nil _ _ hnil

/-- A predicate in normal form adds something to a disjunction. -/
theorem disjuncts_ne_nil (h : p.IsNormal) : p.disjuncts ≠ [] := by
  intro hnil
  cases h with
  | any hlength => exact absurd (congrArg List.length hnil) (by rw [disjuncts, List.length_nil]; omega)
  | test | all | not => exact List.cons_ne_nil _ _ hnil

/-! ## Putting predicates together -/

/-- The conjunction of a single part is the part. -/
theorem all_of_singleton (h : p.IsNormal) : allOf [p] = p := by
  rw [allOf, List.flatMap_singleton, h.conjoin_conjuncts]

/-- The disjunction of a single part is the part. -/
theorem any_of_singleton (h : p.IsNormal) : anyOf [p] = p := by
  rw [anyOf, List.flatMap_singleton, h.disjoin_disjuncts]

/-- A negation of a negation is what is negated. -/
theorem negate_negate (h : p.IsNormal) : p.negate.negate = p := by
  cases h with
  | @not inner hinner hsingle =>
      cases inner with
      | not inner => exact absurd hsingle (by simp [isNot])
      | test | all | any => rfl
  | test | all | any => rfl

/-- The negation of a predicate in normal form is in normal form. -/
protected theorem negate (h : p.IsNormal) : p.negate.IsNormal := by
  cases h with
  | not hinner hsingle => exact hinner
  | test constraint => exact .not (.test constraint) rfl
  | all hlength hparts hmerged => exact .not (.all hlength hparts hmerged) rfl
  | any hlength hparts hmerged => exact .not (.any hlength hparts hmerged) rfl

/-- Merged parts in normal form have a conjunction in normal form, unless there are none. -/
protected theorem conjoin {parts : List Predicate} (hfilled : parts ≠ [])
    (h : ∀ q ∈ parts, q.IsNormal ∧ q.isAll = false) : (conjoin parts).IsNormal := by
  rcases parts with _ | ⟨p, _ | ⟨q, parts⟩⟩
  · exact absurd rfl hfilled
  · exact (h p (List.mem_singleton_self p)).1
  · exact .all (by simp) (fun r hr => (h r hr).1) fun r hr => (h r hr).2

/-- Merged parts in normal form have a disjunction in normal form, unless there are none. -/
protected theorem disjoin {parts : List Predicate} (hfilled : parts ≠ [])
    (h : ∀ q ∈ parts, q.IsNormal ∧ q.isAny = false) : (disjoin parts).IsNormal := by
  rcases parts with _ | ⟨p, _ | ⟨q, parts⟩⟩
  · exact absurd rfl hfilled
  · exact (h p (List.mem_singleton_self p)).1
  · exact .any (by simp) (fun r hr => (h r hr).1) fun r hr => (h r hr).2

/-- Merging parts leaves something of them, if each of them adds something. -/
theorem flat_map_ne_nil {merge : Predicate → List Predicate}
    (hmerge : ∀ {p : Predicate}, p.IsNormal → merge p ≠ []) {parts : List Predicate}
    (hfilled : parts ≠ []) (h : ∀ p ∈ parts, p.IsNormal) : parts.flatMap merge ≠ [] := by
  obtain ⟨first, rest, rfl⟩ := List.exists_cons_of_ne_nil hfilled
  rw [List.flatMap_cons]
  exact List.append_ne_nil_of_left_ne_nil (hmerge (h first (List.mem_cons_self ..))) _

/-- Parts in normal form have a conjunction in normal form, unless there are none. -/
protected theorem all_of {parts : List Predicate} (hfilled : parts ≠ [])
    (h : ∀ p ∈ parts, p.IsNormal) : (allOf parts).IsNormal :=
  .conjoin (flat_map_ne_nil conjuncts_ne_nil hfilled h) (of_mem_flat_map of_mem_conjuncts h)

/-- Parts in normal form have a disjunction in normal form, unless there are none. -/
protected theorem any_of {parts : List Predicate} (hfilled : parts ≠ [])
    (h : ∀ p ∈ parts, p.IsNormal) : (anyOf parts).IsNormal :=
  .disjoin (flat_map_ne_nil disjuncts_ne_nil hfilled h) (of_mem_flat_map of_mem_disjuncts h)

end IsNormal

/-- A conjunction of parts in normal form has the parts that each of them adds. -/
theorem conjuncts_all_of {parts : List Predicate} (h : ∀ p ∈ parts, p.IsNormal) :
    (allOf parts).conjuncts = parts.flatMap conjuncts :=
  conjuncts_conjoin fun q hq => (of_mem_flat_map IsNormal.of_mem_conjuncts h q hq).2

/-- Conjunctions of parts in normal form have the conjunction of all the parts. -/
theorem all_of_pair {ps qs : List Predicate} (hps : ∀ p ∈ ps, p.IsNormal)
    (hqs : ∀ q ∈ qs, q.IsNormal) : allOf [allOf ps, allOf qs] = allOf (ps ++ qs) := by
  rw [allOf, List.flatMap_cons, List.flatMap_singleton, conjuncts_all_of hps, conjuncts_all_of hqs,
    ← List.flatMap_append, allOf]

end Predicate

/-! ## Terms -/

/-- The predicate is a single constraint or the negation of one. -/
inductive Predicate.IsLiteral : Predicate → Prop where
  | test (constraint : Constraint) : IsLiteral (.test constraint)
  | not (constraint : Constraint) : IsLiteral (.not (.test constraint))

namespace SearchKey

open Predicate (IsLiteral IsNormal)

/-- A search for colors is a single constraint. -/
theorem is_literal_color_search (field : Field) (value : String) (comparison : Option Comparison) :
    (colorSearch field value comparison).IsLiteral := by
  unfold colorSearch
  dsimp only
  split
  · exact .test _
  · split <;> exact .test _

/-- A search for a text is a single constraint, negated under one of the comparisons. -/
theorem is_literal_equality (field : Field) (value : String) (comparison : Option Comparison) :
    (equality field value comparison).IsLiteral := by
  rw [equality]
  split
  · exact .not _
  · exact .test _

/-- A numeric search asks for a parity or compares. -/
theorem is_literal_numeric_search {field : Field} {value : String} {comparison : Option Comparison}
    {p : Predicate} (hp : numericSearch? field value comparison = some p) : p.IsLiteral := by
  rcases numeric_search_cases hp with ⟨remainder, _, rfl⟩ | ⟨relation, bound, rfl⟩ | ⟨relation, text, _, rfl⟩
  · exact .test _
  · exact .test _
  · exact is_literal_equality field text _

/-- A search for rarities lists them, or compares one as a text. -/
theorem is_literal_rarity_search (value : String) (comparison : Option Comparison) :
    (raritySearch value comparison).IsLiteral := by
  rw [raritySearch]
  split
  · exact is_literal_equality _ _ _
  · split
    case h_5 => exact is_literal_equality _ _ _
    all_goals exact .test _

/-- What a key builds is a literal, except that a name is searched in two fields, and the exclusion of
extras rules out two things. -/
theorem build_cases {key : SearchKey} {value : String} {comparison : Option Comparison}
    {p : Predicate} (hp : key.build? value comparison = some p) :
    p.IsLiteral ∨ (∃ c d, p = .any [.test c, .test d]) ∨
      ∃ c d, p = .all [.not (.test c), .not (.test d)] := by
  cases key with
  | color | identity =>
      obtain rfl := Option.some.inj hp
      exact .inl (is_literal_color_search _ value comparison)
  | type | oracle | flavorName | keyword =>
      obtain rfl := Option.some.inj hp
      exact .inl (.test _)
  | name =>
      obtain rfl := Option.some.inj hp
      exact .inr (.inl ⟨_, _, rfl⟩)
  | manaValue | power | toughness | loyalty => exact .inl (is_literal_numeric_search hp)
  | set | layout | language =>
      obtain rfl := Option.some.inj hp
      exact .inl (is_literal_equality _ _ comparison)
  | rarity =>
      obtain rfl := Option.some.inj hp
      exact .inl (is_literal_rarity_search value comparison)
  | exclude =>
      rw [build?, exclusion?] at hp
      split at hp
      · obtain rfl := Option.some.inj hp
        exact .inr (.inr ⟨_, _, rfl⟩)
      · exact absurd hp (by simp)

/-- What a key builds is in normal form. -/
theorem is_normal_build {key : SearchKey} {value : String} {comparison : Option Comparison}
    {p : Predicate} (hp : key.build? value comparison = some p) : p.IsNormal := by
  rcases build_cases hp with hliteral | ⟨c, d, rfl⟩ | ⟨c, d, rfl⟩
  · cases hliteral with
    | test constraint => exact .test constraint
    | not constraint => exact .not (.test constraint) rfl
  · refine .any (Nat.le_refl 2) (fun q hq => ?_) fun q hq => ?_
    all_goals rcases List.mem_pair.1 hq with rfl | rfl
    · exact .test c
    · exact .test d
    · rfl
    · rfl
  · refine .all (Nat.le_refl 2) (fun q hq => ?_) fun q hq => ?_
    all_goals rcases List.mem_pair.1 hq with rfl | rfl
    · exact .not (.test c) rfl
    · exact .not (.test d) rfl
    · rfl
    · rfl

end SearchKey

/-! ## Queries -/

/-- Normal form is a matter of the terms: the operations that compose predicates keep it. -/
theorem Predicate.is_compositional_is_normal : IsCompositional Predicate.IsNormal where
  term token p h := by
    obtain ⟨key, built, hbuilt, hp⟩ := build_term_eq_some h
    have hnormal := SearchKey.is_normal_build hbuilt
    rcases hp with rfl | rfl
    · exact hnormal
    · exact hnormal.negate
  all_of parts hparts h := .all_of hparts h
  any_of parts hparts h := .any_of hparts h
  negate p h := h.negate

/-- What the groups of a query mean is in normal form. -/
theorem is_normal_of_mem_group_meanings {groups : List (List QueryItem)} :
    ∀ p ∈ groupMeanings groups, p.IsNormal := by
  rw [group_meanings_eq_filter_map]
  exact Predicate.is_compositional_is_normal.group_meanings groups

/-- What a query means is in normal form. -/
theorem is_normal_of_meaning {tree : QueryTree} {p : Predicate} (h : tree.meaning? = some p) :
    p.IsNormal := by
  rw [tree_meaning_eq] at h
  exact Predicate.is_compositional_is_normal.all_of_opt
    (Predicate.is_compositional_is_normal.group_meanings tree) p h

end CardCatalog
