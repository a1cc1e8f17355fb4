import CardCatalog.Proofs.Query.Meaning
import CardCatalog.Proofs.Query.Split

/-!
# Split groups and their meaning

A query whose groups are split means the same exactly if as many of its groups as before mean
something (`meaning_eq_iff`). Each of them is a part of a conjunction, so it counts with the `AND`s of
the predicate, which does not depend on how predicates are merged (`conjunctions_all_of`). Where no
group more means something, each group has at most one piece that does, and this means what the group
means.
-/

namespace CardCatalog

/-! ## The `AND`s of a predicate -/

namespace Predicate

mutual

/-- The `AND`s in a predicate: between the parts of each conjunction. An empty conjunction, which is
the unit of merging, counts as one less than none. -/
def conjunctions : Predicate → Int
  | .test _ => 0
  | .all parts => conjunctionsOf parts + parts.length - 1
  | .any parts => conjunctionsOf parts
  | .not inner => inner.conjunctions

/-- The `AND`s in several predicates. -/
def conjunctionsOf : List Predicate → Int
  | [] => 0
  | p :: ps => p.conjunctions + conjunctionsOf ps

end

/-- The `AND`s in some predicates and in others together. -/
theorem conjunctions_of_append (ps qs : List Predicate) :
    conjunctionsOf (ps ++ qs) = conjunctionsOf ps + conjunctionsOf qs := by
  induction ps with
  | nil => simp [conjunctionsOf]
  | cons p ps ih => rw [List.cons_append, conjunctionsOf, conjunctionsOf, ih, Int.add_assoc]

/-- A predicate adds its `AND`s to a conjunction, and one more in front. -/
theorem conjunctions_of_conjuncts (p : Predicate) :
    conjunctionsOf p.conjuncts + p.conjuncts.length = p.conjunctions + 1 := by
  cases p with
  | all parts => rw [conjuncts, conjunctions, Int.sub_add_cancel]
  | test _ | any _ | not _ => simp [conjuncts, conjunctionsOf]

/-- A predicate adds its `AND`s to a disjunction. -/
theorem conjunctions_of_disjuncts (p : Predicate) :
    conjunctionsOf p.disjuncts = p.conjunctions := by
  cases p with
  | any parts => rw [disjuncts, conjunctions]
  | test _ | all _ | not _ => simp [disjuncts, conjunctionsOf]

/-- A conjunction has the `AND`s of its parts and those between them. -/
theorem conjunctions_all_of (parts : List Predicate) :
    (allOf parts).conjunctions = conjunctionsOf parts + parts.length - 1 := by
  have hconjoin (merged : List Predicate) :
      (conjoin merged).conjunctions = conjunctionsOf merged + merged.length - 1 := by
    match merged with
    | [] => rfl
    | [p] => simp [conjoin, conjunctionsOf]
    | p :: q :: ps => rfl
  have hmerged : conjunctionsOf (parts.flatMap conjuncts) + (parts.flatMap conjuncts).length =
      conjunctionsOf parts + parts.length := by
    induction parts with
    | nil => rfl
    | cons p ps ih =>
        have hfirst := conjunctions_of_conjuncts p
        rw [List.flatMap_cons, conjunctions_of_append, conjunctionsOf, List.length_append,
          List.length_cons]
        push_cast
        omega
  rw [allOf, hconjoin, hmerged]

/-- A disjunction has the `AND`s of its parts. -/
theorem conjunctions_any_of (parts : List Predicate) :
    (anyOf parts).conjunctions = conjunctionsOf parts := by
  have hdisjoin (merged : List Predicate) :
      (disjoin merged).conjunctions = conjunctionsOf merged := by
    match merged with
    | [] => rfl
    | [p] => simp [disjoin, conjunctionsOf]
    | p :: q :: ps => rfl
  rw [anyOf, hdisjoin]
  induction parts with
  | nil => rfl
  | cons p ps ih =>
      rw [List.flatMap_cons, conjunctions_of_append, conjunctions_of_disjuncts, ih, conjunctionsOf]

/-- A negation has the `AND`s of what it negates. -/
theorem conjunctions_negate (p : Predicate) : p.negate.conjunctions = p.conjunctions := by
  cases p <;> rfl

end Predicate

/-! ## Groups that mean something -/

mutual

/-- The number of groups in an item that mean something. -/
def QueryItem.presentGroups : QueryItem → Nat
  | .term _ => 0
  | .nested _ groups => CardCatalog.presentGroups groups

/-- The number of groups in some items that mean something. -/
def itemsPresentGroups : List QueryItem → Nat
  | [] => 0
  | item :: items => item.presentGroups + itemsPresentGroups items

/-- The number of groups of a query that mean something, those of nested queries included. -/
def presentGroups : List (List QueryItem) → Nat
  | [] => 0
  | items :: groups =>
      (if (itemMeanings items).isEmpty then 0 else 1) + itemsPresentGroups items +
        presentGroups groups

end

/-- Items that follow each other mean what each of them means. -/
theorem item_meanings_append (xs ys : List QueryItem) :
    itemMeanings (xs ++ ys) = itemMeanings xs ++ itemMeanings ys := by
  simp only [item_meanings_eq_filter_map, List.filterMap_append]

/-- Groups that follow each other mean what each of them means. -/
theorem group_meanings_append (xs ys : List (List QueryItem)) :
    groupMeanings (xs ++ ys) = groupMeanings xs ++ groupMeanings ys := by
  simp only [group_meanings_eq_filter_map, List.filterMap_append]

/-- The groups in items that follow each other are those in each of them. -/
theorem items_present_groups_append (xs ys : List QueryItem) :
    itemsPresentGroups (xs ++ ys) = itemsPresentGroups xs + itemsPresentGroups ys := by
  induction xs with
  | nil => simp [itemsPresentGroups]
  | cons x xs ih =>
      rw [List.cons_append, itemsPresentGroups, itemsPresentGroups, ih, Nat.add_assoc]

/-- The groups of queries that follow each other are those of each of them. -/
theorem present_groups_append (xs ys : List (List QueryItem)) :
    presentGroups (xs ++ ys) = presentGroups xs + presentGroups ys := by
  induction xs with
  | nil => simp [presentGroups]
  | cons items xs ih =>
      rw [List.cons_append, presentGroups, presentGroups, ih, Nat.add_assoc _ _ (presentGroups ys)]

/-- The groups of a query are those with a meaning in it, and those in its items. -/
theorem present_groups_eq (groups : List (List QueryItem)) :
    presentGroups groups = (groupMeanings groups).length + itemsPresentGroups groups.flatten := by
  induction groups with
  | nil => rfl
  | cons items groups ih =>
      rw [presentGroups, groupMeanings, ih, List.flatten_cons, items_present_groups_append]
      cases itemMeanings items with
      | nil => simp; omega
      | cons p ps => simp; omega

/-- The `AND`s in the meanings of groups are those in the meanings of their items. -/
theorem conjunctions_group_meanings (groups : List (List QueryItem)) :
    Predicate.conjunctionsOf (groupMeanings groups) =
      Predicate.conjunctionsOf (itemMeanings groups.flatten) := by
  induction groups with
  | nil => rfl
  | cons items groups ih =>
      rw [groupMeanings, List.flatten_cons, item_meanings_append, Predicate.conjunctions_of_append]
      cases itemMeanings items with
      | nil => simp [ih, Predicate.conjunctionsOf]
      | cons p ps => simp only [Predicate.conjunctionsOf, Predicate.conjunctions_any_of, ih]

/-- Groups mean nothing exactly if their items do not. -/
theorem group_meanings_eq_nil_iff (groups : List (List QueryItem)) :
    groupMeanings groups = [] ↔ itemMeanings groups.flatten = [] := by
  induction groups with
  | nil => simp [groupMeanings, itemMeanings]
  | cons items groups ih =>
      rw [groupMeanings, List.flatten_cons, item_meanings_append, List.append_eq_nil_iff, ← ih]
      cases itemMeanings items <;> simp

/-- Groups of which at most one means something mean what their items mean in a single group. -/
theorem group_meanings_of_length_le_one {groups : List (List QueryItem)}
    (h : (groupMeanings groups).length ≤ 1) :
    groupMeanings groups = groupMeanings [groups.flatten] := by
  induction groups with
  | nil => rfl
  | cons items groups ih =>
      rw [groupMeanings, List.flatten_cons, groupMeanings, item_meanings_append]
      rw [groupMeanings] at h
      cases hitems : itemMeanings items with
      | nil =>
          rw [hitems] at h
          exact ih h
      | cons p ps =>
          rw [hitems] at h
          have hrest : groupMeanings groups = [] := List.length_eq_zero_iff.1 (by simpa using h)
          rw [hrest, (group_meanings_eq_nil_iff groups).1 hrest, List.append_nil]
          rfl

/-! ## What splitting leaves as it is -/

/-- The `AND`s in the meanings of some items, less the groups in the items that mean something. -/
def surplus (items : List QueryItem) : Int :=
  Predicate.conjunctionsOf (itemMeanings items) - itemsPresentGroups items

/-- The first items are the second ones with groups split: the same of them mean something, with the
same surplus; and they mean the same where no group more means something. -/
structure ItemsAgree (xs ys : List QueryItem) : Prop where
  present : itemMeanings xs = [] ↔ itemMeanings ys = []
  surplus : surplus xs = surplus ys
  count : itemsPresentGroups ys ≤ itemsPresentGroups xs
  meanings : itemsPresentGroups xs = itemsPresentGroups ys → itemMeanings xs = itemMeanings ys

/-- The first groups are the second ones split: their items agree, and they mean the same where no
group more means something. -/
structure GroupsAgree (fine coarse : List (List QueryItem)) : Prop where
  items : ItemsAgree fine.flatten coarse.flatten
  count : presentGroups coarse ≤ presentGroups fine
  meanings : presentGroups fine = presentGroups coarse → groupMeanings fine = groupMeanings coarse

/-- Items agree with themselves. -/
theorem ItemsAgree.refl (items : List QueryItem) : ItemsAgree items items :=
  ⟨.rfl, rfl, Nat.le_refl _, fun _ => rfl⟩

/-- Items that follow each other agree if each of them do. -/
theorem ItemsAgree.append {xs ys vs ws : List QueryItem} (h : ItemsAgree xs ys)
    (hnext : ItemsAgree vs ws) : ItemsAgree (xs ++ vs) (ys ++ ws) := by
  have hcount := h.count
  have hcountNext := hnext.count
  refine ⟨?_, ?_, ?_, fun heq => ?_⟩
  · simp only [item_meanings_append, List.append_eq_nil_iff, h.present, hnext.present]
  · have hsurplus := h.surplus
    have hsurplusNext := hnext.surplus
    simp only [CardCatalog.surplus, item_meanings_append, Predicate.conjunctions_of_append,
      items_present_groups_append] at hsurplus hsurplusNext ⊢
    omega
  · simp only [items_present_groups_append]
    omega
  · simp only [items_present_groups_append] at heq
    rw [item_meanings_append, item_meanings_append, h.meanings (by omega),
      hnext.meanings (by omega)]

/-- Queries that follow each other agree if each of them do. -/
theorem GroupsAgree.append {xs ys vs ws : List (List QueryItem)} (h : GroupsAgree xs ys)
    (hnext : GroupsAgree vs ws) : GroupsAgree (xs ++ vs) (ys ++ ws) := by
  have hcount := h.count
  have hcountNext := hnext.count
  refine ⟨?_, ?_, fun heq => ?_⟩
  · rw [List.flatten_append, List.flatten_append]
    exact h.items.append hnext.items
  · rw [present_groups_append, present_groups_append]
    omega
  · rw [present_groups_append, present_groups_append] at heq
    rw [group_meanings_append, group_meanings_append, h.meanings (by omega),
      hnext.meanings (by omega)]

/-- The pieces of a group agree with the group. -/
theorem GroupsAgree.of_pieces {pieces : List (List QueryItem)} {items : List QueryItem}
    (h : ItemsAgree pieces.flatten items) : GroupsAgree pieces [items] := by
  have hcount := h.count
  have hitems : [items].flatten = items := List.flatten_singleton
  -- The group means something exactly if one of its pieces does.
  have hpresent : groupMeanings pieces = [] ↔ groupMeanings [items] = [] := by
    rw [group_meanings_eq_nil_iff, group_meanings_eq_nil_iff, hitems]
    exact h.present
  have hsingle : (groupMeanings [items]).length ≤ 1 := by
    rw [groupMeanings]
    split <;> simp [groupMeanings]
  have hlength : (groupMeanings [items]).length ≤ (groupMeanings pieces).length := by
    by_cases hnone : groupMeanings pieces = []
    · simp [hpresent.1 hnone]
    · have hpos := List.length_pos_iff.2 hnone
      omega
  refine ⟨by rwa [hitems], ?_, fun heq => ?_⟩
  · rw [present_groups_eq, present_groups_eq, hitems]
    omega
  · rw [present_groups_eq, present_groups_eq, hitems] at heq
    have hmeanings := h.meanings (by omega)
    rw [group_meanings_of_length_le_one (by omega)]
    simp only [groupMeanings, hmeanings]

/-- A nested query means nothing exactly if its groups do not. -/
theorem nested_meanings_eq_nil_iff (negated : Bool) (groups : List (List QueryItem)) :
    itemMeanings [.nested negated groups] = [] ↔ groupMeanings groups = [] := by
  rw [itemMeanings, itemMeanings, QueryItem.meaning?]
  cases groupMeanings groups <;> simp

/-- A nested query has the surplus of its items, less one if it means something. -/
theorem surplus_nested (negated : Bool) (groups : List (List QueryItem)) :
    surplus [.nested negated groups] =
      surplus groups.flatten - (if groupMeanings groups = [] then 0 else 1) := by
  have hgroups := conjunctions_group_meanings groups
  rw [surplus, surplus, itemsPresentGroups, itemsPresentGroups, QueryItem.presentGroups,
    present_groups_eq, itemMeanings, itemMeanings, QueryItem.meaning?, ← hgroups]
  cases hmeanings : groupMeanings groups with
  | nil => simp [Predicate.conjunctionsOf]
  | cons p ps =>
      cases negated
      all_goals
        simp [Predicate.conjunctionsOf, Predicate.conjunctions_negate, Predicate.conjunctions_all_of]
        omega

/-- Nested queries agree if their groups do. -/
theorem ItemsAgree.of_nested {fine coarse : List (List QueryItem)} (h : GroupsAgree fine coarse)
    (negated : Bool) : ItemsAgree [.nested negated fine] [.nested negated coarse] := by
  have hpresent : groupMeanings fine = [] ↔ groupMeanings coarse = [] := by
    rw [group_meanings_eq_nil_iff, group_meanings_eq_nil_iff]
    exact h.items.present
  refine ⟨?_, ?_, by simpa [itemsPresentGroups, QueryItem.presentGroups] using h.count, fun heq => ?_⟩
  · rw [nested_meanings_eq_nil_iff, nested_meanings_eq_nil_iff]
    exact hpresent
  · rw [surplus_nested, surplus_nested, h.items.surplus]
    simp only [hpresent]
  · have hgroups := h.meanings (by simpa [itemsPresentGroups, QueryItem.presentGroups] using heq)
    simp only [itemMeanings, QueryItem.meaning?, hgroups]

mutual

/-- An item agrees with the item whose groups it splits. -/
theorem ItemSplit.agree {x y : QueryItem} (h : ItemSplit x y) : ItemsAgree [x] [y] := by
  match h with
  | .term text => exact .refl _
  | .nested negated hgroups => exact .of_nested hgroups.agree negated

/-- Items agree with those whose groups they split. -/
theorem ItemsSplit.agree {xs ys : List QueryItem} (h : ItemsSplit xs ys) : ItemsAgree xs ys := by
  match h with
  | .nil => exact .refl _
  | .cons hfirst hrest => exact hfirst.agree.append hrest.agree

/-- Groups agree with those that they split. -/
theorem GroupsSplit.agree {fine coarse : List (List QueryItem)} (h : GroupsSplit fine coarse) :
    GroupsAgree fine coarse := by
  match h with
  | .nil => exact ⟨.refl _, Nat.le_refl _, fun _ => rfl⟩
  | .cons hitems hrest => exact (GroupsAgree.of_pieces hitems.agree).append hrest.agree

end

/-- A query whose groups are split means the same exactly if as many groups mean something. -/
theorem GroupsSplit.meaning_eq_iff {fine coarse : QueryTree} (h : GroupsSplit fine coarse) :
    fine.meaning? = coarse.meaning? ↔ presentGroups fine = presentGroups coarse := by
  constructor
  · intro hmeaning
    -- Equal predicates have the same `AND`s, and with the same surplus also the same groups.
    have hsurplus := (ItemsAgree.of_nested h.agree false).surplus
    have hitems : itemMeanings [.nested false fine] = itemMeanings [.nested false coarse] := by
      simp only [itemMeanings, nested_meaning_eq, hmeaning]
    rw [surplus, surplus, hitems] at hsurplus
    simp only [itemsPresentGroups, QueryItem.presentGroups] at hsurplus
    omega
  · intro hcount
    rw [QueryTree.meaning?, QueryTree.meaning?, h.agree.meanings hcount]

end CardCatalog
