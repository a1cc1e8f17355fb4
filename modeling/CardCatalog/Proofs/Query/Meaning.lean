import CardCatalog.Query.Compile

/-!
# What a query means, part by part

`QueryTree.meaning?` goes through a query with two helpers that collect the meanings of items and of
groups. The equations here say the same of one part at a time: a nested query means what it means on
its own, a group the disjunction of its present items, and a query the conjunction of its present
groups. What holds of the predicate of every term, and is kept by the operations that compose
predicates, therefore holds of the predicate of every query (`IsCompositional.compile_query`).
-/

namespace CardCatalog

/-- The disjunction of the parts, or nothing without any part. -/
def Predicate.anyOf? : List Predicate → Option Predicate
  | [] => none
  | parts => some (.anyOf parts)

/-- The conjunction of the parts, or nothing without any part. -/
def Predicate.allOf? : List Predicate → Option Predicate
  | [] => none
  | parts => some (.allOf parts)

/-- What a group means, if anything: the disjunction of the items that mean something. -/
def QueryTree.groupMeaning? (items : List QueryItem) : Option Predicate :=
  Predicate.anyOf? (items.filterMap QueryItem.meaning?)

/-- The meanings of items are those of the single items, the absent ones left out. -/
theorem item_meanings_eq_filter_map (items : List QueryItem) :
    itemMeanings items = items.filterMap QueryItem.meaning? := by
  induction items with
  | nil => rfl
  | cons item items ih =>
      rw [itemMeanings, ih]
      cases h : item.meaning? with
      | none => rw [List.filterMap_cons_none h]; rfl
      | some predicate => rw [List.filterMap_cons_some h]; rfl

/-- The meanings of groups are those of the single groups, the absent ones left out. -/
theorem group_meanings_eq_filter_map (groups : List (List QueryItem)) :
    groupMeanings groups = groups.filterMap QueryTree.groupMeaning? := by
  induction groups with
  | nil => rfl
  | cons items groups ih =>
      rw [groupMeanings, List.filterMap_cons, ← ih, QueryTree.groupMeaning?,
        item_meanings_eq_filter_map]
      cases items.filterMap QueryItem.meaning? <;> rfl

/-- A query means the conjunction of the groups that mean something. -/
theorem tree_meaning_eq (tree : QueryTree) :
    tree.meaning? = Predicate.allOf? (tree.filterMap QueryTree.groupMeaning?) := by
  rw [QueryTree.meaning?, group_meanings_eq_filter_map]
  cases tree.filterMap QueryTree.groupMeaning? <;> rfl

/-- A term means the predicate of its token. -/
theorem term_meaning_eq (text : String) : (QueryItem.term text).meaning? = buildTerm text := by
  rw [QueryItem.meaning?]

/-- A nested query means what it means on its own, negated if it is marked so. -/
theorem nested_meaning_eq (negated : Bool) (groups : QueryTree) :
    (QueryItem.nested negated groups).meaning? =
      (QueryTree.meaning? groups).map fun predicate =>
        if negated then predicate.negate else predicate := by
  rw [QueryItem.meaning?, QueryTree.meaning?]
  cases groupMeanings groups <;> rfl

/-! ## Properties of every compiled predicate -/

/-- The property holds of the predicates of terms and is kept by the operations that compose
predicates. -/
structure IsCompositional (P : Predicate → Prop) : Prop where
  term : ∀ token p, buildTerm token = some p → P p
  all_of : ∀ parts ≠ [], (∀ p ∈ parts, P p) → P (.allOf parts)
  any_of : ∀ parts ≠ [], (∀ p ∈ parts, P p) → P (.anyOf parts)
  negate : ∀ p, P p → P p.negate

namespace IsCompositional

variable {P : Predicate → Prop}

/-- The conjunction of some parts, if any, has the property of its parts. -/
theorem all_of_opt (h : IsCompositional P) {parts : List Predicate} (hparts : ∀ p ∈ parts, P p) :
    ∀ p ∈ Predicate.allOf? parts, P p := by
  intro p hp
  cases parts with
  | nil => exact absurd hp (by simp [Predicate.allOf?])
  | cons first rest =>
      obtain rfl : Predicate.allOf (first :: rest) = p := Option.some.inj hp
      exact h.all_of _ (List.cons_ne_nil _ _) hparts

/-- The disjunction of some parts, if any, has the property of its parts. -/
theorem any_of_opt (h : IsCompositional P) {parts : List Predicate} (hparts : ∀ p ∈ parts, P p) :
    ∀ p ∈ Predicate.anyOf? parts, P p := by
  intro p hp
  cases parts with
  | nil => exact absurd hp (by simp [Predicate.anyOf?])
  | cons first rest =>
      obtain rfl : Predicate.anyOf (first :: rest) = p := Option.some.inj hp
      exact h.any_of _ (List.cons_ne_nil _ _) hparts

mutual

/-- What an item means has the property. -/
theorem item_meaning (h : IsCompositional P) (item : QueryItem) : ∀ p ∈ item.meaning?, P p := by
  intro p hp
  match item with
  | .term text =>
      rw [term_meaning_eq] at hp
      exact h.term text p hp
  | .nested negated groups =>
      rw [nested_meaning_eq, tree_meaning_eq] at hp
      obtain ⟨inner, hinner, rfl⟩ := Option.map_eq_some_iff.1 hp
      have hproperty := h.all_of_opt (h.group_meanings groups) inner hinner
      cases negated with
      | true => exact h.negate inner hproperty
      | false => exact hproperty

/-- What some items mean has the property. -/
theorem item_meanings (h : IsCompositional P) (items : List QueryItem) :
    ∀ p ∈ items.filterMap QueryItem.meaning?, P p := by
  intro p hp
  match items with
  | [] => simp at hp
  | item :: items =>
      have hfirst := h.item_meaning item
      have hrest := h.item_meanings items
      obtain ⟨part, hpart, hmeaning⟩ := List.mem_filterMap.1 hp
      rcases List.mem_cons.1 hpart with rfl | hpart
      · exact hfirst p hmeaning
      · exact hrest p (List.mem_filterMap.2 ⟨part, hpart, hmeaning⟩)

/-- What some groups mean has the property. -/
theorem group_meanings (h : IsCompositional P) (groups : List (List QueryItem)) :
    ∀ p ∈ groups.filterMap QueryTree.groupMeaning?, P p := by
  intro p hp
  match groups with
  | [] => simp at hp
  | items :: groups =>
      have hfirst : ∀ q ∈ QueryTree.groupMeaning? items, P q := h.any_of_opt (h.item_meanings items)
      have hrest := h.group_meanings groups
      obtain ⟨part, hpart, hmeaning⟩ := List.mem_filterMap.1 hp
      rcases List.mem_cons.1 hpart with rfl | hpart
      · exact hfirst p hmeaning
      · exact hrest p (List.mem_filterMap.2 ⟨part, hpart, hmeaning⟩)

end

/-- The predicate of a query is the empty conjunction or has the property. -/
theorem compile_query (h : IsCompositional P) (query : String) :
    compile query = .matchAll ∨ P (compile query) := by
  have hparts : ∀ p ∈ (QueryTree.readAll (Symbol.ofTokens (tokenize query))).filterMap
      QueryTree.meaning?, P p := by
    intro p hp
    obtain ⟨tree, _, hmeaning⟩ := List.mem_filterMap.1 hp
    rw [tree_meaning_eq] at hmeaning
    exact h.all_of_opt (h.group_meanings tree) p hmeaning
  rw [compile]
  generalize (QueryTree.readAll (Symbol.ofTokens (tokenize query))).filterMap
    QueryTree.meaning? = parts at hparts
  cases parts with
  | nil => exact .inl rfl
  | cons first rest => exact .inr (h.all_of _ (List.cons_ne_nil _ _) hparts)

end IsCompositional

end CardCatalog
