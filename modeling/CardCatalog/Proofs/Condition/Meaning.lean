import CardCatalog.Catalog.Basic
import CardCatalog.Catalog.Statement
import CardCatalog.Proofs.Catalog.Evaluate
import CardCatalog.Proofs.Condition.Unambiguous
import CardCatalog.Proofs.Text.LowerCase

/-!
# What conditions and statements mean

The canonical form of a predicate says the same of every card as the predicate (`eval_canonical`), so
the predicate that is read back from a condition does as well (`eval_read_condition`). The statement of
a search can be read back to its end, and so it decides the answer of the search
(`search_eq_of_statement_eq`). The keys in a statement are those by which the order compares cards
(`le_eq_le_by_keys`).
-/

namespace CardCatalog

open CardCatalog.Text CardCatalog.Number

/-! ## Canonical forms -/

/-- A value that is compared with a field is compared as it is with the field once more. -/
theorem compared_value_compared_value (field : Field) (value : String) :
    comparedValue field (comparedValue field value) = comparedValue field value := by
  unfold comparedValue
  split
  · exact to_lower_to_lower value
  · rfl

/-- The canonical form of a constraint says the same of a card. -/
theorem Constraint.eval_canonical (constraint : Constraint) (row : Row) :
    constraint.canonical.eval row = constraint.eval row := by
  cases constraint with
  | equals field value =>
      rw [canonical, Predicate.eval, eval, eval, compared_value_compared_value]
  | oneOf field values =>
      cases values with
      | nil => rfl
      | cons _ _ => rfl
  | matchesPattern _ _ | colorsInclude _ _ | colorsWithin _ _ | colorsExactly _ _ | noColors _
  | compare _ _ _ | modulo _ _ _ => rfl

namespace Predicate

variable (row : Row)

/-- A conjunction says the same with a single part taken for a disjunct. -/
theorem eval_conjunction (parts : List Predicate) :
    (conjunction parts).eval row = evalAll row parts := by
  match parts with
  | [] | _ :: _ :: _ => rfl
  | [p] =>
      rw [conjunction, eval, evalAny, evalAny, evalAll, evalAll, Truth.or_no, Truth.and_yes]

mutual

/-- The canonical form of a predicate says the same of a card. -/
theorem eval_canonical (p : Predicate) : p.canonical.eval row = p.eval row := by
  match p with
  | .test constraint =>
      rw [canonical, eval]
      exact constraint.eval_canonical row
  | .all parts => rw [canonical, eval_conjunction, eval, eval_all_canonical parts]
  | .any parts => rw [canonical, eval, eval, eval_any_canonical parts]
  | .not inner => rw [canonical, eval, eval, eval_canonical inner]

/-- The canonical forms of the parts of a conjunction say the same. -/
theorem eval_all_canonical (ps : List Predicate) :
    evalAll row (canonicalList ps) = evalAll row ps := by
  match ps with
  | [] => rfl
  | p :: ps => rw [canonicalList, evalAll, evalAll, eval_canonical p, eval_all_canonical ps]

/-- The canonical forms of the parts of a disjunction say the same. -/
theorem eval_any_canonical (ps : List Predicate) :
    evalAny row (canonicalList ps) = evalAny row ps := by
  match ps with
  | [] => rfl
  | p :: ps => rw [canonicalList, evalAny, evalAny, eval_canonical p, eval_any_canonical ps]

end

/-- The database reads the condition of a predicate to its end, and what it reads says the same of every
card as the predicate. -/
theorem eval_read_condition (p : Predicate) :
    ∃ read : Predicate, (∃ bound, ∀ fuel ≥ bound,
        ConditionReader.readPredicate fuel p.condition.toList = some (read, [])) ∧
      ∀ row, read.eval row = p.eval row := by
  obtain ⟨bound, hread⟩ := ConditionReader.reads_back_condition p
  have hstops : ConditionReader.Stops [] := by simp [ConditionReader.Stops]
  refine ⟨p.canonical, ⟨bound, fun fuel hfuel => ?_⟩, fun row => eval_canonical row p⟩
  have hall := hread fuel hfuel [] hstops
  rwa [List.append_nil] at hall

/-- The leaves of a conjunction are those of its parts, with a single part taken for a disjunct. -/
theorem constraints_conjunction (parts : List Predicate) :
    (conjunction parts).constraints = constraintsOf parts := by
  match parts with
  | [] | _ :: _ :: _ | [_] => rfl

variable {test : Constraint → Bool}

/-- The test does not tell constraints with the same condition apart. -/
structure IgnoresCanonical (test : Constraint → Bool) : Prop where
  equals : ∀ field value,
    test (.equals field (comparedValue field value)) = test (.equals field value)
  one_of : ∀ field, test (.oneOf field []) = true

mutual

/-- A predicate and its canonical form have the same leaves, as far as the test tells. -/
theorem all_constraints_canonical (htest : IgnoresCanonical test) (p : Predicate) :
    p.canonical.constraints.all test = p.constraints.all test := by
  match p with
  | .test (.equals field value) =>
      simp [canonical, Constraint.canonical, constraints, htest.equals]
  | .test (.oneOf field []) =>
      simp [canonical, Constraint.canonical, constraints, constraintsOf, htest.one_of]
  | .test (.oneOf _ (_ :: _)) | .test (.matchesPattern _ _) | .test (.colorsInclude _ _)
  | .test (.colorsWithin _ _) | .test (.colorsExactly _ _) | .test (.noColors _)
  | .test (.compare _ _ _) | .test (.modulo _ _ _) => rfl
  | .all parts =>
      rw [canonical, constraints_conjunction, constraints, all_constraints_of_canonical htest parts]
  | .any parts => rw [canonical, constraints, constraints, all_constraints_of_canonical htest parts]
  | .not inner => rw [canonical, constraints, constraints, all_constraints_canonical htest inner]

/-- Parts and their canonical forms have the same leaves, as far as the test tells. -/
theorem all_constraints_of_canonical (htest : IgnoresCanonical test) (ps : List Predicate) :
    (constraintsOf (canonicalList ps)).all test = (constraintsOf ps).all test := by
  match ps with
  | [] => rfl
  | p :: ps =>
      rw [canonicalList, constraintsOf, constraintsOf, List.all_append, List.all_append,
        all_constraints_canonical htest p, all_constraints_of_canonical htest ps]

end

/-- Whether constraints suit their columns is seen from the canonical form. -/
theorem ignores_canonical_is_executable : IgnoresCanonical Constraint.isExecutable :=
  ⟨fun _ _ => rfl, fun _ => rfl⟩

/-- Whether constraints have a value for a card is seen from the canonical form. -/
theorem ignores_canonical_overflows : IgnoresCanonical fun constraint => !constraint.overflows row :=
  ⟨fun _ _ => rfl, fun _ => rfl⟩

end Predicate

/-! ## The keys of an order -/

namespace SortKey

/-- One card stands before another by the key, or the two agree in it. -/
def le : SortKey → Row → Row → Bool
  | .name, x, y => SortOrder.textLe x.name y.name
  | .set, x, y => SortOrder.textLe x.set y.set
  | .manaValue, x, y =>
      (StoredNumber.orderKey x.manaValue).le (StoredNumber.orderKey y.manaValue)
  | .rarity, x, y => SortOrder.rarityRank x.rarity ≤ SortOrder.rarityRank y.rarity

/-- One card stands before another by the first key in which they differ, or they differ in none. -/
def leByAll : List SortKey → Row → Row → Bool
  | [], _, _ => true
  | key :: keys, x, y => key.le x y && (!key.le y x || leByAll keys x y)

end SortKey

namespace SortOrder

/-- An order compares cards by the keys that its text names, one after the other. -/
theorem le_eq_le_by_keys (order : SortOrder) (x y : Row) :
    order.le x y = SortKey.leByAll order.keys x y := by
  cases order <;> simp [le, thenBy, keys, SortKey.leByAll, SortKey.le]

example : keysText .rarity = "CASE lower(rarity) WHEN 'mythic' THEN 0 WHEN 'rare' THEN 1 " ++
    "WHEN 'uncommon' THEN 2 WHEN 'common' THEN 3 ELSE 4 END, name" := by
  decide +kernel

/-- The rank of a rarity is its place in the list from which the text of the key is made. -/
theorem rarity_rank_eq_idx_of_text (rarity : String) :
    rarityRank rarity = SortKey.rarities.idxOf (lowerEach rarity) := by
  unfold rarityRank SortKey.rarities
  split <;> simp_all

/-- The texts of the keys tell the orders apart by their first character. -/
theorem head_keys_text (order : SortOrder) :
    order.keysText.toList.head? = some (match order with
      | .name => 'n'
      | .manaValue => 'c'
      | .set => 's'
      | .rarity => 'C') := by
  cases order <;> decide +kernel

/-- An order is seen from the front of a text that starts with its keys. -/
theorem eq_of_keys_text_append {order other : SortOrder} {rest restOther : List Char}
    (h : order.keysText.toList ++ rest = other.keysText.toList ++ restOther) :
    order = other ∧ rest = restOther := by
  have hhead := congrArg List.head? h
  rw [List.head?_append, List.head?_append, head_keys_text, head_keys_text, Option.some_or,
    Option.some_or, Option.some.injEq] at hhead
  have hsame : order = other := by
    revert hhead
    cases order <;> cases other <;> decide
  subst hsame
  exact ⟨rfl, List.append_cancel_left h⟩

end SortOrder

/-! ## Statements -/

/-- Limits with the same text are the same. -/
theorem limit_text_injective {limit other : Option Nat} (h : limitText limit = limitText other) :
    limit = other := by
  have htext (n : Nat) : (limitText (some n)).toList = "LIMIT ".toList ++ natDigits n := by
    rw [limitText, String.toList_append, natText, String.toList_ofList (l := natDigits n)]
  have hchars := congrArg String.toList h
  match limit, other with
  | none, none => rfl
  | none, some n => simp [limitText] at hchars
  | some m, none => simp [limitText] at hchars
  | some m, some n =>
      rw [htext, htext] at hchars
      have hdigits := congrArg natOfDigits (List.append_cancel_left hchars)
      rw [nat_of_digits_nat_digits, nat_of_digits_nat_digits] at hdigits
      rw [hdigits]

/-- What stands in a statement behind its condition. -/
def statementEnd (order : SortOrder) (limit : Option Nat) : List Char :=
  statementLine.toList ++ ("ORDER BY ".toList ++ (order.keysText.toList ++
    (statementLine.toList ++ (limitText limit).toList)))

/-- A statement is its condition between the words that open it and its end. -/
theorem search_statement_to_list (predicate : Predicate) (order : SortOrder) (limit : Option Nat) :
    (searchStatement predicate order limit).toList =
      statementOpening.toList ++ (predicate.condition.toList ++ statementEnd order limit) := by
  rw [statementEnd, searchStatement]
  simp only [String.toList_append, List.append_assoc]

/-- The canonical form of the predicate, the order and the limit can be read back from a statement. -/
theorem eq_of_search_statement_eq {p q : Predicate} {order other : SortOrder}
    {limit limitOther : Option Nat}
    (h : searchStatement p order limit = searchStatement q other limitOther) :
    p.canonical = q.canonical ∧ order = other ∧ limit = limitOther := by
  have hchars := congrArg String.toList h
  rw [search_statement_to_list, search_statement_to_list] at hchars
  have hbehind := List.append_cancel_left hchars
  have hstops (order : SortOrder) (limit : Option Nat) :
      ConditionReader.Stops (statementEnd order limit) := by
    simp [ConditionReader.Stops, statementEnd, statementLine]
  -- One reader takes both conditions off the same text, and leaves the same end.
  obtain ⟨bound, hp⟩ := ConditionReader.reads_back_condition p
  obtain ⟨boundOther, hq⟩ := ConditionReader.reads_back_condition q
  have hread := hp (bound + boundOther) (by omega) _ (hstops order limit)
  rw [hbehind, hq (bound + boundOther) (by omega) _ (hstops other limitOther)] at hread
  obtain ⟨hcanonical, hend⟩ := Prod.mk.inj (Option.some.inj hread)
  have hkeys := List.append_cancel_left (List.append_cancel_left hend)
  obtain ⟨horder, hlimit⟩ := SortOrder.eq_of_keys_text_append hkeys
  have hlimits := limit_text_injective (String.toList_inj.1 (List.append_cancel_left hlimit))
  exact ⟨hcanonical.symm, horder.symm, hlimits.symm⟩

/-- The database takes conditions of predicates with the same canonical form alike. -/
theorem Predicate.is_executable_eq_of_canonical_eq {p q : Predicate} (h : p.canonical = q.canonical) :
    p.isExecutable = q.isExecutable := by
  rw [isExecutable, isExecutable, condition_eq_canonical p, condition_eq_canonical q, h,
    ← all_constraints_canonical ignores_canonical_is_executable p,
    ← all_constraints_canonical ignores_canonical_is_executable q, h]

/-- A catalog admits searches for predicates with the same canonical form alike. -/
theorem Catalog.admits_eq_of_canonical_eq {p q : Predicate} (h : p.canonical = q.canonical)
    (catalog : Catalog) (limit : Option Nat) : catalog.admits p limit = catalog.admits q limit := by
  have hvalues (row : Row) : (!p.constraints.any (Constraint.overflows row)) =
      !q.constraints.any (Constraint.overflows row) := by
    rw [List.not_any_eq_all_not, List.not_any_eq_all_not,
      ← Predicate.all_constraints_canonical (Predicate.ignores_canonical_overflows row) p,
      ← Predicate.all_constraints_canonical (Predicate.ignores_canonical_overflows row) q, h]
  simp only [admits, Predicate.is_executable_eq_of_canonical_eq h, hvalues]

/-- Searches with the same statement have the same answer in every catalog. -/
theorem Catalog.search_eq_of_statement_eq {p q : Predicate} {order other : SortOrder}
    {limit limitOther : Option Nat}
    (h : searchStatement p order limit = searchStatement q other limitOther) (catalog : Catalog) :
    catalog.search? p order limit = catalog.search? q other limitOther := by
  obtain ⟨hcanonical, rfl, rfl⟩ := eq_of_search_statement_eq h
  have hselects : p.selects = q.selects := by
    funext row
    rw [Predicate.selects, Predicate.selects, ← Predicate.eval_canonical row p, hcanonical,
      Predicate.eval_canonical]
  rw [search?, search?, hits, hits, hselects, admits_eq_of_canonical_eq hcanonical]

end CardCatalog
