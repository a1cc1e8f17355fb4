import CardCatalog.Proofs.Query.Leaves
import CardCatalog.Proofs.Query.Sequence

/-!
# Predicates with other constraints

A map of constraints goes through a predicate and leaves its shape as it is, so composing predicates
commutes with it (`map_all_of`, `map_any_of`, `map_negate`). Two readings of symbols whose terms mean
the same under a map therefore mean the same under it, whatever the terms are (`Reader.Agrees.parts`).
-/

namespace CardCatalog

namespace Predicate

mutual

/-- The predicate with other constraints in place of its own. -/
def map (g : Constraint → Constraint) : Predicate → Predicate
  | .test constraint => .test (g constraint)
  | .all parts => .all (mapList g parts)
  | .any parts => .any (mapList g parts)
  | .not inner => .not (inner.map g)

/-- Several predicates with other constraints in place of their own. -/
def mapList (g : Constraint → Constraint) : List Predicate → List Predicate
  | [] => []
  | p :: ps => p.map g :: mapList g ps

end

variable {g : Constraint → Constraint}

/-- A list of predicates is mapped one by one. -/
theorem map_list_eq (ps : List Predicate) : mapList g ps = ps.map (map g) := by
  induction ps with
  | nil => rfl
  | cons p ps ih => rw [mapList, ih, List.map_cons]

/-- A conjunction is mapped part by part. -/
theorem map_all (parts : List Predicate) : (all parts).map g = .all (parts.map (map g)) := by
  rw [map, map_list_eq]

/-- A disjunction is mapped part by part. -/
theorem map_any (parts : List Predicate) : (any parts).map g = .any (parts.map (map g)) := by
  rw [map, map_list_eq]

/-- A mapped conjunction of parts is the conjunction of the mapped parts. -/
theorem map_all_of (parts : List Predicate) : (allOf parts).map g = allOf (parts.map (map g)) := by
  have hconjuncts (p : Predicate) : (p.map g).conjuncts = p.conjuncts.map (map g) := by
    cases p with
    | all parts => rw [map_all, conjuncts, conjuncts]
    | test _ | any _ | not _ => simp [map, conjuncts]
  have hconjoin (parts : List Predicate) : (conjoin parts).map g = conjoin (parts.map (map g)) := by
    rcases parts with _ | ⟨p, _ | ⟨q, parts⟩⟩
    · rfl
    · rfl
    · exact map_all (p :: q :: parts)
  rw [allOf, hconjoin, allOf, List.map_flatMap, List.flatMap_map]
  simp only [hconjuncts]

/-- A mapped disjunction of parts is the disjunction of the mapped parts. -/
theorem map_any_of (parts : List Predicate) : (anyOf parts).map g = anyOf (parts.map (map g)) := by
  have hdisjuncts (p : Predicate) : (p.map g).disjuncts = p.disjuncts.map (map g) := by
    cases p with
    | any parts => rw [map_any, disjuncts, disjuncts]
    | test _ | all _ | not _ => simp [map, disjuncts]
  have hdisjoin (parts : List Predicate) : (disjoin parts).map g = disjoin (parts.map (map g)) := by
    rcases parts with _ | ⟨p, _ | ⟨q, parts⟩⟩
    · rfl
    · rfl
    · exact map_any (p :: q :: parts)
  rw [anyOf, hdisjoin, anyOf, List.map_flatMap, List.flatMap_map]
  simp only [hdisjuncts]

/-- A mapped negation is the negation of the mapped predicate. -/
theorem map_negate (p : Predicate) : p.negate.map g = (p.map g).negate := by
  cases p with
  | not inner => rfl
  | test _ | all _ | any _ => simp [negate, map]

mutual

/-- A mapped predicate has the mapped constraints. -/
theorem constraints_map (p : Predicate) : (p.map g).constraints = p.constraints.map g := by
  match p with
  | .test _ => rfl
  | .all parts | .any parts =>
      rw [map, constraints, constraints]
      exact constraints_of_map_list parts
  | .not inner =>
      rw [map, constraints, constraints]
      exact constraints_map inner

/-- Mapped predicates have the mapped constraints. -/
theorem constraints_of_map_list (ps : List Predicate) :
    constraintsOf (mapList g ps) = (constraintsOf ps).map g := by
  match ps with
  | [] => rfl
  | p :: ps =>
      rw [mapList, constraintsOf, constraintsOf, List.map_append, constraints_map p,
        constraints_of_map_list ps]

end

mutual

/-- A predicate whose constraints stay stays as it is. -/
theorem map_eq_self (p : Predicate) (h : ∀ c ∈ p.constraints, g c = c) : p.map g = p := by
  match p with
  | .test constraint => rw [map, h constraint (List.mem_singleton_self _)]
  | .all parts | .any parts => rw [map, map_list_eq_self parts h]
  | .not inner => rw [map, map_eq_self inner h]

/-- Predicates whose constraints stay stay as they are. -/
theorem map_list_eq_self (ps : List Predicate) (h : ∀ c ∈ constraintsOf ps, g c = c) :
    mapList g ps = ps := by
  match ps with
  | [] => rfl
  | p :: ps =>
      rw [mapList, map_eq_self p fun c hc => h c (List.mem_append_left _ hc),
        map_list_eq_self ps fun c hc => h c (List.mem_append_right _ hc)]

end

mutual

/-- A predicate whose constraints keep their truth keeps its own. -/
theorem eval_map (row : Row) (p : Predicate) (h : ∀ c ∈ p.constraints, (g c).eval row = c.eval row) :
    (p.map g).eval row = p.eval row := by
  match p with
  | .test constraint => exact h constraint (List.mem_singleton_self _)
  | .all parts =>
      rw [map, eval, eval]
      exact (eval_map_list row parts h).1
  | .any parts =>
      rw [map, eval, eval]
      exact (eval_map_list row parts h).2
  | .not inner => rw [map, eval, eval, eval_map row inner h]

/-- Predicates whose constraints keep their truth keep that of their conjunction and of their
disjunction. -/
theorem eval_map_list (row : Row) (ps : List Predicate)
    (h : ∀ c ∈ constraintsOf ps, (g c).eval row = c.eval row) :
    evalAll row (mapList g ps) = evalAll row ps ∧ evalAny row (mapList g ps) = evalAny row ps := by
  match ps with
  | [] => exact ⟨rfl, rfl⟩
  | p :: ps =>
      have hfirst := eval_map row p fun c hc => h c (List.mem_append_left _ hc)
      obtain ⟨hall, hany⟩ := eval_map_list row ps fun c hc => h c (List.mem_append_right _ hc)
      rw [mapList, evalAll, evalAll, evalAny, evalAny, hfirst, hall, hany]
      exact ⟨rfl, rfl⟩

end

/-- The conjunction of mapped parts, if there are any. -/
theorem map_all_of_opt (parts : List Predicate) :
    (allOf? parts).map (map g) = allOf? (parts.map (map g)) := by
  cases parts with
  | nil => rfl
  | cons p parts => exact congrArg some (map_all_of (p :: parts))

/-- The disjunction of mapped parts, if there are any. -/
theorem map_any_of_opt (parts : List Predicate) :
    (anyOf? parts).map (map g) = anyOf? (parts.map (map g)) := by
  cases parts with
  | nil => rfl
  | cons p parts => exact congrArg some (map_any_of (p :: parts))

end Predicate

/-! ## Readings that agree under a map -/

section

variable (g : Constraint → Constraint)

/-- Symbols that play the same part, with terms that mean the same under a map. -/
inductive Symbol.Agrees : Symbol → Symbol → Prop where
  | refl (symbol : Symbol) : Agrees symbol symbol
  | term {text other : String}
      (h : (buildTerm text).map (Predicate.map g) = (buildTerm other).map (Predicate.map g)) :
      Agrees (.term text) (.term other)

namespace QueryTree

/-- Levels whose items and groups mean the same under a map. -/
structure Level.Agrees (level other : Level) : Prop where
  items : (itemMeanings level.items).map (Predicate.map g) =
    (itemMeanings other.items).map (Predicate.map g)
  groups : (groupMeanings level.groups).map (Predicate.map g) =
    (groupMeanings other.groups).map (Predicate.map g)
  ended : level.ended = other.ended

/-- Enclosing levels of the same sign that mean the same under a map. -/
inductive EnclosingAgrees : Bool × Level → Bool × Level → Prop where
  | mk (negated : Bool) {level other : Level} (h : level.Agrees g other) :
      EnclosingAgrees (negated, level) (negated, other)

/-- Readings that have opened the same parentheses, with levels that mean the same under a map. -/
structure Reader.Agrees (reader other : Reader) : Prop where
  outer : List.Forall₂ (EnclosingAgrees g) reader.outer other.outer
  level : reader.level.Agrees g other.level
  skipped : reader.skipped = other.skipped

end QueryTree

end

namespace QueryTree

variable {g : Constraint → Constraint}

/-- Completing the open group adds what it means, if anything. -/
theorem group_meanings_close (level : Level) :
    groupMeanings level.close.groups =
      groupMeanings level.groups ++ (Predicate.anyOf? (itemMeanings level.items)).toList := by
  obtain ⟨groups, items, ended⟩ := level
  cases items with
  | nil => simp [Level.close, itemMeanings, Predicate.anyOf?]
  | cons item items =>
      have hclose : (Level.close ⟨groups, item :: items, ended⟩).groups = groups ++ [item :: items] := rfl
      rw [hclose, group_meanings_append, groupMeanings]
      cases itemMeanings (item :: items) <;> rfl

namespace Level.Agrees

variable {level other inner innerOther : Level}

/-- Levels of which nothing has been read. -/
theorem start : Agrees g .start .start :=
  ⟨rfl, rfl, rfl⟩

/-- An `or` keeps both groups open. -/
theorem join (h : level.Agrees g other) : level.join.Agrees g other.join :=
  ⟨h.items, h.groups, rfl⟩

/-- Both groups are completed. -/
theorem close (h : level.Agrees g other) : level.close.Agrees g other.close where
  items := by rw [items_close, items_close]
  groups := by
    have hopen : (Predicate.anyOf? (itemMeanings level.items)).toList.map (Predicate.map g) =
        (Predicate.anyOf? (itemMeanings other.items)).toList.map (Predicate.map g) := by
      rw [← Option.toList_map, ← Option.toList_map, Predicate.map_any_of_opt,
        Predicate.map_any_of_opt, h.items]
    rw [group_meanings_close, group_meanings_close, List.map_append, List.map_append, h.groups, hopen]
  ended := by rw [ended_close, ended_close]

/-- An item that has just ended completes both groups. -/
theorem settle (h : level.Agrees g other) : level.settle.Agrees g other.settle := by
  rw [Level.settle, Level.settle, h.ended]
  split
  · exact h.close
  · exact h

/-- Items that mean the same are added to both groups. -/
theorem push (h : level.Agrees g other) {item otherItem : QueryItem}
    (hitem : item.meaning?.map (Predicate.map g) = otherItem.meaning?.map (Predicate.map g)) :
    (level.push item).Agrees g (other.push otherItem) where
  items := by
    have hadded : (itemMeanings [item]).map (Predicate.map g) =
        (itemMeanings [otherItem]).map (Predicate.map g) := by
      simp only [itemMeanings, List.append_nil]
      rw [← Option.toList_map, ← Option.toList_map, hitem]
    rw [Level.push, Level.push, item_meanings_append, item_meanings_append, List.map_append,
      List.map_append, h.items, hadded]
  groups := h.groups
  ended := rfl

/-- Terms that mean the same are added to both groups. -/
theorem push_term (h : level.Agrees g other) {text otherText : String}
    (hterm : (buildTerm text).map (Predicate.map g) = (buildTerm otherText).map (Predicate.map g)) :
    (level.push (.term text)).Agrees g (other.push (.term otherText)) := by
  refine h.push ?_
  rw [term_meaning_eq, term_meaning_eq, hterm]

/-- The levels inside are added to both groups as nested queries. -/
theorem push_nested (h : level.Agrees g other) (hinner : inner.Agrees g innerOther) (negated : Bool) :
    (level.push (.nested negated inner.tree)).Agrees g
      (other.push (.nested negated innerOther.tree)) := by
  have hsign (p : Predicate) : (if negated then p.negate else p).map g =
      if negated then (p.map g).negate else p.map g := by
    cases negated with
    | true => exact Predicate.map_negate p
    | false => rfl
  have hmeaning (tree : QueryTree) : (QueryItem.nested negated tree).meaning?.map (Predicate.map g) =
      (Predicate.allOf? ((groupMeanings tree).map (Predicate.map g))).map fun p =>
        if negated then p.negate else p := by
    rw [nested_meaning_eq, tree_meaning_eq, ← group_meanings_eq_filter_map, Option.map_map,
      ← Predicate.map_all_of_opt, Option.map_map]
    exact Option.map_congr fun p _ => hsign p
  refine h.push ?_
  rw [hmeaning, hmeaning]
  exact congrArg _ (congrArg _ hinner.close.groups)

end Level.Agrees

namespace Reader.Agrees

variable {reader other : Reader}

/-- Readings that start. -/
theorem start : Agrees g .start .start :=
  ⟨.nil, .start, rfl⟩

/-- Symbols that agree take both readings to readings that agree, or neither is read. -/
theorem step (h : reader.Agrees g other) {symbol otherSymbol : Symbol}
    (hsymbol : symbol.Agrees g otherSymbol) :
    Option.Rel (Agrees g) (reader.step symbol) (other.step otherSymbol) := by
  obtain ⟨outer, level, skipped⟩ := reader
  obtain ⟨outer', level', skipped'⟩ := other
  obtain ⟨houter, hlevel, hskipped⟩ := h
  obtain rfl : skipped = skipped' := hskipped
  cases hsymbol with
  | term hterm => exact .some ⟨houter, hlevel.settle.push_term hterm, rfl⟩
  | refl symbol =>
      cases symbol with
      | term text => exact .some ⟨houter, hlevel.settle.push_term rfl, rfl⟩
      | orWord => exact .some ⟨houter, hlevel.join, rfl⟩
      | opening negated =>
          have hlength : outer.length = outer'.length := houter.length_eq
          rw [Reader.step, Reader.step]
          by_cases hlimit : outer'.length < maxDepth
          · simp only [hlength, hlimit, if_true]
            exact .some ⟨.cons (.mk negated hlevel.settle) houter, .start, rfl⟩
          · simp only [hlength, hlimit, if_false]
            exact .some ⟨houter, hlevel.settle, rfl⟩
      | closing =>
          cases skipped with
          | succ skipped => exact .some ⟨houter, hlevel.settle, rfl⟩
          | zero =>
              cases houter with
              | nil => exact .none
              | cons hfirst hrest =>
                  obtain ⟨negated, henclosing⟩ := hfirst
                  exact .some ⟨hrest, henclosing.push_nested hlevel negated, rfl⟩

/-- Queries that are still open at the end mean the same. -/
theorem close_all {level level' : Level} {outer outer' : List (Bool × Level)}
    (hlevel : level.Agrees g level') (houter : List.Forall₂ (EnclosingAgrees g) outer outer') :
    (groupMeanings (closeAll level outer)).map (Predicate.map g) =
      (groupMeanings (closeAll level' outer')).map (Predicate.map g) := by
  induction houter generalizing level level' with
  | nil => exact hlevel.close.groups
  | cons hfirst hrest ih =>
      obtain ⟨negated, henclosing⟩ := hfirst
      exact ih (henclosing.push_nested hlevel negated)

/-- Symbols that agree have parts that mean the same. -/
theorem parts {symbols others : List Symbol} (hsymbols : List.Forall₂ (Symbol.Agrees g) symbols others)
    (h : reader.Agrees g other) :
    ((reader.parts symbols).flatMap groupMeanings).map (Predicate.map g) =
      ((other.parts others).flatMap groupMeanings).map (Predicate.map g) := by
  induction hsymbols generalizing reader other with
  | nil =>
      have hlast (reader : Reader) : (reader.parts []).flatMap groupMeanings = groupMeanings reader.finish :=
        List.flatMap_singleton ..
      rw [hlast, hlast]
      exact close_all h.level h.outer
  | @cons symbol otherSymbol symbols others hsymbol _ ih =>
      have hstep := h.step hsymbol
      cases hread : reader.step symbol with
      | none =>
          rw [hread] at hstep
          cases hother : other.step otherSymbol with
          | some _ => rw [hother] at hstep; cases hstep
          | none =>
              rw [parts_of_step_eq_none hread, parts_of_step_eq_none hother, List.flatMap_cons,
                List.flatMap_cons, List.map_append, List.map_append, ih .start]
              exact congrArg (· ++ _) (close_all h.level h.outer)
      | some next =>
          rw [hread] at hstep
          cases hother : other.step otherSymbol with
          | none => rw [hother] at hstep; cases hstep
          | some nextOther =>
              rw [hother] at hstep
              obtain hnext : next.Agrees g nextOther := by
                cases hstep with
                | some hnext => exact hnext
              rw [parts_of_step_eq_some hread, parts_of_step_eq_some hother, ih hnext]

end Reader.Agrees

end QueryTree

/-- Queries whose symbols agree mean the same under a map. -/
theorem map_compile_eq {g : Constraint → Constraint} {query other : String}
    (h : List.Forall₂ (Symbol.Agrees g) (Symbol.ofTokens (tokenize query))
      (Symbol.ofTokens (tokenize other))) : (compile query).map g = (compile other).map g := by
  rw [compile_eq_all_of_groups, compile_eq_all_of_groups, Predicate.map_all_of, Predicate.map_all_of,
    QueryTree.read_all_eq_parts, QueryTree.read_all_eq_parts,
    QueryTree.Reader.Agrees.parts h .start]

end CardCatalog
