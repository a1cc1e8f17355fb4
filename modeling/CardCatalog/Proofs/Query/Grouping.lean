import CardCatalog.Proofs.Query.Negation
import CardCatalog.Proofs.Query.NormalForm

/-!
# Superfluous parentheses

A query between parentheses is read as a single nested query, which means what it means on its own, negated
if there is a dash in front (`meaning_nested`). What a query means is in normal form, so the nodes that
composing it once more could add are none: the parentheses change nothing, and neither does a negation of
the negated query (`compile_grouped`).
-/

namespace CardCatalog

/-- The query between parentheses, with a dash in front to negate it. -/
def grouped (negated : Bool) (query : String) : String :=
  (if negated then "-(" else "(") ++ query ++ ")"

/-- A query between parentheses has its quotes closed if the query has. -/
theorem QuotesClosed.grouped {query : String} (h : QuotesClosed query) (negated : Bool) :
    QuotesClosed (grouped negated query) := by
  have hopening : QuotesClosed (if negated then "-(" else "(") := by cases negated <;> rfl
  exact (hopening.append h).append rfl

/-- The symbols of a query between parentheses are those of the query between a pair of their own. -/
theorem symbols_grouped {query : String} (h : QuotesClosed query) (negated : Bool) :
    Symbol.ofTokens (tokenize (grouped negated query)) =
      .opening negated :: (Symbol.ofTokens (tokenize query) ++ [.closing]) := by
  have hclosing : Symbol.ofTokens (tokenize query ++ [")"]) =
      Symbol.ofTokens (tokenize query) ++ [.closing] := Symbol.of_tokens_append (by simp)
  cases negated with
  | true =>
      have htokens : tokenize (grouped true query) = "-" :: "(" :: (tokenize query ++ [")"]) :=
        tokenize_negated h
      rw [htokens, Symbol.ofTokens, if_pos ⟨rfl, rfl⟩, hclosing]
  | false =>
      have htokens : tokenize (grouped false query) = "(" :: (tokenize query ++ [")"]) := by
        have hopening : tokenize ("(" ++ (query ++ ")")) = "(" :: tokenize (query ++ ")") := by
          rw [tokenize, String.toList_append]
          rfl
        rw [grouped, String.append_assoc]
        exact hopening.trans (congrArg _ (tokenize_append h rfl))
      rw [htokens, Symbol.of_tokens_cons (by simp), hclosing]
      rfl

namespace Symbol

/-- A closing parenthesis at the end closes one that is open before. -/
theorem ClosesParens.concat_closing {limit opened : Nat} {symbols : List Symbol}
    (h : ClosesParens limit opened symbols) :
    ClosesParens (limit + 1) (opened + 1) (symbols ++ [.closing]) := by
  induction symbols generalizing opened with
  | nil => exact ⟨Nat.succ_pos opened, h⟩
  | cons symbol rest ih =>
      cases symbol with
      | opening negated => exact ⟨Nat.succ_lt_succ h.1, ih h.2⟩
      | closing =>
          obtain ⟨hopened, hrest⟩ := h
          have hsucc : opened + 1 - 1 = opened - 1 + 1 := by omega
          refine ⟨Nat.succ_pos opened, ?_⟩
          rw [hsucc]
          exact ih hrest
      | orWord | term => exact ih h

/-- Balanced symbols between parentheses are balanced, one level deeper. -/
theorem ClosesParens.nested {limit : Nat} {symbols : List Symbol} (h : ClosesParens limit 0 symbols)
    (negated : Bool) : ClosesParens (limit + 1) 0 (.opening negated :: (symbols ++ [.closing])) :=
  ⟨Nat.succ_pos limit, h.concat_closing⟩

end Symbol

/-- A query that is a single nested query means what the nested query means, negated if it is marked so. -/
theorem meaning_nested (negated : Bool) (tree : QueryTree) :
    QueryTree.meaning? [[.nested negated tree]] =
      tree.meaning?.map fun p => if negated then p.negate else p := by
  have hitem := nested_meaning_eq negated tree
  rw [tree_meaning_eq, List.filterMap_cons, QueryTree.groupMeaning?, List.filterMap_cons, hitem]
  cases hmeaning : tree.meaning? with
  | none => rfl
  | some p =>
      have hnormal : (if negated then p.negate else p).IsNormal := by
        have hp := is_normal_of_meaning hmeaning
        cases negated with
        | true => exact hp.negate
        | false => exact hp
      have hgroup := hnormal.any_of_singleton
      have htree := hnormal.all_of_singleton
      simp only [Option.map_some, List.filterMap_nil, Predicate.anyOf?, Predicate.allOf?, hgroup, htree]

/-- Two negations of what a query means leave it as it is. -/
theorem negate_negate_meaning (tree : QueryTree) :
    (tree.meaning?.map Predicate.negate).map Predicate.negate = tree.meaning? := by
  cases hmeaning : tree.meaning? with
  | none => rfl
  | some p =>
      rw [Option.map_some, Option.map_some, (is_normal_of_meaning hmeaning).negate_negate]

/-- Parentheses around a balanced query within the depth limit change nothing, nor does the negation of
the negated query. -/
theorem compile_grouped {query : String} (hquotes : QuotesClosed query) :
    (ParensBalanced (QueryTree.maxDepth - 1) (tokenize query) →
      compile ("(" ++ query ++ ")") = compile query) ∧
    (ParensBalanced (QueryTree.maxDepth - 2) (tokenize query) →
      compile ("-(-(" ++ query ++ "))") = compile query) := by
  constructor
  · intro hparens
    obtain ⟨tree, hread, hnested⟩ :=
      QueryTree.run_balanced (Symbol.closes_parens_of_tokens hparens) (by decide) false
    rw [← symbols_grouped hquotes] at hnested
    have hmeaning : QueryTree.meaning? [[.nested false tree]] = tree.meaning? := by
      simp [meaning_nested]
    have hcompile : compile ("(" ++ query ++ ")") = _ := compile_of_read_part hnested
    rw [hcompile, compile_of_read_part hread, hmeaning]
  · intro hparens
    have hclosed := Symbol.closes_parens_of_tokens hparens
    obtain ⟨tree, hread, hnested⟩ := QueryTree.run_balanced hclosed (by decide) true
    obtain ⟨negation, hnegation, hdouble⟩ :=
      QueryTree.run_balanced (hclosed.nested true) (by decide) true
    -- The negated query is read as one nested query, in whichever query it stands.
    obtain rfl : [[.nested true tree]] = negation := congrArg Prod.fst (hnested.symm.trans hnegation)
    rw [← symbols_grouped hquotes, ← symbols_grouped (hquotes.grouped true)] at hdouble
    have htext : "-(-(" ++ query ++ "))" = grouped true (grouped true query) :=
      String.toList_inj.1 (by simp [grouped, String.toList_append])
    have hmeaning : QueryTree.meaning? [[.nested true [[.nested true tree]]]] = tree.meaning? := by
      rw [meaning_nested, meaning_nested]
      exact negate_negate_meaning tree
    rw [htext, compile_of_read_part hdouble, compile_of_read_part hread, hmeaning]

/-- A query with a dropped term and a negated group means the same between parentheses and negated twice. -/
theorem compile_grouped_alternatives :
    QuotesClosed "zzz:1 -(t:elf (mv>2)) or o:draw" ∧
      ParensBalanced (QueryTree.maxDepth - 1) (tokenize "zzz:1 -(t:elf (mv>2)) or o:draw") ∧
      ParensBalanced (QueryTree.maxDepth - 2) (tokenize "zzz:1 -(t:elf (mv>2)) or o:draw") ∧
      compile ("(" ++ "zzz:1 -(t:elf (mv>2)) or o:draw" ++ ")") =
        compile "zzz:1 -(t:elf (mv>2)) or o:draw" ∧
      compile ("-(-(" ++ "zzz:1 -(t:elf (mv>2)) or o:draw" ++ "))") =
        .any [.not (.all [.test (.matchesPattern .typeLine "elf"),
          .test (.compare .manaValue .gt 2)]), .test (.matchesPattern .oracleText "draw")] := by
  have hquotes : QuotesClosed "zzz:1 -(t:elf (mv>2)) or o:draw" := by decide
  have hparens : ParensBalanced (QueryTree.maxDepth - 1)
      (tokenize "zzz:1 -(t:elf (mv>2)) or o:draw") := by decide
  have hdeeper : ParensBalanced (QueryTree.maxDepth - 2)
      (tokenize "zzz:1 -(t:elf (mv>2)) or o:draw") := by decide
  have hread : QueryTree.readPart (Symbol.ofTokens (tokenize "zzz:1 -(t:elf (mv>2)) or o:draw")) =
      ([[.term "zzz:1"], [.nested true [[.term "t:elf"], [.nested false [[.term "mv>2"]]]],
        .term "o:draw"]], []) := rfl
  obtain ⟨honce, htwice⟩ := compile_grouped hquotes
  exact ⟨hquotes, hparens, hdeeper, honce hparens,
    (htwice hdeeper).trans (compile_of_read_part hread)⟩

end CardCatalog
