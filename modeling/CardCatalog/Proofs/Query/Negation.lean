import CardCatalog.Proofs.Card.Id
import CardCatalog.Proofs.Catalog.Evaluate
import CardCatalog.Proofs.Pattern.Literal
import CardCatalog.Proofs.Query.Balance
import CardCatalog.Proofs.Query.Leaves
import CardCatalog.Proofs.Query.Token

/-!
# Negated queries

No compiled predicate is unknown for a stored card: its patterns can be read and it divides by two
only (`compile_decided`). A query between parentheses with a dash in front is therefore the exact
complement of the query: every card is found by one of the two and not by the other
(`selects_negated_query`).
-/

namespace CardCatalog

open CardCatalog.Text

/-- A constraint that suits its field is decided for every row. -/
theorem Constraint.IsSearch.decided {constraint : Constraint} (h : constraint.IsSearch) (row : Row) :
    constraint.eval row ≠ .unknown := by
  cases constraint with
  | matchesPattern field pattern =>
      obtain ⟨_, text, rfl⟩ := h
      rw [eval, Pattern.parse_escape]
      exact Truth.of_bool_ne_unknown _
  | noColors field =>
      rw [eval]
      split <;> exact Truth.of_bool_ne_unknown _
  | modulo field divisor remainder =>
      obtain ⟨_, rfl, _⟩ := h
      rw [eval, if_neg (by decide)]
      exact Truth.of_bool_ne_unknown _
  | equals | oneOf | colorsInclude | colorsWithin | colorsExactly | compare =>
      exact Truth.of_bool_ne_unknown _

/-- The predicate of a query is decided for every row. -/
theorem compile_decided (query : String) (row : Row) : (compile query).eval row ≠ .unknown :=
  (compile query).eval_ne_unknown row fun constraint hmem =>
    (compile_constraints query constraint hmem).decided row

/-- A query that is read as a whole means what its tree means. -/
theorem compile_of_read_part {query : String} {tree : QueryTree}
    (h : QueryTree.readPart (Symbol.ofTokens (tokenize query)) = (tree, [])) :
    compile query = .allOf tree.meaning?.toList := by
  rw [compile, QueryTree.read_all_of_read_part h]
  cases hmeaning : tree.meaning? with
  | none => rw [List.filterMap_cons_none hmeaning]; rfl
  | some p => rw [List.filterMap_cons_some hmeaning]; rfl

/-- A query that is a single nested query, negated, has the negated truth of the nested query, if that
means anything. -/
theorem eval_nested_negated {tree : QueryTree} (h : tree.meaning? ≠ none) (row : Row) :
    (Predicate.allOf (QueryTree.meaning? [[.nested true tree]]).toList).eval row =
      ((Predicate.allOf tree.meaning?.toList).eval row).not := by
  obtain ⟨p, hp⟩ := Option.ne_none_iff_exists'.1 h
  have hitem : (QueryItem.nested true tree).meaning? = some p.negate := by
    rw [nested_meaning_eq, hp]
    rfl
  have hgroup : QueryTree.groupMeaning? [.nested true tree] = some (.anyOf [p.negate]) := by
    rw [QueryTree.groupMeaning?, List.filterMap_cons_some hitem]
    rfl
  have htree : QueryTree.meaning? [[.nested true tree]] =
      some (.allOf [.anyOf [p.negate]]) := by
    rw [tree_meaning_eq, List.filterMap_cons_some hgroup]
    rfl
  rw [htree, hp]
  simp only [Option.toList_some, Predicate.eval_all_of, Predicate.eval_any_of,
    Predicate.eval_negate, Predicate.evalAll, Predicate.evalAny, Truth.and_yes, Truth.or_no]

/-- The negation of a query has the negated truth of the query. -/
theorem eval_negated_query {query : String} (hquotes : QuotesClosed query)
    (hparens : ParensBalanced (QueryTree.maxDepth - 1) (tokenize query))
    (hquery : compile query ≠ .matchAll) (row : Row) :
    (compile ("-(" ++ query ++ ")")).eval row = ((compile query).eval row).not := by
  obtain ⟨tree, hread, hnested⟩ :=
    QueryTree.run_balanced (Symbol.closes_parens_of_tokens hparens) (by decide) true
  have hsymbols : Symbol.ofTokens (tokenize ("-(" ++ query ++ ")")) =
      .opening true :: (Symbol.ofTokens (tokenize query) ++ [.closing]) := by
    rw [tokenize_negated hquotes, Symbol.ofTokens, if_pos ⟨rfl, rfl⟩,
      Symbol.of_tokens_append (by simp)]
    rfl
  -- Dropped terms alone would leave nothing to negate, and both queries would match every card.
  have hmeaning : tree.meaning? ≠ none := by
    intro hnone
    rw [compile_of_read_part hread, hnone] at hquery
    exact hquery rfl
  rw [compile_of_read_part hread, compile_of_read_part (hsymbols ▸ hnested),
    eval_nested_negated hmeaning]

/-- The predicate of a query is never unknown; and a query whose quotes are closed, whose parentheses
are balanced below the depth limit, and that does not match every card anyhow, selects a card if and
only if its negation does not. -/
theorem selects_negated_query (query : String) (row : Row) :
    (compile query).eval row ≠ .unknown ∧
      (QuotesClosed query → ParensBalanced (QueryTree.maxDepth - 1) (tokenize query) →
        compile query ≠ .matchAll →
          (compile ("-(" ++ query ++ ")")).selects row = !(compile query).selects row) := by
  refine ⟨compile_decided query row, fun hquotes hparens hquery => ?_⟩
  rw [Predicate.selects, eval_negated_query hquotes hparens hquery,
    Truth.holds_not (compile_decided query row), Predicate.selects]

/-- A stored green elf of mana value one. -/
def llanowarElves : Row where
  id := .repeated 1
  name := "Llanowar Elves"
  flavorName := none
  colors := [some "G"]
  colorIdentity := [some "G"]
  typeLine := some "Creature — Elf Druid"
  oracleText := some "{T}: Add {G}."
  manaValue := some "1"
  power := some "1"
  toughness := some "1"
  loyalty := none
  set := "m19"
  rarity := "common"
  keywords := ""
  layout := "normal"
  lang := "en"

/-- A query with a nested negation selects the elves, and its negation does not. -/
theorem selects_negated_query_elves :
    QuotesClosed "t:elf -(o:draw or mv>2)" ∧
      ParensBalanced (QueryTree.maxDepth - 1) (tokenize "t:elf -(o:draw or mv>2)") ∧
      compile "t:elf -(o:draw or mv>2)" ≠ .matchAll ∧
      (compile "t:elf -(o:draw or mv>2)").selects llanowarElves = true ∧
      (compile ("-(" ++ "t:elf -(o:draw or mv>2)" ++ ")")).selects llanowarElves = false := by
  have hquotes : QuotesClosed "t:elf -(o:draw or mv>2)" := by decide
  have hparens : ParensBalanced (QueryTree.maxDepth - 1) (tokenize "t:elf -(o:draw or mv>2)") := by
    decide
  have hread : QueryTree.readPart (Symbol.ofTokens (tokenize "t:elf -(o:draw or mv>2)")) =
      ([[.term "t:elf"], [.nested true [[.term "o:draw", .term "mv>2"]]]], []) := rfl
  have hcompile : compile "t:elf -(o:draw or mv>2)" =
      .all [.test (.matchesPattern .typeLine "elf"),
        .not (.any [.test (.matchesPattern .oracleText "draw"),
          .test (.compare .manaValue .gt 2)])] := compile_of_read_part hread
  have hquery : compile "t:elf -(o:draw or mv>2)" ≠ .matchAll := by
    rw [hcompile]
    decide
  have hselects : (compile "t:elf -(o:draw or mv>2)").selects llanowarElves = true := by
    rw [hcompile]
    rfl
  refine ⟨hquotes, hparens, hquery, hselects, ?_⟩
  rw [(selects_negated_query _ llanowarElves).2 hquotes hparens hquery, hselects]
  rfl

end CardCatalog
