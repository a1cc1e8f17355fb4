import CardCatalog.Query.SearchKey
import CardCatalog.Query.Token
import CardCatalog.Query.Tree

/-!
# The predicate of a query

A term means the predicate of its token, a parenthesised query what it means itself, negated if it
is marked so, a group the disjunction of its items, and a query the conjunction of its groups. Items
that mean nothing are absent, and so are groups without a present item. `compile` never fails: a
query that means nothing matches every card.
-/

namespace CardCatalog

mutual

/-- What an item means, if anything. -/
def QueryItem.meaning? : QueryItem → Option Predicate
  | .term text => buildTerm text
  | .nested negated groups =>
      match groupMeanings groups with
      | [] => none
      | parts => some (if negated then (Predicate.allOf parts).negate else .allOf parts)

/-- What the items of a group mean, those that mean nothing left out. -/
def itemMeanings : List QueryItem → List Predicate
  | [] => []
  | item :: items => item.meaning?.toList ++ itemMeanings items

/-- What the groups of a query mean, those without a present item left out. -/
def groupMeanings : List (List QueryItem) → List Predicate
  | [] => []
  | items :: groups =>
      match itemMeanings items with
      | [] => groupMeanings groups
      | parts => .anyOf parts :: groupMeanings groups

end

/-- What a query means, if anything. -/
def QueryTree.meaning? (tree : QueryTree) : Option Predicate :=
  match groupMeanings tree with
  | [] => none
  | parts => some (.allOf parts)

/-- Read the tokens from a position on, up to a closing parenthesis that closes nothing or to the
end. The result is what they mean and the position where the reading stopped. -/
def parseExpression (tokens : List String) (start : Nat) : Option Predicate × Nat :=
  let symbols := Symbol.ofTokens (tokens.drop start)
  let (tree, unread) := QueryTree.readPart symbols
  let read := symbols.take (symbols.length - unread.length)
  (tree.meaning?, start + Symbol.totalWidth read)

/-- The predicate of a query. -/
def compile (query : String) : Predicate :=
  .allOf ((QueryTree.readAll (Symbol.ofTokens (tokenize query))).filterMap QueryTree.meaning?)

end CardCatalog
