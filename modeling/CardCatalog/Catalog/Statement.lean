import CardCatalog.Catalog.SortOrder
import CardCatalog.Query.Condition

/-!
# The statement of a search

A search hands the database one statement: the columns of a summary, the condition of the predicate,
the keys of the order and the limit. `Catalog.search?` says what the database answers.
-/

namespace CardCatalog

open CardCatalog.Number

/-- Where a new line of a statement starts. -/
def statementLine : String :=
  "\n            "

/-- The statement up to its condition. -/
def statementOpening : String :=
  statementLine ++
    "SELECT id::VARCHAR, name, set_code, rarity, type_line, mana_value, power, toughness" ++
    statementLine ++ "FROM cards" ++ statementLine ++ "WHERE "

/-- The limit at the end of a statement, if there is one. -/
def limitText : Option Nat → String
  | none => ""
  | some limit => "LIMIT " ++ natText limit

/-- The statement of a search. -/
def searchStatement (predicate : Predicate) (order : SortOrder) (limit : Option Nat) : String :=
  statementOpening ++ predicate.condition ++ statementLine ++ "ORDER BY " ++ order.keysText ++
    statementLine ++ limitText limit

end CardCatalog
