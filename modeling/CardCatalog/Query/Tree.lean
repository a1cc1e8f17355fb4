import CardCatalog.Text.Ascii

/-!
# Query trees

A query is a list of groups; a group is a list of items joined by `or`; an item is a term or a
query of its own between parentheses, which may be negated. `QueryTree.readAll` reads the tokens of
a query. It never fails: an `or` with nothing to join is passed over, a parenthesis that is never
closed ends with the query, and one that closes nothing ends a part of the query, with the next
part after it.

Nesting is limited to `maxDepth`. The parentheses beyond that depth are passed over, negated ones
with their dash, so their contents join the group that is open at the limit.
-/

namespace CardCatalog

open CardCatalog.Text

/-- An item of a query: a term, or a parenthesised query that may be negated. -/
inductive QueryItem where
  | term (text : String)
  | nested (negated : Bool) (groups : List (List QueryItem))

/-- A query: groups that all have to hold, each a list of alternatives. -/
abbrev QueryTree := List (List QueryItem)

/-- A token, or the two tokens of a negated opening parenthesis, by the part it plays. -/
inductive Symbol where
  | opening (negated : Bool)
  | closing
  | orWord
  | term (text : String)
deriving DecidableEq

namespace Symbol

/-- The token is the word `or`, in any ASCII case. -/
def isOr (token : String) : Bool :=
  eqIgnoringAsciiCase token "or"

/-- The part that a token plays on its own. -/
def ofToken (token : String) : Symbol :=
  if token = "(" then .opening false
  else if token = ")" then .closing
  else if isOr token then .orWord
  else .term token

/-- The symbols of a list of tokens. A lone dash directly before an opening parenthesis belongs to
it. -/
def ofTokens : List String → List Symbol
  | [] => []
  | [token] => [ofToken token]
  | token :: next :: rest =>
      if token = "-" ∧ next = "(" then .opening true :: ofTokens rest
      else ofToken token :: ofTokens (next :: rest)

/-- The number of tokens that a symbol stands for. -/
def width : Symbol → Nat
  | .opening true => 2
  | _ => 1

/-- The number of tokens that some symbols stand for. -/
def totalWidth : List Symbol → Nat
  | [] => 0
  | symbol :: symbols => symbol.width + totalWidth symbols

end Symbol

namespace QueryTree

/-- Parentheses may nest this deep; deeper ones are passed over. -/
def maxDepth : Nat :=
  64

/-- The reading of one query: the groups that are complete, the items of the group that is open,
and whether an item has just ended, in which case everything but an `or` completes the group. -/
structure Level where
  groups : QueryTree
  items : List QueryItem
  ended : Bool

namespace Level

/-- A query of which nothing has been read. -/
def start : Level :=
  ⟨[], [], false⟩

/-- Complete the open group. An empty group vanishes. -/
def close (level : Level) : Level :=
  if level.items.isEmpty then { level with ended := false }
  else ⟨level.groups ++ [level.items], [], false⟩

/-- What the next symbol finds, when it is not an `or`: an item that has just ended completes its
group. -/
def settle (level : Level) : Level :=
  if level.ended then level.close else level

/-- An `or` keeps the group open. -/
def join (level : Level) : Level :=
  { level with ended := false }

/-- Add an item to the open group. -/
def push (level : Level) (item : QueryItem) : Level :=
  ⟨level.groups, level.items ++ [item], true⟩

/-- The query that has been read. -/
def tree (level : Level) : QueryTree :=
  level.close.groups

end Level

/-- The reading of a query and of those around it. `outer` holds the enclosing queries, innermost
first, each with the sign of the query inside it; `skipped` counts the parentheses beyond the depth
limit that still await their closing ones. -/
structure Reader where
  outer : List (Bool × Level)
  level : Level
  skipped : Nat

namespace Reader

/-- The start of a reading. -/
def start : Reader :=
  ⟨[], .start, 0⟩

/-- Read one symbol. A closing parenthesis that closes nothing is not read. -/
def step (reader : Reader) : Symbol → Option Reader
  | .term text => some { reader with level := reader.level.settle.push (.term text) }
  | .orWord => some { reader with level := reader.level.join }
  | .opening negated =>
      let level := reader.level.settle
      if reader.outer.length < maxDepth then some ⟨(negated, level) :: reader.outer, .start, 0⟩
      else some ⟨reader.outer, level, reader.skipped + 1⟩
  | .closing =>
      match reader.skipped, reader.outer with
      | skipped + 1, outer => some ⟨outer, reader.level.settle, skipped⟩
      | 0, (negated, enclosing) :: outer =>
          some ⟨outer, enclosing.push (.nested negated reader.level.tree), 0⟩
      | 0, [] => none

/-- Close the queries that are still open, from the innermost outwards. -/
def closeAll (level : Level) : List (Bool × Level) → QueryTree
  | [] => level.tree
  | (negated, enclosing) :: outer => closeAll (enclosing.push (.nested negated level.tree)) outer

/-- The query that has been read when nothing follows. -/
def finish (reader : Reader) : QueryTree :=
  closeAll reader.level reader.outer

/-- Read symbols up to a closing parenthesis that closes nothing, and return the query together
with the symbols from that parenthesis on. -/
def run (reader : Reader) : List Symbol → QueryTree × List Symbol
  | [] => (reader.finish, [])
  | symbol :: rest =>
      match reader.step symbol with
      | some next => next.run rest
      | none => (reader.finish, symbol :: rest)

/-- What is left unread is no longer than what was to be read. -/
theorem length_run_le (reader : Reader) (symbols : List Symbol) :
    (reader.run symbols).2.length ≤ symbols.length := by
  induction symbols generalizing reader with
  | nil => simp [run]
  | cons symbol rest ih =>
      unfold run
      split
      · exact Nat.le_succ_of_le (ih _)
      · simp

end Reader

/-- Read one part of a query: up to a closing parenthesis that closes nothing. -/
def readPart (symbols : List Symbol) : QueryTree × List Symbol :=
  Reader.start.run symbols

/-- The parts of a query, between the closing parentheses that close nothing. -/
def readAll (symbols : List Symbol) : List QueryTree :=
  match unread : (readPart symbols).2 with
  | [] => [(readPart symbols).1]
  | _ :: rest =>
      have : rest.length < symbols.length := by
        have bound := Reader.length_run_le .start symbols
        unfold readPart at unread
        rw [unread] at bound
        exact bound
      (readPart symbols).1 :: readAll rest
termination_by symbols.length

end QueryTree

end CardCatalog
