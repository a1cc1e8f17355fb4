/-!
# Comparisons

The six comparisons of a search term, their symbols, and what they say of two integers.
-/

namespace CardCatalog

/-- A comparison between a field and a value. -/
inductive Comparison where
  | eq
  | ne
  | gt
  | lt
  | ge
  | le
deriving DecidableEq

namespace Comparison

/-- Every comparison. -/
def all : List Comparison :=
  [.eq, .ne, .gt, .lt, .ge, .le]

/-- The comparisons in the order in which their symbols are tried: the longer symbols first. -/
def longestFirst : List Comparison :=
  [.ge, .le, .ne, .gt, .lt, .eq]

/-- The symbol of a comparison. -/
def symbol : Comparison → String
  | .eq => "="
  | .ne => "!="
  | .gt => ">"
  | .lt => "<"
  | .ge => ">="
  | .le => "<="

/-- The comparison with this symbol. -/
def ofSymbol? (s : String) : Option Comparison :=
  all.find? fun comparison => comparison.symbol == s

/-- Two integers stand in the relation. -/
def holds (comparison : Comparison) (x y : Int) : Bool :=
  match comparison with
  | .eq => x == y
  | .ne => x != y
  | .gt => y < x
  | .lt => x < y
  | .ge => y ≤ x
  | .le => x ≤ y

/-- Remove a text from the front of another that starts with it. -/
def stripFront? : List Char → List Char → Option (List Char)
  | [], cs => some cs
  | _ :: _, [] => none
  | expected :: symbols, c :: cs => if expected = c then stripFront? symbols cs else none

/-- Remove the comparison's symbol from the front of a text. -/
def strip? (comparison : Comparison) (cs : List Char) : Option (List Char) :=
  stripFront? comparison.symbol.toList cs

/-- The comparison whose symbol stands at the front of a text, the longest one winning, and what
follows it. -/
def readFront? (cs : List Char) : Option (Comparison × List Char) :=
  longestFirst.findSome? fun comparison => (comparison.strip? cs).map (comparison, ·)

end Comparison

end CardCatalog
