/-!
# Escaped patterns

A pattern that matches a text literally: a backslash stands before every character that could
mean something else in a pattern.
-/

namespace CardCatalog.Text.Pattern

/-- The characters that take a backslash: those with a meaning in patterns, and those with one in
a character class or a commented pattern. -/
def special : List Char :=
  ['\\', '.', '+', '*', '?', '(', ')', '|', '[', ']', '\x7b', '\x7d', '^', '$', '#', '&', '-',
   '~']

/-- The characters of a pattern that matches one character. -/
def escapeChar (c : Char) : List Char :=
  if c ∈ special then ['\\', c] else [c]

/-- The pattern that matches a text literally. -/
def escape (s : String) : String :=
  String.ofList (s.toList.flatMap escapeChar)

end CardCatalog.Text.Pattern
