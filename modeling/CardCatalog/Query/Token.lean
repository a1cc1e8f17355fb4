import CardCatalog.Text.WhiteSpace

/-!
# Tokens of a query

A query falls into tokens at white space. Each parenthesis is a token of its own. Quoted runs
stay within one token and lose their quotes; either kind of quote is an ordinary character inside
the other, and a quote that is never closed runs to the end.
-/

namespace CardCatalog

open CardCatalog.Text

namespace Token

/-- The characters that open and close a quoted run. -/
def isQuote (c : Char) : Bool :=
  c == '\x22' || c == '\x27'

/-- The two parentheses. -/
def isParen (c : Char) : Bool :=
  c == '(' || c == ')'

/-- Put a token in front of others, unless it is empty. -/
def flush (token : List Char) (others : List (List Char)) : List (List Char) :=
  if token.isEmpty then others else token :: others

/-- Split a text, given the quote that is open, if any: the characters that still belong to the token
that is being read, and the tokens after it. -/
def scan (quote : Option Char) : List Char → List Char × List (List Char)
  | [] => ([], [])
  | c :: rest =>
      match quote with
      | some q =>
          if c = q then scan none rest
          else
            let (token, others) := scan quote rest
            (c :: token, others)
      | none =>
          if isQuote c then scan (some c) rest
          else
            let (token, others) := scan none rest
            if isParen c then ([], [c] :: flush token others)
            else if isWhiteSpace c then ([], flush token others)
            else (c :: token, others)

/-- The tokens of a text, given the quote that is open at its start, if any. -/
def split (quote : Option Char) (cs : List Char) : List (List Char) :=
  flush (scan quote cs).1 (scan quote cs).2

end Token

/-- The tokens of a query, none of them empty. -/
def tokenize (query : String) : List String :=
  (Token.split none query.toList).map String.ofList

end CardCatalog
