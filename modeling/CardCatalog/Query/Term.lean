import CardCatalog.Query.Comparison
import CardCatalog.Text.Ascii

/-!
# Terms

A term is a token that is neither a parenthesis nor `or`. It may be negated by a leading dash, and
the rest has one of three forms: a key of letters with a comparison and a value, a key and a value
with a colon between them, or a bare value.
-/

namespace CardCatalog

open CardCatalog.Text

/-- A token taken apart. A term without a key is a bare value; a key without a comparison was
written with a colon. -/
structure Term where
  key : Option String
  value : String
  comparison : Option Comparison
  negated : Bool
deriving DecidableEq

namespace Term

/-- The letters of a key in the comparison form: those of ASCII, and the two characters that fold
into one of them, the Kelvin sign and the long s. -/
def isKeyLetter (c : Char) : Bool :=
  isAsciiLetter c || c.toNat == 0x212A || c.toNat == 0x17F

/-- The comparison at the front of a text and the value after it, which is not empty: where the
longer symbol would leave nothing, the shorter one is taken. -/
def readComparison? (cs : List Char) : Option (Comparison × List Char) :=
  Comparison.longestFirst.findSome? fun comparison =>
    match comparison.strip? cs with
    | some (c :: value) => some (comparison, c :: value)
    | _ => none

/-- Take apart a body as a key of letters, a comparison and a value. -/
def compared? (body : List Char) : Option (String × Comparison × String) :=
  let key := body.takeWhile isKeyLetter
  if key.isEmpty then none
  else
    (readComparison? (body.dropWhile isKeyLetter)).map fun (comparison, value) =>
      (String.ofList key, comparison, String.ofList value)

/-- Take apart a body at its first colon, unless it starts with it. -/
def keyed? (body : List Char) : Option (String × String) :=
  let key := body.takeWhile (· != ':')
  match body.dropWhile (· != ':') with
  | [] => none
  | _ :: value => if key.isEmpty then none else some (String.ofList key, String.ofList value)

/-- Take apart a body: the part of a token after the dash that negates it. -/
def ofBody (negated : Bool) (body : List Char) : Term :=
  match compared? body with
  | some (key, comparison, value) => ⟨some key, value, some comparison, negated⟩
  | none =>
      match keyed? body with
      | some (key, value) => ⟨some key, value, none, negated⟩
      | none => ⟨none, String.ofList body, none, negated⟩

/-- Take a token apart. A dash negates the term unless it is the whole token. -/
def parse (token : String) : Term :=
  match token.toList with
  | '-' :: c :: rest => ofBody true (c :: rest)
  | body => ofBody false body

end Term

end CardCatalog
