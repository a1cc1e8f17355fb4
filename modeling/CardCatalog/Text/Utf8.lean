/-!
# Bytes shown as a text

Bytes that are no UTF-8 form of a text are shown with the replacement character in place of what is
malformed: one for each longest run of bytes that could still open a character, and one for each
other byte.
-/

namespace CardCatalog.Text

/-- What may follow the first byte of a character of several bytes, as a range a byte. No byte
follows one that opens no such character. -/
def continuations (first : UInt8) : List (UInt8 × UInt8) :=
  let any : UInt8 × UInt8 := (0x80, 0xBF)
  if first < 0xC2 then []
  else if first < 0xE0 then [any]
  else if first = 0xE0 then [(0xA0, 0xBF), any]
  else if first = 0xED then [(0x80, 0x9F), any]
  else if first < 0xF0 then [any, any]
  else if first = 0xF0 then [(0x90, 0xBF), any, any]
  else if first < 0xF4 then [any, any, any]
  else if first = 0xF4 then [(0x80, 0x8F), any, any]
  else []

/-- How many bytes lie in the ranges, one after the other. -/
def countWithin : List (UInt8 × UInt8) → List UInt8 → Nat
  | (least, greatest) :: ranges, byte :: bytes =>
      if least ≤ byte ∧ byte ≤ greatest then countWithin ranges bytes + 1 else 0
  | _, _ => 0

/-- The replacement character. -/
def replacement : String :=
  "\uFFFD"

/-- The text that shows bytes. -/
def shownBytes : List UInt8 → String
  | [] => ""
  | first :: rest =>
      let count := countWithin (continuations first) rest
      (String.fromUTF8? (first :: rest.take count).toByteArray).getD replacement ++
        shownBytes (rest.drop count)
termination_by bytes => bytes.length
decreasing_by
  rw [List.length_drop, List.length_cons]
  omega

end CardCatalog.Text
