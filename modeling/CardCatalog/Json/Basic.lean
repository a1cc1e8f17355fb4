import CardCatalog.Number.Shortest

/-!
# JSON values

A JSON value as a text holds it: object members stay in the order of the text and a key may
occur more than once. Some well-formed texts hold no value, such as a number beyond the range of
binary64 or an escape for half a surrogate pair; `Json.unusable` stands in their place, so that a
reader that passes over a member need not care, while one that wants its value can refuse.
-/

namespace CardCatalog

/-- A JSON number: an integer that was written without a fraction or an exponent and fits 64
bits, or a binary64 number. -/
inductive JsonNumber where
  | integer (value : Int)
  | real (value : Number.Binary64)
deriving DecidableEq

/-- The text of a JSON number. -/
def JsonNumber.text : JsonNumber → String
  | .integer value => Number.intText value
  | .real value => value.text

/-- A JSON value. `unusable` stands for well-formed text that holds no value. -/
inductive Json where
  | null
  | bool (value : Bool)
  | number (value : JsonNumber)
  | text (value : String)
  | array (items : List Json)
  | object (members : List (String × Json))
  | unusable

namespace Json

/-- An integer as a JSON value. -/
def ofInt (n : Int) : Json :=
  .number (.integer n)

/-- A text or nothing, as a JSON text or `null`. -/
def ofText? : Option String → Json
  | some s => .text s
  | none => .null

/-- A list of texts as a JSON array. -/
def ofTexts (texts : List String) : Json :=
  .array (texts.map .text)

mutual

/-- Every part of the value can be used. -/
def isUsable : Json → Bool
  | .unusable => false
  | .array items => itemsUsable items
  | .object members => membersUsable members
  | _ => true

/-- Every item can be used. -/
def itemsUsable : List Json → Bool
  | [] => true
  | item :: items => item.isUsable && itemsUsable items

/-- Every member can be used. -/
def membersUsable : List (String × Json) → Bool
  | [] => true
  | (_, value) :: members => value.isUsable && membersUsable members

end

/-- Insert a member into a list sorted by key. A member of the same key is replaced. -/
def insertMember (key : String) (value : Json) : List (String × Json) → List (String × Json)
  | [] => [(key, value)]
  | (other, kept) :: members =>
      if key = other then (key, value) :: members
      else if key < other then (key, value) :: (other, kept) :: members
      else (other, kept) :: insertMember key value members

mutual

/-- The value with the members of every object sorted by key, the last one of a key winning. -/
def normalize : Json → Json
  | .array items => .array (normalizeItems items)
  | .object members => .object (normalizeMembers [] members)
  | value => value

/-- Normalize every item. -/
def normalizeItems : List Json → List Json
  | [] => []
  | item :: items => item.normalize :: normalizeItems items

/-- Normalize the members and insert them, from first to last, into a sorted list. -/
def normalizeMembers (sorted : List (String × Json)) :
    List (String × Json) → List (String × Json)
  | [] => sorted
  | (key, value) :: members =>
      normalizeMembers (insertMember key value.normalize sorted) members

end

/-- The values of the members with this key, in order. -/
def valuesAt (members : List (String × Json)) (key : String) : List Json :=
  (members.filter fun member => member.1 == key).map (·.2)

/-- The value of a member of an object, or `null` when the object lacks it. -/
def member (value : Json) (key : String) : Json :=
  match value with
  | .object members => ((valuesAt members key).head?).getD .null
  | _ => .null

/-- The text, of a JSON text. -/
def asText? : Json → Option String
  | .text s => some s
  | _ => none

/-- The integer, of a JSON number that is one. -/
def asInt? : Json → Option Int
  | .number (.integer n) => some n
  | _ => none

/-- The truth value, of a JSON one. -/
def asBool? : Json → Option Bool
  | .bool b => some b
  | _ => none

/-- The items, of a JSON array. -/
def asArray? : Json → Option (List Json)
  | .array items => some items
  | _ => none

/-- The texts, of a JSON array of texts. -/
def asTexts? (value : Json) : Option (List String) := do
  (← value.asArray?).mapM asText?

/-- The 64-bit integer, of a JSON integer in range. -/
def asInt64? (value : Json) : Option Int64 := do
  let n ← value.asInt?
  if Int64.minValue.toInt ≤ n ∧ n ≤ Int64.maxValue.toInt then some (Int64.ofInt n) else none

/-- The unsigned 64-bit integer, of a JSON integer in range. -/
def asUInt64? (value : Json) : Option UInt64 := do
  let n ← value.asInt?
  if 0 ≤ n ∧ n < 0x10000000000000000 then some (UInt64.ofNat n.toNat) else none

end Json

end CardCatalog
