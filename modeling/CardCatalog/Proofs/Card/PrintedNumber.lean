import CardCatalog.Proofs.Card.Encoding
import CardCatalog.Proofs.Json.Literal

/-!
# Printed numbers of cards

Mana value, power, toughness and loyalty are kept as texts. A card object is read with the text that is
kept of the value at such a number's key, and otherwise as with `null` there (`of_json_put`).
-/

namespace CardCatalog

open CardCatalog.Number

/-- The numbers that a card may print. -/
inductive PrintedNumber where
  | manaValue
  | power
  | toughness
  | loyalty

namespace PrintedNumber

/-- The keys that a card object may have the number under. -/
def keys : PrintedNumber → List String
  | manaValue => ["cmc", "mana_value"]
  | power => ["power"]
  | toughness => ["toughness"]
  | loyalty => ["loyalty"]

/-- The card with a text for the number. -/
def put (number : PrintedNumber) (text : String) (card : CardRecord) : CardRecord :=
  match number with
  | manaValue => { card with face := { card.face with manaValue := some text } }
  | power => { card with face := { card.face with power := some text } }
  | toughness => { card with face := { card.face with toughness := some text } }
  | loyalty => { card with face := { card.face with loyalty := some text } }

/-- The text of the number. -/
def get? (number : PrintedNumber) (card : CardRecord) : Option String :=
  match number with
  | manaValue => card.face.manaValue
  | power => card.face.power
  | toughness => card.face.toughness
  | loyalty => card.face.loyalty

/-- The text that has been put is there. -/
theorem get_put (number : PrintedNumber) (text : String) (card : CardRecord) :
    number.get? (number.put text card) = some text := by
  cases number <;> rfl

/-- The values of a card with a value for the number. -/
def putValue (number : PrintedNumber) (value : Json) (values : CardRecord.Values) : CardRecord.Values :=
  match number with
  | manaValue => { values with manaValue := some value }
  | power => { values with power := some value }
  | toughness => { values with toughness := some value }
  | loyalty => { values with loyalty := some value }

end PrintedNumber

namespace CardRecord

variable {key : String} {keys : List String}

/-- The value under other keys does not depend on that of a member. -/
theorem single_of_not_mem (h : key ∉ keys) (before after : List (String × Json)) (value other : Json) :
    single? (before ++ (key, value) :: after) keys = single? (before ++ (key, other) :: after) keys := by
  have hkey : keys.contains key = false := by simpa using h
  simp only [single?, List.filter_append, List.filter_cons, hkey]
  rfl

/-- The value under its keys is that of a member, if it is the only one with any of them. -/
theorem single_of_mem (h : key ∈ keys) (before after : List (String × Json)) (value other : Json) :
    single? (before ++ (key, value) :: after) keys =
      (single? (before ++ (key, other) :: after) keys).map fun _ => some value := by
  have hkey : keys.contains key = true := by simpa using h
  simp only [single?, List.filter_append, List.filter_cons, hkey, if_true]
  cases before.filter (fun member => keys.contains member.1) with
  | nil => cases after.filter (fun member => keys.contains member.1) <;> rfl
  | cons member members => cases members <;> rfl

/-- A step that does not depend on a change goes on with it. -/
theorem bind_eq_map_bind {α β : Type} {x : Option α} {f g : α → Option β} {change : β → β}
    (h : ∀ a, f a = (g a).map change) : x >>= f = (x >>= g).map change := by
  cases x with
  | none => rfl
  | some a => exact h a

/-- A step whose result is changed goes on with the change. -/
theorem map_bind_eq_map_bind {α β : Type} {x : Option α} {f g : α → Option β} {change : β → β} {b : α}
    (h : ∀ a, f b = (g a).map change) : x.map (fun _ => b) >>= f = (x >>= g).map change := by
  cases x with
  | none => rfl
  | some a => exact h a

/-- The values of a card object, with another value for a printed number. -/
theorem values_of_members_put {number : PrintedNumber} (hkey : key ∈ number.keys)
    (before after : List (String × Json)) (value other : Json) :
    valuesOfMembers? (before ++ (key, value) :: after) =
      (valuesOfMembers? (before ++ (key, other) :: after)).map (number.putValue value) := by
  have hsame (keys : List String) (h : key ∉ keys) := single_of_not_mem h before after value other
  have hput := single_of_mem hkey before after value other
  cases number
  case' manaValue =>
    simp only [PrintedNumber.keys, List.mem_cons, List.not_mem_nil, or_false] at hkey hput
    rcases hkey with rfl | rfl
  case' power | toughness | loyalty =>
    obtain rfl := List.mem_singleton.1 hkey
    simp only [PrintedNumber.keys] at hput
  -- The values are looked up one after the other, and one look-up differs.
  all_goals
    simp (disch := decide) only [valuesOfMembers?, hsame, hput]
    repeat first
      | refine map_bind_eq_map_bind fun _ => ?_
      | refine bind_eq_map_bind fun _ => ?_
    rfl

/-- A card with a value for a printed number is read with the text that is kept of the value, and
otherwise as with `null`. -/
theorem of_values_put (number : PrintedNumber) {value : Json} {text : String}
    (h : textOrNumber? value = some (some text)) (values : Values) :
    ofValues? (number.putValue value values) =
      (ofValues? (number.putValue .null values)).map (number.put text) := by
  have hput : orDefault textOrNumber? none (some value) =
      (orDefault textOrNumber? none (some .null)).map fun _ => some text := h
  cases number
  all_goals
    simp only [ofValues?, PrintedNumber.putValue, hput]
    repeat first
      | refine map_bind_eq_map_bind fun _ => ?_
      | refine bind_eq_map_bind fun _ => ?_
    rfl

/-- A card object with a value for a printed number is read with the text that is kept of the value, and
otherwise as with `null`. -/
theorem of_json_put {number : PrintedNumber} (hkey : key ∈ number.keys) {value : Json} {text : String}
    (h : textOrNumber? value = some (some text)) (before after : List (String × Json)) :
    ofJson? (.object (before ++ (key, value) :: after)) =
      (ofJson? (.object (before ++ (key, .null) :: after))).map (number.put text) := by
  have hvalue := values_of_members_put hkey before after value .null
  have hnull := values_of_members_put hkey before after .null .null
  rw [ofJson?, ofJson?, hvalue]
  cases hread : valuesOfMembers? (before ++ (key, .null) :: after) with
  | none => rfl
  | some values =>
      have hsame : number.putValue .null values = values := by
        rw [hread] at hnull
        exact (Option.some.inj hnull).symm
      calc ofValues? (number.putValue value values)
          = (ofValues? (number.putValue .null values)).map (number.put text) := of_values_put number h values
        _ = (ofValues? values).map (number.put text) := by rw [hsame]

end CardRecord

end CardCatalog
