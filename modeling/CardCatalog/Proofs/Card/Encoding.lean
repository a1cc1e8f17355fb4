import CardCatalog.Card.File
import CardCatalog.Proofs.Card.Id
import CardCatalog.Proofs.Json.Text

/-!
# Cards read back from JSON

A card is read back from the object that is written for it, whatever its texts are
(`of_json_to_json`). A value holds a list of cards if it is their array or an object with that array
under `data`, and the cards are read back from it in their order (`HoldsCards.cards_of_json`). The text of
a card is read back too (`parse_card_text`).
-/

namespace CardCatalog

open CardCatalog.Text

namespace CardRecord

/-- A text that may be absent is read back. -/
theorem optional_text_of_text (s : Option String) : optionalText? (.ofText? s) = some s := by
  cases s <;> rfl

/-- The text of a printed number that may be absent is read back. -/
theorem text_or_number_of_text (s : Option String) : textOrNumber? (.ofText? s) = some s := by
  cases s <;> rfl

/-- The values of a card are found under the keys of its members. -/
theorem values_of_members (card : CardRecord) :
    valuesOfMembers? (("id", .text card.id.text) :: card.face.members) =
      some {
        id := some (.text card.id.text)
        name := some (.text card.face.name)
        flavorName := some (.ofText? card.face.flavorName)
        colors := some (.ofTexts card.face.colors)
        colorIdentity := some (.ofTexts card.face.colorIdentity)
        typeLine := some (.ofText? card.face.typeLine)
        oracleText := some (.ofText? card.face.oracleText)
        manaValue := some (.ofText? card.face.manaValue)
        power := some (.ofText? card.face.power)
        toughness := some (.ofText? card.face.toughness)
        loyalty := some (.ofText? card.face.loyalty)
        set := some (.text card.face.set)
        rarity := some (.text card.face.rarity)
        keywords := some (.ofTexts card.face.keywords)
        layout := some (.text card.face.layout)
        lang := some (.text card.face.lang) } := rfl

/-- A card is read back from its JSON value. -/
theorem of_json_to_json (card : CardRecord) : ofJson? card.toJson = some card := by
  have hid : Json.asText? (.text card.id.text) = some card.id.text := rfl
  rw [toJson, ofJson?, values_of_members, Option.bind_eq_bind, Option.bind_some]
  simp only [ofValues?, orDefault, optional_text_of_text, text_or_number_of_text,
    Json.as_texts_of_texts]
  -- Each value is passed on before the readings below it are looked at.
  simp only [↓Option.bind_eq_bind, ↓Option.bind_some]
  rw [hid, Option.bind_some, CardId.parse_text]
  rfl

/-- Cards are read back from their array. -/
theorem list_of_json_list_to_json (cards : List CardRecord) :
    listOfJson? (listToJson cards) = some cards :=
  map_m_map_eq_some toJson ofJson? of_json_to_json cards

/-- The JSON value of a card is made of texts, and of lists of texts. -/
theorem is_textual_to_json (card : CardRecord) (bound : Nat) :
    Json.IsTextual (bound + 2) card.toJson := by
  rw [toJson, CardFace.members]
  simp [Json.IsTextual]

/-- The array of cards is made of texts, too. -/
theorem is_textual_list_to_json (cards : List CardRecord) (bound : Nat) :
    Json.IsTextual (bound + 3) (listToJson cards) := by
  intro item hitem
  obtain ⟨card, _, rfl⟩ := List.mem_map.1 hitem
  exact is_textual_to_json card bound

/-- A card is read back from its text. -/
theorem parse_card_text (card : CardRecord) : parse? card.toJson.compact = some card := by
  have hvalue := Json.IsTextual.parse_compact (is_textual_to_json card 125)
  simp [parse?, hvalue, of_json_to_json]

end CardRecord

/-- The value holds a list of cards: it is their array, or an object with that array under `data` and
with anything else under other keys. -/
inductive Json.HoldsCards (cards : List CardRecord) : Json → Prop where
  | array : HoldsCards cards (CardRecord.listToJson cards)
  | data (before after : List (String × Json))
      (hothers : ∀ member ∈ before ++ after, member.1 ≠ "data" ∧ member.2.isUsable = true) :
      HoldsCards cards (.object (before ++ ("data", CardRecord.listToJson cards) :: after))

/-- Cards are read back from a value that holds them. -/
theorem Json.HoldsCards.cards_of_json {cards : List CardRecord} {value : Json} (h : value.HoldsCards cards) :
    cardsOfJson? value = some cards := by
  have hcards := CardRecord.list_of_json_list_to_json cards
  have harray := (CardRecord.is_textual_list_to_json cards 0).is_usable
  cases h with
  | array => simp only [cardsOfJson?, if_pos harray, hcards]
  | data before after hothers =>
      have husable : (Json.object (before ++ ("data", CardRecord.listToJson cards) :: after)).isUsable =
          true := by
        rw [Json.isUsable, Json.members_usable_eq_all, List.all_eq_true]
        intro member hmember
        rcases List.mem_append.1 hmember with hbefore | hafter
        · exact (hothers member (List.mem_append_left _ hbefore)).2
        · rcases List.mem_cons.1 hafter with rfl | hafter
          · exact harray
          · exact (hothers member (List.mem_append_right _ hafter)).2
      have hdata := values_at_of_once (fun member hmember => (hothers member hmember).1)
        (CardRecord.listToJson cards)
      have hobject : CardRecord.listOfJson?
          (.object (before ++ ("data", CardRecord.listToJson cards) :: after)) = none := rfl
      rw [cardsOfJson?, if_pos husable, hobject]
      simp only [hdata, hcards]

end CardCatalog
