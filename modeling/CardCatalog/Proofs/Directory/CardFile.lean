import CardCatalog.Directory.Files
import CardCatalog.Proofs.Card.Encoding

/-!
# Card files read back

The cards of a file are the ones that were written into it, in their order, whether the file is
compressed or not, and whether it holds their array alone or under `data` in an object
(`read_cards_written`).
-/

namespace CardCatalog

/-- What a file with a path holds when a text is written into it: the text, compressed where the name
says so. -/
def FileContents.named (path content : String) : FileContents :=
  if isCompressedName path then .gzip content else .text content

/-- Cards are read back from a file whose text holds them. -/
theorem read_named_contents {cards : List CardRecord} {content : String} {value : Json}
    (hvalue : value.HoldsCards cards) (hcontent : Json.parse? content = some value) (path : String) :
    readCards? path (.named path content) = some cards := by
  unfold readCards? FileContents.named
  split
  · simp [FileContents.decompress?, hcontent, hvalue.cards_of_json]
  · simp [FileContents.asText?, hcontent, hvalue.cards_of_json]

namespace Directory

/-- Cards are read back from a file that holds them, in an array or in an object beside any other
members. Their array is also read back from the text that is written for it, and every single card is,
so what was once read is read again after it has been written. -/
theorem read_cards_written :
    (∀ (cards : List CardRecord) (content : String) (value : Json), value.HoldsCards cards →
      Json.parse? content = some value → ∀ (directory : Directory) (path : String),
        directory.entry? path = some (.file (.named path content)) →
          directory.readCards path = .ok cards) ∧
      (∀ (cards : List CardRecord) (directory : Directory) (path : String),
        directory.entry? path =
            some (.file (.named path (CardRecord.listToJson cards).compact)) →
          directory.readCards path = .ok cards) ∧
      ∀ card : CardRecord, CardRecord.parse? card.toJson.compact = some card := by
  have hread (cards : List CardRecord) (content : String) (value : Json)
      (hvalue : value.HoldsCards cards) (hcontent : Json.parse? content = some value)
      (directory : Directory) (path : String)
      (hentry : directory.entry? path = some (.file (.named path content))) :
      directory.readCards path = .ok cards := by
    have hcards := read_named_contents hvalue hcontent path
    simp only [readCards, hentry, hcards]
  refine ⟨hread, fun cards directory path hentry => ?_, CardRecord.parse_card_text⟩
  have hcontent := Json.IsTextual.parse_compact (CardRecord.is_textual_list_to_json cards 124)
  exact hread cards _ _ .array hcontent directory path hentry

/-- A card with texts that have to be escaped. -/
def escapedCard : CardRecord :=
  ⟨.repeated 1, ((CardFace.minimal "\x22Rumors of My Death . . .\x22" "UST" "Uncommon").withTypeLine
    "Enchantment").withOracleText "3\\B, exile a permanent:\nReturn \x7b1\x7d."⟩

/-- The card in a list under `data`, after a note. -/
def notedCard : Json :=
  .object [("note", .text "a single card"), ("data", CardRecord.listToJson [escapedCard])]

/-- A directory whose only file is compressed and holds the card. -/
def withNotedCard : Directory :=
  { Directory.empty "/cards" with files := [("/tmp/silver.json.gz", .gzip notedCard.compact)] }

/-- The card is read back from the file. -/
theorem read_cards_written_noted :
    notedCard.HoldsCards [escapedCard] ∧ Json.parse? notedCard.compact = some notedCard ∧
      withNotedCard.entry? "/tmp/silver.json.gz" =
          some (.file (.named "/tmp/silver.json.gz" notedCard.compact)) ∧
      withNotedCard.readCards "/tmp/silver.json.gz" = .ok [escapedCard] := by
  have hcards : notedCard.HoldsCards [escapedCard] :=
    .data [_] [] (by simp [Json.isUsable])
  have htextual : Json.IsTextual Json.maxDepth notedCard := by
    have hlist := CardRecord.is_textual_list_to_json [escapedCard] 123
    simp [notedCard, Json.IsTextual, Json.maxDepth, hlist]
  have hparse := htextual.parse_compact
  have hentry : withNotedCard.entry? "/tmp/silver.json.gz" =
      some (.file (.named "/tmp/silver.json.gz" notedCard.compact)) := by
    rfl
  exact ⟨hcards, hparse, hentry, read_cards_written.1 _ _ _ hcards hparse _ _ hentry⟩

end Directory

end CardCatalog
