import CardCatalog.Catalog.Row
import CardCatalog.Query.Color

/-!
# The stored row of a card

A list of color codes comes back from the database as it was handed over (`stored_codes`). A card
whose color lists hold color codes can therefore be stored, and `CardRecord.row` is the row that it
makes.
-/

namespace CardCatalog

open CardCatalog.Text

namespace ColorList

/-- Every entry is the code of a color. -/
def AreCodes (entries : List String) : Prop :=
  ∀ entry ∈ entries, entry ∈ Color.all.map Color.code

instance (entries : List String) : Decidable (AreCodes entries) :=
  inferInstanceAs (Decidable (∀ entry ∈ entries, entry ∈ Color.all.map Color.code))

/-- What stands after the first entry of a list, up to the bracket that ends it. -/
def tailText (entries : List String) : List Char :=
  entries.flatMap (fun entry => ',' :: ' ' :: entry.toList) ++ [']']

/-- A comma and a space stand before each of the further entries. -/
theorem tail_text_cons (entry : String) (entries : List String) :
    tailText (entry :: entries) = ',' :: ' ' :: (entry.toList ++ tailText entries) := by
  simp [tailText]

/-- The text of a list, after its opening bracket: the first entry, and what stands after it. -/
theorem write_cons (entry : String) (entries : List String) :
    (write (entry :: entries)).toList = '[' :: (entry.toList ++ tailText entries) := by
  have hentries : ∀ entry : String, (String.intercalate ", " (entry :: entries)).toList ++ [']'] =
      entry.toList ++ tailText entries := by
    induction entries with
    | nil => intro entry; rw [String.intercalate_singleton]; rfl
    | cons next entries ih =>
        intro entry
        rw [String.intercalate_cons_cons, String.toList_append, String.toList_append,
          List.append_assoc, List.append_assoc, ih next, tail_text_cons]
        rfl
  rw [write, String.toList_append, String.toList_append, List.append_assoc]
  exact congrArg ('[' :: ·) (hentries entry)

/-- A code adds its letter to the entry that is being read. -/
theorem split_code {code : String} (h : code ∈ Color.all.map Color.code) (current rest : List Char) :
    split none 0 false current (code.toList ++ rest) =
      split none 0 false (current ++ code.toList) rest := by
  obtain ⟨color, _, rfl⟩ := List.mem_map.1 h
  cases color <;> rfl

/-- The entries after the first one are split off, each with the space before it. -/
theorem split_tail_text {entries : List String} (h : AreCodes entries) (current : List Char) :
    split none 0 false current (tailText entries) =
      some (current :: entries.map fun entry => ' ' :: entry.toList) := by
  induction entries generalizing current with
  | nil => rfl
  | cons entry entries ih =>
      have hcomma : split none 0 false current (tailText (entry :: entries)) =
          (split none 0 false [' '] (entry.toList ++ tailText entries)).map (current :: ·) := by
        rw [tail_text_cons]
        rfl
      have hrest : AreCodes entries := fun other hother => h other (List.mem_cons_of_mem _ hother)
      rw [hcomma, split_code (h entry (List.mem_cons_self ..)), ih hrest]
      rfl

/-- A code is the value of the entry that holds it, whether or not a space stands before it. -/
theorem entry_value_code {code : String} (h : code ∈ Color.all.map Color.code) :
    entryValue (trimEntry code.toList) = some code ∧
      entryValue (trimEntry (' ' :: code.toList)) = some code := by
  obtain ⟨color, _, rfl⟩ := List.mem_map.1 h
  cases color <;> exact ⟨rfl, rfl⟩

/-- Color codes are stored as they are. -/
theorem stored_codes {entries : List String} (h : AreCodes entries) :
    stored? entries = some (entries.map some) := by
  cases entries with
  | nil => rfl
  | cons entry entries =>
      have hentry := h entry (List.mem_cons_self ..)
      have hrest : AreCodes entries := fun other hother => h other (List.mem_cons_of_mem _ hother)
      have hsplit : split none 0 false [] (entry.toList ++ tailText entries) =
          some (entry.toList :: entries.map fun entry => ' ' :: entry.toList) := by
        rw [split_code hentry, split_tail_text hrest]
        rfl
      have hvalues : (entries.map fun entry => ' ' :: entry.toList).map
          (fun cs => entryValue (trimEntry cs)) = entries.map some := by
        rw [List.map_map]
        exact List.map_congr_left fun other hother => (entry_value_code (hrest other hother)).2
      have hnonempty : trimEntry entry.toList ≠ [] := by
        obtain ⟨color, _, rfl⟩ := List.mem_map.1 hentry
        cases color <;> decide
      rw [stored?, read?, write_cons]
      simp only [hsplit, Option.map_some, List.map_cons]
      split
      · rename_i hblank
        injection hblank with hblank
        injection hblank with hblank
        exact absurd hblank hnonempty
      · rename_i hread
        obtain rfl := Option.some.inj hread
        rw [List.map_cons, (entry_value_code hentry).1, List.map_map]
        exact congrArg (fun values => some (some entry :: values)) hvalues
      · rename_i hread
        exact absurd hread (by simp)

end ColorList

namespace CardRecord

/-- The entries of both color lists are color codes. -/
def HasColorCodes (card : CardRecord) : Prop :=
  ColorList.AreCodes card.face.colors ∧ ColorList.AreCodes card.face.colorIdentity

instance (card : CardRecord) : Decidable card.HasColorCodes :=
  inferInstanceAs (Decidable (_ ∧ _))

/-- The row that a card makes: the set, the rarity, the layout and the language in lower case, and
the keywords joined. -/
def row (card : CardRecord) : Row where
  id := card.id
  name := card.face.name
  flavorName := card.face.flavorName
  colors := card.face.colors.map some
  colorIdentity := card.face.colorIdentity.map some
  typeLine := card.face.typeLine
  oracleText := card.face.oracleText
  manaValue := card.face.manaValue
  power := card.face.power
  toughness := card.face.toughness
  loyalty := card.face.loyalty
  set := toLower card.face.set
  rarity := toLower card.face.rarity
  keywords := String.intercalate ", " card.face.keywords
  layout := toLower card.face.layout
  lang := toLower card.face.lang

/-- A card whose color lists hold color codes is stored as its row. -/
theorem of_record_eq_row {card : CardRecord} (h : card.HasColorCodes) :
    Row.ofRecord? card = some card.row := by
  rw [Row.ofRecord?]
  simp only [ColorList.stored_codes h.1, ColorList.stored_codes h.2, Option.bind_eq_bind,
    Option.bind_some]
  rfl

/-- Cards whose color lists hold color codes are stored as their rows. -/
theorem map_m_of_record {cards : List CardRecord} (h : ∀ card ∈ cards, card.HasColorCodes) :
    cards.mapM Row.ofRecord? = some (cards.map row) := by
  induction cards with
  | nil => rfl
  | cons card cards ih =>
      rw [List.mapM_cons, of_record_eq_row (h card (List.mem_cons_self ..)),
        ih fun other hother => h other (List.mem_cons_of_mem _ hother)]
      rfl

end CardRecord

end CardCatalog
