import CardCatalog.Catalog.Basic
import CardCatalog.Proofs.Card.Id
import CardCatalog.Proofs.Card.Stored
import Mathlib.Data.List.Dedup
import Mathlib.Data.List.Induction

/-!
# The last import of a card wins

Putting cards into an empty catalog one by one leaves the last version of each card, in the order in
which these were written (`rows_of_cards`). So every id that occurs has exactly one row, and that row
is made from the last card with the id.
-/

namespace CardCatalog

/-! ## Last versions -/

/-- The card is one of the list, and none after it has its id. -/
def IsLatest (cards : List CardRecord) (card : CardRecord) : Prop :=
  ∃ earlier later, cards = earlier ++ card :: later ∧ ∀ other ∈ later, other.id ≠ card.id

/-- The last card with each id, in the order of the list. -/
def lastVersions : List CardRecord → List CardRecord
  | [] => []
  | card :: cards =>
      if card.id ∈ cards.map CardRecord.id then lastVersions cards else card :: lastVersions cards

/-- A latest card is one of the list. -/
theorem IsLatest.mem {cards : List CardRecord} {card : CardRecord} (h : IsLatest cards card) :
    card ∈ cards := by
  obtain ⟨earlier, later, rfl, _⟩ := h
  simp

/-- The latest card of a list is its first one if no further one has its id, or a latest one of the
rest. -/
theorem is_latest_cons {first card : CardRecord} {cards : List CardRecord} :
    IsLatest (first :: cards) card ↔
      (card = first ∧ first.id ∉ cards.map CardRecord.id) ∨ IsLatest cards card := by
  constructor
  · rintro ⟨earlier, later, heq, hlater⟩
    cases earlier with
    | nil =>
        obtain ⟨rfl, rfl⟩ := List.cons.inj heq
        exact .inl ⟨rfl, by simpa using hlater⟩
    | cons _ earlier =>
        obtain ⟨rfl, rfl⟩ := List.cons.inj heq
        exact .inr ⟨earlier, later, rfl, hlater⟩
  · rintro (⟨rfl, hnew⟩ | ⟨earlier, later, rfl, hlater⟩)
    · exact ⟨[], cards, rfl, by simpa using hnew⟩
    · exact ⟨first :: earlier, later, rfl, hlater⟩

/-- The last versions are the latest cards. -/
theorem mem_last_versions {cards : List CardRecord} {card : CardRecord} :
    card ∈ lastVersions cards ↔ IsLatest cards card := by
  induction cards with
  | nil => exact ⟨fun h => absurd h (by simp [lastVersions]), fun h => absurd h.mem (by simp)⟩
  | cons first cards ih =>
      rw [is_latest_cons, lastVersions]
      split
      · rename_i hmem
        rw [ih]
        exact ⟨.inr, fun h => h.resolve_left fun hfirst => hfirst.2 hmem⟩
      · rename_i hnew
        rw [List.mem_cons, ih]
        exact or_congr ⟨fun h => ⟨h, hnew⟩, And.left⟩ Iff.rfl

/-- The ids of the last versions are the ids of the list, each once. -/
theorem map_id_last_versions (cards : List CardRecord) :
    (lastVersions cards).map CardRecord.id = (cards.map CardRecord.id).dedup := by
  induction cards with
  | nil => rfl
  | cons card cards ih =>
      rw [lastVersions, List.map_cons]
      split
      · rename_i hmem
        rw [ih, List.dedup_cons_of_mem hmem]
      · rename_i hnew
        rw [List.map_cons, ih, List.dedup_cons_of_notMem hnew]

/-- The last versions have different ids. -/
theorem nodup_last_versions (cards : List CardRecord) :
    ((lastVersions cards).map CardRecord.id).Nodup := by
  rw [map_id_last_versions]
  exact List.nodup_dedup _

/-- Every id that occurs has a latest card. -/
theorem exists_is_latest {cards : List CardRecord} {card : CardRecord} (h : card ∈ cards) :
    ∃ latest, IsLatest cards latest ∧ latest.id = card.id := by
  have hid : card.id ∈ (lastVersions cards).map CardRecord.id := by
    rw [map_id_last_versions, List.mem_dedup]
    exact List.mem_map_of_mem h
  obtain ⟨latest, hlatest, heq⟩ := List.mem_map.1 hid
  exact ⟨latest, mem_last_versions.1 hlatest, heq⟩

/-- An id has one latest card. -/
theorem IsLatest.unique {cards : List CardRecord} {card other : CardRecord}
    (hcard : IsLatest cards card) (hother : IsLatest cards other) (h : card.id = other.id) :
    card = other :=
  List.inj_on_of_nodup_map (nodup_last_versions cards) (mem_last_versions.2 hcard)
    (mem_last_versions.2 hother) h

/-- The latest cards of two lists are those of the second, and those of the first whose ids the second
lacks. -/
theorem is_latest_append {cards more : List CardRecord} {card : CardRecord} :
    IsLatest (cards ++ more) card ↔
      IsLatest more card ∨ (IsLatest cards card ∧ card.id ∉ more.map CardRecord.id) := by
  induction cards with
  | nil =>
      have hnone : ¬IsLatest [] card := fun h => absurd h.mem (by simp)
      simp [hnone]
  | cons first cards ih =>
      rw [List.cons_append, is_latest_cons, ih, is_latest_cons, List.map_append, List.mem_append]
      constructor
      · rintro (⟨rfl, hnew⟩ | hmore | hcards)
        · exact .inr ⟨.inl ⟨rfl, fun h => hnew (.inl h)⟩, fun h => hnew (.inr h)⟩
        · exact .inl hmore
        · exact .inr ⟨.inr hcards.1, hcards.2⟩
      · rintro (hmore | ⟨⟨rfl, hnew⟩ | hcards, hlater⟩)
        · exact .inr (.inl hmore)
        · exact .inl ⟨rfl, fun h => h.elim hnew hlater⟩
        · exact .inr (.inr ⟨hcards, hlater⟩)

/-- The last versions of a list to which a card is added are those with other ids, and the card. -/
theorem last_versions_snoc (cards : List CardRecord) (card : CardRecord) :
    lastVersions (cards ++ [card]) =
      (lastVersions cards).filter (fun other => other.id != card.id) ++ [card] := by
  induction cards with
  | nil => rfl
  | cons first cards ih =>
      rw [List.cons_append, lastVersions, List.map_append, ih, lastVersions]
      -- The first card is dropped for a later one of the list, or else for the added one.
      by_cases hmem : first.id ∈ cards.map CardRecord.id
      · rw [if_pos (List.mem_append_left _ hmem), if_pos hmem]
      by_cases hid : first.id = card.id
      · rw [if_pos (List.mem_append_right _ (by simp [hid])), if_neg hmem, List.filter_cons_of_neg (by simp [hid])]
      · rw [if_neg (by simp [hid, hmem]), if_neg hmem, List.filter_cons_of_pos (by simp [hid]),
          List.cons_append]

/-- The last versions of two lists are those of the second if it has the ids of the first. -/
theorem last_versions_append_of_subset {cards more : List CardRecord}
    (h : ∀ card ∈ cards, card.id ∈ more.map CardRecord.id) :
    lastVersions (cards ++ more) = lastVersions more := by
  induction cards with
  | nil => rfl
  | cons card cards ih =>
      have hcard : card.id ∈ (cards ++ more).map CardRecord.id := by
        rw [List.map_append]
        exact List.mem_append_right _ (h card (List.mem_cons_self ..))
      rw [List.cons_append, lastVersions, if_pos hcard,
        ih fun other hother => h other (List.mem_cons_of_mem _ hother)]

/-- Cards with different ids are their own last versions. -/
theorem last_versions_of_nodup {cards : List CardRecord}
    (h : (cards.map CardRecord.id).Nodup) : lastVersions cards = cards := by
  induction cards with
  | nil => rfl
  | cons card cards ih =>
      obtain ⟨hnew, hrest⟩ := List.nodup_cons.1 h
      rw [lastVersions, if_neg hnew, ih hrest]

/-- A list followed by its last versions has the same last versions. -/
theorem last_versions_append_last_versions (cards : List CardRecord) :
    lastVersions (cards ++ lastVersions cards) = lastVersions cards := by
  have hids : ∀ card ∈ cards, card.id ∈ (lastVersions cards).map CardRecord.id := by
    intro card hcard
    rw [map_id_last_versions, List.mem_dedup]
    exact List.mem_map_of_mem hcard
  rw [last_versions_append_of_subset hids, last_versions_of_nodup (nodup_last_versions cards)]

/-! ## Catalogs made of cards -/

namespace Catalog

/-- The catalog into which the cards have been put one by one. -/
def ofCards (cards : List CardRecord) : Catalog :=
  empty.putAll (cards.map CardRecord.row)

/-- Putting in a row removes the row with its id and adds the new one at the end. -/
theorem rows_put (catalog : Catalog) (row : Row) :
    (catalog.put row).rows = catalog.rows.filter (fun other => other.id != row.id) ++ [row] :=
  rfl

/-- The rows of the catalog are those of the last versions. -/
theorem rows_of_cards (cards : List CardRecord) :
    (ofCards cards).rows = (lastVersions cards).map CardRecord.row := by
  -- From the end of the list, since every card is put in after all those before it.
  induction cards using List.reverseRecOn with
  | nil => rfl
  | append_singleton cards card ih =>
      have hput : ofCards (cards ++ [card]) = (ofCards cards).put card.row := by
        rw [ofCards, putAll, List.map_append, List.foldl_append]
        rfl
      have hfilter : ((lastVersions cards).map CardRecord.row).filter
            (fun other => other.id != card.row.id) =
          ((lastVersions cards).filter fun other => other.id != card.id).map CardRecord.row := by
        rw [List.filter_map]
        rfl
      rw [hput, rows_put, ih, hfilter, last_versions_snoc, List.map_append]
      rfl

/-- A row of the catalog is that of a latest card. -/
theorem mem_rows_of_cards {cards : List CardRecord} {row : Row} :
    row ∈ (ofCards cards).rows ↔ ∃ card, IsLatest cards card ∧ card.row = row := by
  rw [rows_of_cards, List.mem_map]
  exact exists_congr fun card => and_congr mem_last_versions Iff.rfl

/-- The catalog has a card for each id. -/
theorem size_of_cards (cards : List CardRecord) :
    (ofCards cards).size = (cards.map CardRecord.id).dedup.length := by
  rw [size, rows_of_cards, List.length_map, ← map_id_last_versions, List.length_map]

/-- Putting in further cards makes the catalog of all of them. -/
theorem import_of_cards (cards : List CardRecord) {more : List CardRecord}
    (h : ∀ card ∈ more, card.HasColorCodes) :
    (ofCards cards).import? more = some (ofCards (cards ++ more)) := by
  have hput : (ofCards cards).putAll (more.map CardRecord.row) = ofCards (cards ++ more) := by
    rw [ofCards, ofCards, putAll, putAll, putAll, List.map_append, List.foldl_append]
  rw [import?, CardRecord.map_m_of_record h, ← hput]
  rfl

/-- Putting in the last versions again makes the same catalog. -/
theorem of_cards_append_last_versions (cards : List CardRecord) :
    ofCards (cards ++ lastVersions cards) = ofCards cards := by
  have hrows : (ofCards (cards ++ lastVersions cards)).rows = (ofCards cards).rows := by
    rw [rows_of_cards, rows_of_cards, last_versions_append_last_versions]
  cases hfirst : ofCards (cards ++ lastVersions cards)
  cases hsecond : ofCards cards
  rw [hfirst, hsecond] at hrows
  simpa using hrows

/-- The text of a stored id finds the row with the id. -/
theorem find_of_mem (catalog : Catalog) {row : Row} (h : row ∈ catalog.rows) :
    catalog.find? row.id.text = some row := by
  rw [find?]
  cases hfound : catalog.rows.find? (fun other => other.id.text == row.id.text) with
  | none =>
      have hnone := List.find?_eq_none.1 hfound row h
      exact absurd hnone (by simp)
  | some other =>
      have hid : other.id = row.id := CardId.text_injective (by simpa using List.find?_some hfound)
      have hmem : other ∈ catalog.rows := List.mem_of_find?_eq_some hfound
      rw [List.inj_on_of_nodup_map catalog.nodup_ids hmem h hid]

/-- A text that is none of a stored id finds nothing. -/
theorem find_eq_none (catalog : Catalog) {text : String}
    (h : ∀ row ∈ catalog.rows, row.id.text ≠ text) : catalog.find? text = none := by
  rw [find?, List.find?_eq_none]
  intro row hmem
  simpa using h row hmem

/-- Catalogs with the same cards find the same card. -/
theorem find_eq_of_perm {catalog other : Catalog} (hperm : catalog.rows.Perm other.rows)
    (text : String) : catalog.find? text = other.find? text := by
  by_cases hstored : ∃ row ∈ catalog.rows, row.id.text = text
  · obtain ⟨row, hmem, rfl⟩ := hstored
    rw [find_of_mem catalog hmem, find_of_mem other (hperm.mem_iff.1 hmem)]
  · have hnone : ∀ row ∈ catalog.rows, row.id.text ≠ text :=
      fun row hmem heq => hstored ⟨row, hmem, heq⟩
    rw [find_eq_none catalog hnone,
      find_eq_none other fun row hmem => hnone row (hperm.mem_iff.2 hmem)]

/-- Lists with the same latest cards make catalogs with the same cards. -/
theorem perm_of_is_latest_iff {cards other : List CardRecord}
    (h : ∀ card, IsLatest cards card ↔ IsLatest other card) :
    (ofCards cards).rows.Perm (ofCards other).rows := by
  rw [List.perm_ext_iff_of_nodup (ofCards cards).nodup_ids.of_map (ofCards other).nodup_ids.of_map]
  intro row
  rw [mem_rows_of_cards, mem_rows_of_cards]
  exact exists_congr fun card => and_congr (h card) Iff.rfl

end Catalog

/-- Importing latest cards again keeps the latest cards, whatever is imported afterwards. -/
theorem is_latest_again {cards again more : List CardRecord}
    (h : ∀ card ∈ again, IsLatest cards card) (card : CardRecord) :
    IsLatest (cards ++ (again ++ more)) card ↔ IsLatest (cards ++ more) card := by
  have hagain : IsLatest (cards ++ again) card ↔ IsLatest cards card := by
    rw [is_latest_append]
    constructor
    · rintro (hlatest | hlatest)
      · exact h card hlatest.mem
      · exact hlatest.1
    · intro hlatest
      -- If its id is imported again, then with the same card, for an id has one latest card.
      by_cases hid : card.id ∈ again.map CardRecord.id
      · obtain ⟨other, hother, heq⟩ := List.mem_map.1 hid
        obtain ⟨last, hlast, hlastId⟩ := exists_is_latest hother
        obtain rfl : last = card := (h last hlast.mem).unique hlatest (hlastId.trans heq)
        exact .inl hlast
      · exact .inr ⟨hlatest, hid⟩
  rw [← List.append_assoc, is_latest_append, hagain, is_latest_append]

end CardCatalog
