import CardCatalog.Proofs.Catalog.Import
import CardCatalog.Proofs.Catalog.Search
import CardCatalog.Proofs.Directory.Create

/-!
# Runs of imports

After any run of imports into a fresh catalog, the catalog holds one row for each id that occurred,
made from the last card with the id (`import_batches_outcome`). How the cards were grouped does not
matter, and importing last versions again changes no answer, neither then nor after further imports.
-/

namespace CardCatalog

namespace Directory

/-! ## What a run of imports leaves -/

/-- Import batches of cards one after the other, and tell how many cards each of them held. -/
def importBatches : Directory → List (List CardRecord) → Except Failure (Directory × List Nat)
  | directory, [] => .ok (directory, [])
  | directory, batch :: batches => do
      let (directory, count) ← directory.importCounted batch
      let (directory, counts) ← directory.importBatches batches
      .ok (directory, count :: counts)

/-- The catalog of the directory holds the rows of the latest cards, each once, and answers
accordingly. -/
structure HoldsLatest (directory : Directory) (cards : List CardRecord) : Prop where
  stored : ∃ catalog, directory.catalog = some catalog ∧
    (catalog.rows.map Row.id).Nodup ∧
    (∀ id, id ∈ catalog.rows.map Row.id ↔ id ∈ cards.map CardRecord.id) ∧
    ∀ row, row ∈ catalog.rows ↔ ∃ card, IsLatest cards card ∧ card.row = row
  count : directory.count = .ok (cards.map CardRecord.id).dedup.length
  card : ∀ card, IsLatest cards card → directory.card card.id.text = .ok card.row.summary
  not_found : ∀ text, (∀ card ∈ cards, card.id.text ≠ text) →
    directory.card text = .error (.notFound text)

/-- A search in the directory may give the answer, as far as the sort order decides it. -/
def MayAnswer (directory : Directory) (predicate : Predicate) (order : SortOrder)
    (limit : Option Nat) (answer : Except Failure (List Summary)) : Prop :=
  ∃ catalog result, directory.catalog = some catalog ∧
    catalog.Answers predicate order limit result ∧ answer = result.elim (.error .refused) .ok

/-- No two of the cards that the predicate selects agree in the sort order. -/
def NoTies (directory : Directory) (predicate : Predicate) (order : SortOrder) : Prop :=
  ∀ catalog, directory.catalog = some catalog → catalog.NoTies predicate order

/-- The directory answers as another does. The answer of a search is one that the other may give, and
it is the answer of the other where the sort order leaves nothing open. -/
structure AnswersAs (directory other : Directory) : Prop where
  count : directory.count = other.count
  card : ∀ id, directory.card id = other.card id
  search : ∀ predicate order limit,
    other.MayAnswer predicate order limit (directory.search predicate order limit)
  search_eq : ∀ predicate order limit, directory.NoTies predicate order →
    directory.search predicate order limit = other.search predicate order limit

/-- The outcome of importing batches into a directory with a fresh catalog. -/
structure ImportOutcome (fresh : Directory) (batches : List (List CardRecord))
    (final : Directory) : Prop where
  /-- Every import tells the length of its batch. -/
  imported : fresh.importBatches batches = .ok (final, batches.map List.length)
  /-- The last card with each id has won. -/
  latest : final.HoldsLatest batches.flatten
  /-- Other batches of the same cards leave the same directory. -/
  regrouped : ∀ other : List (List CardRecord), other.flatten = batches.flatten →
    fresh.importBatches other = .ok (final, other.map List.length)
  /-- Importing the last versions again leaves the directory as it is. -/
  refreshed : final.importCounted (lastVersions batches.flatten) =
    .ok (final, (lastVersions batches.flatten).length)
  /-- Importing some of the last versions again, in any order, changes no answer, whatever is imported
  afterwards. -/
  repeated : ∀ (again : List CardRecord) (more : List (List CardRecord)),
    (∀ card ∈ again, IsLatest batches.flatten card) →
      (∀ card ∈ more.flatten, card.HasColorCodes) →
        ∃ after without,
          final.importBatches (again :: more) = .ok (after, again.length :: more.map List.length) ∧
          final.importBatches more = .ok (without, more.map List.length) ∧ after.AnswersAs without

/-! ## Directories with known cards -/

/-- The directory with the catalog into which the cards have been put one by one. -/
def withCards (directory : Directory) (cards : List CardRecord) : Directory :=
  directory.withCatalog (.ofCards cards)

/-- A catalog that has just been made holds no cards. -/
theorem eq_with_cards_of_create {start fresh : Directory} {settings : Settings}
    (h : start.createCatalog settings = (fresh, .ok ())) : fresh = fresh.withCards [] := by
  obtain ⟨hnew, hend⟩ := create_catalog_eq_ok_iff.1 (congrArg Prod.snd h)
  obtain ⟨content, _, hcreate⟩ := hend.create_catalog hnew
  obtain rfl : { start.withCatalog .empty with settingsFile := some (.text content) } = fresh :=
    congrArg Prod.fst (hcreate.symm.trans h)
  rfl

/-- Cards that the catalog takes are imported. -/
theorem import_cards_eq_ok {directory : Directory} {catalog next : Catalog} {cards : List CardRecord}
    (hcatalog : directory.catalog = some catalog) (himport : catalog.import? cards = some next) :
    directory.importCards cards = .ok (directory.withCatalog next) := by
  unfold importCards
  simp only [open_catalog_eq_ok_iff.2 hcatalog, bind, Except.bind, himport]

/-- An import adds its cards to those of the directory, and tells how many they are. -/
theorem import_with_cards (directory : Directory) (cards : List CardRecord)
    {batch : List CardRecord} (h : ∀ card ∈ batch, card.HasColorCodes) :
    (directory.withCards cards).importCounted batch =
      .ok (directory.withCards (cards ++ batch), batch.length) := by
  rw [importCounted, import_cards_eq_ok rfl (Catalog.import_of_cards cards h)]
  rfl

/-- A run of imports adds its cards to those of the directory. -/
theorem import_batches_with_cards (directory : Directory) (cards : List CardRecord)
    {batches : List (List CardRecord)} (h : ∀ card ∈ batches.flatten, card.HasColorCodes) :
    (directory.withCards cards).importBatches batches =
      .ok (directory.withCards (cards ++ batches.flatten), batches.map List.length) := by
  induction batches generalizing cards with
  | nil => rw [importBatches, List.flatten_nil, List.append_nil, List.map_nil]
  | cons batch batches ih =>
      have hbatch : ∀ card ∈ batch, card.HasColorCodes :=
        fun card hcard => h card (List.mem_append_left _ hcard)
      have hrest : ∀ card ∈ batches.flatten, card.HasColorCodes :=
        fun card hcard => h card (List.mem_append_right _ hcard)
      have hrun := ih (cards ++ batch) hrest
      rw [List.append_assoc] at hrun
      rw [importBatches, import_with_cards directory cards hbatch]
      exact congrArg (fun result => result.bind fun next : Directory × List Nat =>
        .ok (next.1, batch.length :: next.2)) hrun

/-- A directory looks for a card in its catalog. -/
theorem card_with_cards (directory : Directory) (cards : List CardRecord) (id : String) :
    (directory.withCards cards).card id =
      match (Catalog.ofCards cards).find? id with
      | some row => .ok row.summary
      | none => .error (.notFound id) :=
  rfl

/-- A directory searches its catalog. -/
theorem search_with_cards (directory : Directory) (cards : List CardRecord) (predicate : Predicate)
    (order : SortOrder) (limit : Option Nat) :
    (directory.withCards cards).search predicate order limit =
      ((Catalog.ofCards cards).search? predicate order limit).elim (.error .refused) .ok := by
  have hopen : (directory.withCards cards).openCatalog = .ok (.ofCards cards) :=
    open_catalog_eq_ok_iff.2 rfl
  unfold search
  simp only [hopen, bind, Except.bind]
  cases (Catalog.ofCards cards).search? predicate order limit <;> rfl

/-- The directory answers by the rows of its cards. -/
theorem holds_latest_with_cards (directory : Directory) (cards : List CardRecord) :
    (directory.withCards cards).HoldsLatest cards where
  stored := by
    refine ⟨.ofCards cards, rfl, (Catalog.ofCards cards).nodup_ids, fun id => ?_,
      fun row => Catalog.mem_rows_of_cards⟩
    have hids : (Catalog.ofCards cards).rows.map Row.id = (cards.map CardRecord.id).dedup := by
      rw [Catalog.rows_of_cards, List.map_map, ← map_id_last_versions]
      rfl
    rw [hids, List.mem_dedup]
  count := congrArg Except.ok (Catalog.size_of_cards cards)
  card card h := by
    have hrow : card.row ∈ (Catalog.ofCards cards).rows :=
      Catalog.mem_rows_of_cards.2 ⟨card, h, rfl⟩
    have hfound : (Catalog.ofCards cards).find? card.id.text = some card.row :=
      Catalog.find_of_mem _ hrow
    rw [card_with_cards, hfound]
  not_found text h := by
    have hnone : ∀ row ∈ (Catalog.ofCards cards).rows, row.id.text ≠ text := by
      intro row hrow
      obtain ⟨card, hlatest, rfl⟩ := Catalog.mem_rows_of_cards.1 hrow
      exact h card hlatest.mem
    rw [card_with_cards, Catalog.find_eq_none _ hnone]

/-- Directories answer alike if their catalogs hold the same rows. -/
theorem answers_as_of_perm {directory : Directory} {cards other : List CardRecord}
    (hperm : (Catalog.ofCards cards).rows.Perm (Catalog.ofCards other).rows) :
    (directory.withCards cards).AnswersAs (directory.withCards other) where
  count := congrArg Except.ok hperm.length_eq
  card id := by rw [card_with_cards, card_with_cards, Catalog.find_eq_of_perm hperm]
  search predicate order limit :=
    ⟨_, _, rfl, (Catalog.answers_search _ predicate order limit).of_perm hperm,
      search_with_cards directory cards predicate order limit⟩
  search_eq predicate order limit hties := by
    rw [search_with_cards, search_with_cards, Catalog.search_eq_of_perm hperm (hties _ rfl)]

/-- After a run of imports into a fresh catalog, the last card with each id has won, however the cards
were grouped; and importing last versions again changes no answer. -/
theorem import_batches_outcome {start fresh : Directory} {settings : Settings}
    (hcreate : start.createCatalog settings = (fresh, .ok ()))
    {batches : List (List CardRecord)} (hcodes : ∀ card ∈ batches.flatten, card.HasColorCodes) :
    ∃ final, ImportOutcome fresh batches final := by
  have hlatest : ∀ card, IsLatest batches.flatten card → card.HasColorCodes :=
    fun card h => hcodes card h.mem
  rw [eq_with_cards_of_create hcreate]
  refine ⟨fresh.withCards batches.flatten, ?_, holds_latest_with_cards _ _, ?_, ?_, ?_⟩
  · exact import_batches_with_cards fresh [] hcodes
  · intro other hother
    rw [← hother] at hcodes ⊢
    exact import_batches_with_cards fresh [] hcodes
  · have hagain : ∀ card ∈ lastVersions batches.flatten, card.HasColorCodes :=
      fun card hcard => hlatest card (mem_last_versions.1 hcard)
    have hsame : fresh.withCards (batches.flatten ++ lastVersions batches.flatten) =
        fresh.withCards batches.flatten := by
      rw [withCards, Catalog.of_cards_append_last_versions]
      rfl
    rw [import_with_cards fresh _ hagain, hsame]
  · intro again more hagain hmore
    have hboth : ∀ card ∈ (again :: more).flatten, card.HasColorCodes := by
      intro card hcard
      rcases List.mem_append.1 hcard with hcard | hcard
      · exact hlatest card (hagain card hcard)
      · exact hmore card hcard
    exact ⟨_, _, import_batches_with_cards fresh _ hboth, import_batches_with_cards fresh _ hmore,
      answers_as_of_perm (Catalog.perm_of_is_latest_iff (is_latest_again hagain))⟩

/-- A common, of which two versions are imported together and a third one later, after a rare. -/
def elfBatches : List (List CardRecord) :=
  let elves (set : String) : CardRecord :=
    ⟨.repeated 1, (CardFace.minimal "Llanowar Elves" set "Common").withColors ["G"]⟩
  let archdruid : CardRecord :=
    ⟨.repeated 2, (CardFace.minimal "Elvish Archdruid" "M10" "Rare").withColors ["G"]⟩
  [[elves "LEA", elves "LEB"], [archdruid], [elves "M19"]]

/-- Of four imported cards, the two that are the last with their ids are left. -/
theorem import_batches_outcome_elves :
    (Directory.empty "/cards").createCatalog (.initial "/cards") =
        (((Directory.empty "/cards").createCatalog (.initial "/cards")).1, .ok ()) ∧
      (∀ card ∈ elfBatches.flatten, card.HasColorCodes) ∧
      ∃ final, ImportOutcome ((Directory.empty "/cards").createCatalog (.initial "/cards")).1
        elfBatches final ∧ final.count = .ok 2 := by
  have hcreate : (Directory.empty "/cards").createCatalog (.initial "/cards") =
      (((Directory.empty "/cards").createCatalog (.initial "/cards")).1, .ok ()) := by rfl
  have hcodes : ∀ card ∈ elfBatches.flatten, card.HasColorCodes := by decide
  obtain ⟨final, houtcome⟩ := import_batches_outcome hcreate hcodes
  exact ⟨hcreate, hcodes, final, houtcome, houtcome.latest.count⟩

end Directory

end CardCatalog
