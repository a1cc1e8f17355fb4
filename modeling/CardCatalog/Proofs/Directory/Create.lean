import CardCatalog.Proofs.Directory.Settings

/-!
# Making a catalog

A catalog is made step by step (`create_catalog_eq`), and a file in its place is all that it takes to
answer that there is one. So making a catalog is all or nothing exactly if no step fails once that
file is there (`create_all_or_nothing_iff`).
-/

namespace CardCatalog

namespace Directory

variable (directory : Directory) (settings : Settings)

/-! ## The steps -/

/-- Making the directory for the catalog changes nothing but what there is of a catalog. -/
theorem with_catalog_directory_eq : directory.withCatalogDirectory =
    { directory with database := directory.withCatalogDirectory.database } := by
  unfold withCatalogDirectory
  split <;> rfl

/-- What the system answers is not changed by making the directory for the catalog. -/
@[simp]
theorem access_with_catalog_directory : directory.withCatalogDirectory.access = directory.access := by
  rw [with_catalog_directory_eq]

/-- Making the directory for the catalog makes no catalog. -/
@[simp]
theorem catalog_with_catalog_directory :
    directory.withCatalogDirectory.catalog = directory.catalog := by
  unfold withCatalogDirectory
  cases hdatabase : directory.database <;> simp [Database.hasDirectory, catalog, hdatabase]
  rfl

/-- Making the directory for the catalog puts no file into it. -/
@[simp]
theorem is_initialized_with_catalog_directory :
    directory.withCatalogDirectory.isInitialized = directory.isInitialized := by
  unfold withCatalogDirectory
  cases hdatabase : directory.database <;> simp [Database.hasDirectory, isInitialized, hdatabase]
  rfl

/-- A catalog takes the place of the directory for it. -/
@[simp]
theorem with_catalog_with_catalog_directory (catalog : Catalog) :
    directory.withCatalogDirectory.withCatalog catalog = directory.withCatalog catalog := by
  rw [with_catalog_directory_eq]
  rfl

/-- A file is left in the place of the catalog unless nothing is left. -/
theorem is_initialized_with_remains (left : Option FileContents) :
    (directory.withRemains left).isInitialized = (directory.isInitialized || left.isSome) := by
  cases left <;> simp [withRemains, isInitialized, Database.file?]

/-- The directory for the catalog is made where the system lets it be made. -/
theorem run_on_make_directories :
    Action.makeDirectories.runOn directory =
      if directory.admitsCatalogDirectory then (directory.withCatalogDirectory, .ok ())
      else (directory, .error (.unreadable (catalogDirectory directory.root))) := by
  rw [Action.makeDirectories, Action.run_on_get_bind]
  split <;> rfl

/-- The database is made where the system lets it be made. -/
theorem run_on_make_database :
    Action.makeDatabase.runOn directory =
      match directory.access.database with
      | .made => (directory.withCatalog (directory.catalog.getD .empty), .ok ())
      | .failed left => (directory.withRemains left, .error .refused) := by
  rw [Action.makeDatabase, Action.run_on_get_bind]
  cases directory.access.database <;> rfl

/-- Saving the settings does not touch the catalog. -/
@[simp]
theorem is_initialized_run_on_save :
    ((Action.save settings).runOn directory).1.isInitialized = directory.isInitialized := by
  rw [run_on_save_eq_settings_file]
  rfl

variable {directory}

/-- There is no catalog without a file for it. -/
theorem catalog_eq_none_of_new (hnew : directory.isInitialized = false) :
    directory.catalog = none := by
  cases hdatabase : directory.database with
  | absent | directory | unfinished _ => rw [catalog, hdatabase]; rfl
  | made _ => simp [isInitialized, hdatabase, Database.file?] at hnew

/-! ## A catalog step by step -/

/-- Where there is a file in the place of the catalog, none is made. -/
theorem create_catalog_eq_of_is_initialized (h : directory.isInitialized = true) :
    directory.createCatalog settings =
      (directory, .error (.alreadyInitialized directory.root)) := by
  rw [createCatalog, Action.create, Action.run_on_get_bind, if_pos h]
  rfl

/-- Where there is none, the steps follow one another, and each goes on from what the step before it has
left. -/
theorem create_catalog_eq (hnew : directory.isInitialized = false) :
    directory.createCatalog settings =
      if directory.admitsCatalogDirectory then
        match directory.access.database with
        | .made => (Action.save settings).runOn (directory.withCatalog .empty)
        | .failed left => (directory.withCatalogDirectory.withRemains left, .error .refused)
      else (directory, .error (.unreadable (catalogDirectory directory.root))) := by
  have hguard : ¬directory.isInitialized = true := by simp [hnew]
  rw [createCatalog, Action.create, Action.run_on_get_bind, if_neg hguard, Action.make,
    Action.run_on_bind, run_on_make_directories]
  cases directory.admitsCatalogDirectory with
  | false => rfl
  | true =>
      simp only [if_true, Action.run_on_bind, run_on_make_database, access_with_catalog_directory,
        catalog_with_catalog_directory, catalog_eq_none_of_new hnew,
        with_catalog_with_catalog_directory, Option.getD_none]
      cases directory.access.database <;> rfl

/-- A catalog that is made where there is none is not refused for one that is there. -/
theorem create_catalog_ne_already_initialized (hnew : directory.isInitialized = false) (root : Path) :
    (directory.createCatalog settings).2 ≠ .error (.alreadyInitialized root) := by
  rw [create_catalog_eq settings hnew]
  cases directory.admitsCatalogDirectory with
  | false => simp
  | true =>
      cases directory.access.database with
      | failed left => simp
      | made =>
          cases htext : settings.text? with
          | none => simp [run_on_save_of_none _ _ htext]
          | some content =>
              simp only [if_true, run_on_save_of_text _ htext, run_on_write_settings_file]
              split <;> simp

/-! ## Where making a catalog stops -/

/-- Making a catalog stops before there is a file in its place: the directory for the catalog is
refused, or the database is, and nothing is left of it. -/
def StopsEarly (directory : Directory) : Prop :=
  directory.admitsCatalogDirectory = false ∨ directory.access.database = .failed none

instance : Decidable directory.StopsEarly :=
  inferInstanceAs (Decidable (_ ∨ _))

/-- Making a catalog comes to its end: no step is refused, and the settings can be written. -/
def ComesToEnd (directory : Directory) (settings : Settings) : Prop :=
  directory.admitsCatalogDirectory = true ∧ directory.access.database = .made ∧
    settings.IsWritable ∧ directory.access.settingsFile = .written

instance : Decidable (directory.ComesToEnd settings) :=
  inferInstanceAs (Decidable (_ ∧ _ ∧ _ ∧ _))

variable {settings}

/-- Where making a catalog comes to its end, there is a catalog without cards, and the settings file
holds the settings. -/
theorem ComesToEnd.create_catalog (hnew : directory.isInitialized = false)
    (h : directory.ComesToEnd settings) :
    ∃ content, settings.text? = some content ∧ directory.createCatalog settings =
      ({ directory.withCatalog .empty with settingsFile := some (.text content) }, .ok ()) := by
  obtain ⟨hadmits, hmade, hwritable, hwritten⟩ := h
  obtain ⟨content, htext⟩ := hwritable.exists_text
  refine ⟨content, htext, ?_⟩
  rw [create_catalog_eq settings hnew, if_pos hadmits, hmade]
  exact run_on_save_of_written (directory.withCatalog .empty) htext hwritten

/-- Where it stops early, no file is left. -/
theorem StopsEarly.create_catalog (settings : Settings) (hnew : directory.isInitialized = false)
    (h : directory.StopsEarly) :
    ∃ failure left, directory.createCatalog settings = (left, .error failure) ∧
      left.isInitialized = false ∧ left.settingsFile = directory.settingsFile := by
  rw [create_catalog_eq settings hnew]
  cases hadmits : directory.admitsCatalogDirectory with
  | false => exact ⟨_, _, rfl, hnew, rfl⟩
  | true =>
      have hfailed : directory.access.database = .failed none := h.resolve_left (by simp [hadmits])
      rw [hfailed]
      refine ⟨_, _, rfl, by simp [is_initialized_with_remains, hnew], ?_⟩
      rw [with_catalog_directory_eq]
      rfl

/-- Where it neither stops early nor comes to its end, a file is left. -/
theorem create_catalog_of_stops_midway (hnew : directory.isInitialized = false)
    (hearly : ¬directory.StopsEarly) (hend : ¬directory.ComesToEnd settings) :
    ∃ failure left, directory.createCatalog settings = (left, .error failure) ∧
      left.isInitialized = true := by
  rw [StopsEarly, not_or, Bool.not_eq_false] at hearly
  obtain ⟨hadmits, hdatabase⟩ := hearly
  rw [create_catalog_eq settings hnew, if_pos hadmits]
  cases hmade : directory.access.database with
  | failed left =>
      have hleft : left ≠ none := by
        rintro rfl
        exact hdatabase hmade
      exact ⟨.refused, _, rfl,
        by simp [is_initialized_with_remains, Option.isSome_iff_ne_none, hleft]⟩
  | made =>
      have hsave : ¬(settings.IsWritable ∧ directory.access.settingsFile = .written) :=
        fun h => hend ⟨hadmits, hmade, h⟩
      obtain ⟨failure, hfailure⟩ := run_on_save_eq_error (directory.withCatalog .empty) hsave
      exact ⟨failure, _, Prod.ext rfl hfailure, is_initialized_run_on_save _ _⟩

/-- A catalog is made exactly where there is none and no step fails. -/
theorem create_catalog_eq_ok_iff :
    (directory.createCatalog settings).2 = .ok () ↔
      directory.isInitialized = false ∧ directory.ComesToEnd settings := by
  constructor
  · intro h
    cases hinitialized : directory.isInitialized with
    | true =>
        rw [create_catalog_eq_of_is_initialized settings hinitialized] at h
        cases h
    | false =>
        refine ⟨rfl, ?_⟩
        by_contra hend
        by_cases hearly : directory.StopsEarly
        · obtain ⟨failure, left, hcreate, _⟩ := hearly.create_catalog settings hinitialized
          rw [hcreate] at h
          cases h
        · obtain ⟨failure, left, hcreate, _⟩ :=
            create_catalog_of_stops_midway hinitialized hearly hend
          rw [hcreate] at h
          cases h
  · rintro ⟨hnew, hend⟩
    obtain ⟨content, _, hcreate⟩ := hend.create_catalog hnew
    rw [hcreate]

/-- Whatever comes of making a catalog, the root stays, and a catalog that has been made or left holds no
cards. -/
theorem create_catalog_keeps (hnew : directory.isInitialized = false) {left : Directory}
    {result : Except Failure Unit} (hcreate : directory.createCatalog settings = (left, result)) :
    left.root = directory.root ∧ (left.catalog = none ∨ left.catalog = some .empty) := by
  have hnone := catalog_eq_none_of_new hnew
  obtain rfl : (directory.createCatalog settings).1 = left := by rw [hcreate]
  rw [create_catalog_eq settings hnew]
  cases directory.admitsCatalogDirectory with
  | false => exact ⟨rfl, .inl hnone⟩
  | true =>
      cases directory.access.database with
      | made =>
          simp only [if_true]
          rw [run_on_save_eq_settings_file]
          exact ⟨rfl, .inr rfl⟩
      | failed left =>
          simp only [if_true, withRemains]
          rw [with_catalog_directory_eq]
          refine ⟨rfl, .inl ?_⟩
          cases left with
          | none => exact directory.catalog_with_catalog_directory.trans hnone
          | some contents => rfl

/-- Settings that cannot be written leave the catalog that has been made before them. -/
theorem create_catalog_of_not_is_writable (hnew : directory.isInitialized = false)
    (hearly : ¬directory.StopsEarly) (hmade : directory.access.database = .made)
    (h : ¬settings.IsWritable) :
    directory.createCatalog settings = (directory.withCatalog .empty, .error .settings) := by
  rw [StopsEarly, not_or, Bool.not_eq_false] at hearly
  rw [create_catalog_eq settings hnew, if_pos hearly.1, hmade]
  exact run_on_save_of_none _ settings (settings.text_eq_none_iff.2 h)

/-! ## All or nothing -/

/-- A catalog is made all or nothing: a failure leaves the answer whether there is a catalog, and
where there was none, no later attempt is refused for a catalog that is there already, whatever its
settings and whatever the system answers then. -/
structure AllOrNothing (directory : Directory) (settings : Settings) : Prop where
  answer : ∀ failure, (directory.createCatalog settings).2 = .error failure →
    (directory.createCatalog settings).1.isInitialized = directory.isInitialized
  retry : ∀ failure, (directory.createCatalog settings).2 = .error failure →
    directory.isInitialized = false → ∀ access again root,
      (createCatalog { (directory.createCatalog settings).1 with access } again).2 ≠
        .error (.alreadyInitialized root)

/-- Where there is a file in the place of the catalog, nothing is left to be undone. -/
theorem AllOrNothing.of_is_initialized (h : directory.isInitialized = true) :
    AllOrNothing directory settings where
  answer _ _ := by rw [create_catalog_eq_of_is_initialized settings h]
  retry _ _ hnew := absurd hnew (by simp [h])

/-- A catalog that is made is no failure. -/
theorem AllOrNothing.of_comes_to_end (hnew : directory.isInitialized = false)
    (h : directory.ComesToEnd settings) : AllOrNothing directory settings := by
  obtain ⟨_, _, hcreate⟩ := h.create_catalog hnew
  constructor <;> simp [hcreate]

/-- Where no file is left, making the catalog can be tried again. -/
theorem AllOrNothing.of_stops_early (hnew : directory.isInitialized = false)
    (h : directory.StopsEarly) : AllOrNothing directory settings := by
  obtain ⟨failure, left, hcreate, hleft, _⟩ := h.create_catalog settings hnew
  refine ⟨fun _ _ => ?_, fun _ _ _ access again root => ?_⟩
  · rw [hcreate, hleft, hnew]
  · have hagain : isInitialized { left with access } = false := hleft
    rw [hcreate]
    exact create_catalog_ne_already_initialized again hagain root

/-- A file that is left changes the answer. -/
theorem not_all_or_nothing_of_stops_midway (hnew : directory.isInitialized = false)
    (hearly : ¬directory.StopsEarly) (hend : ¬directory.ComesToEnd settings) :
    ¬AllOrNothing directory settings := by
  intro hall
  obtain ⟨failure, left, hcreate, hleft⟩ := create_catalog_of_stops_midway hnew hearly hend
  have hsame := hall.answer failure (by rw [hcreate])
  rw [hcreate, hleft, hnew] at hsame
  cases hsame

variable (directory settings)

/-- A catalog is made all or nothing exactly if there was one, or no step fails once there is a file in
its place. Else the file is left behind, and every later attempt is refused for it, whatever the
settings and whatever the system answers then; and if it is the settings that cannot be written, it is a
catalog without cards and without settings of its own. -/
theorem create_all_or_nothing_iff :
    (AllOrNothing directory settings ↔
      directory.isInitialized = true ∨ directory.StopsEarly ∨ directory.ComesToEnd settings) ∧
    (directory.isInitialized = false → ¬directory.StopsEarly → ¬directory.ComesToEnd settings →
      ∃ failure left, directory.createCatalog settings = (left, .error failure) ∧
        left.isInitialized = true ∧ ∀ access again, createCatalog { left with access } again =
          ({ left with access }, .error (.alreadyInitialized left.root))) ∧
    (directory.isInitialized = false → ¬directory.StopsEarly → directory.access.database = .made →
      (∀ root : String, settings.root ≠ .ofText root) ∨ 2 ^ 63 ≤ settings.defaultLimit.toNat →
        directory.createCatalog settings = (directory.withCatalog .empty, .error .settings)) := by
  refine ⟨⟨fun hall => ?_, fun h => ?_⟩, fun hnew hearly hend => ?_, fun hnew hearly hmade hbeyond => ?_⟩
  · by_contra hnot
    rw [not_or, not_or, Bool.not_eq_true] at hnot
    obtain ⟨hnew, hearly, hend⟩ := hnot
    exact not_all_or_nothing_of_stops_midway hnew hearly hend hall
  · cases hinitialized : directory.isInitialized with
    | true => exact .of_is_initialized hinitialized
    | false =>
        rcases h.resolve_left (by simp [hinitialized]) with hearly | hend
        · exact .of_stops_early hinitialized hearly
        · exact .of_comes_to_end hinitialized hend
  · obtain ⟨failure, left, hcreate, hleft⟩ := create_catalog_of_stops_midway hnew hearly hend
    exact ⟨failure, left, hcreate, hleft,
      fun access again => create_catalog_eq_of_is_initialized again hleft⟩
  · have hunwritable := settings.not_is_writable_iff.2 hbeyond
    exact create_catalog_of_not_is_writable hnew hearly hmade hunwritable

/-- An empty directory is left with a catalog if the limit is the first that cannot be written. -/
theorem not_all_or_nothing_beyond_limit :
    ¬ AllOrNothing (empty "/srv/cards")
      { Settings.initial "/srv/cards" with defaultLimit := 0x8000000000000000 } :=
  not_all_or_nothing_of_stops_midway rfl (by decide +kernel) (by decide +kernel)

end Directory

end CardCatalog
