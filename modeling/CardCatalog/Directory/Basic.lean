import CardCatalog.Card.File
import CardCatalog.Catalog.Basic
import CardCatalog.Failure
import CardCatalog.Settings.Encoding
import CardCatalog.Settings.Location

/-!
# The directory of a catalog

A directory is what lies under a root: the settings file, the catalog as far as it has been made, and
other files, such as card files. Importing cards yields a new directory; the other operations of this
module only look. How the system answers when a catalog is made belongs to the directory as well.
-/

namespace CardCatalog

/-- What there is of a catalog under a root. -/
inductive Database where
  /-- Nothing, not even the directory for it. -/
  | absent
  /-- The directory for it, in which there is no file. -/
  | directory
  /-- A file that holds no table of cards. -/
  | unfinished (contents : FileContents)
  /-- A file with the table of the cards. -/
  | made (catalog : Catalog)

namespace Database

/-- The directory for the catalog is there. -/
def hasDirectory : Database → Bool
  | .absent => false
  | .directory | .unfinished _ | .made _ => true

/-- The file of the catalog, if there is one. -/
def file? : Database → Option FileContents
  | .absent | .directory => none
  | .unfinished contents => some contents
  | .made _ => some .other

/-- The catalog, if it has been made. -/
def catalog? : Database → Option Catalog
  | .absent | .directory | .unfinished _ => none
  | .made catalog => some catalog

end Database

/-- How the system answers when a database is to be made. -/
inductive DatabaseAnswer where
  | made
  /-- It fails, and leaves nothing or a file without a table of cards. -/
  | failed (left : Option FileContents)
deriving DecidableEq

/-- How the system answers when a file is to be written. -/
inductive WriteAnswer where
  | written
  /-- It fails after so many bytes. -/
  | cut (length : Nat)
  /-- It fails, and the file is as it was. -/
  | refused
deriving DecidableEq

/-- How the system answers when a catalog is made under a root. -/
structure Access where
  makesDirectories : Bool
  database : DatabaseAnswer
  settingsFile : WriteAnswer
deriving DecidableEq

/-- The system lets everything be made and written. -/
def Access.full : Access :=
  ⟨true, .made, .written⟩

/-- What lies under a root, the other files within reach by their paths, and what the system lets be
made under the root. -/
structure Directory where
  root : Path
  settingsFile : Option FileContents
  database : Database
  files : List (String × FileContents)
  access : Access

namespace Directory

/-- A directory in which there is nothing. -/
def empty (root : Path) : Directory :=
  ⟨root, none, .absent, [], .full⟩

/-- There is a file in the place of the catalog. -/
def isInitialized (directory : Directory) : Bool :=
  directory.database.file?.isSome

/-- The catalog, if it has been made. -/
def catalog (directory : Directory) : Option Catalog :=
  directory.database.catalog?

/-- The directory with a catalog. -/
def withCatalog (directory : Directory) (catalog : Catalog) : Directory :=
  { directory with database := .made catalog }

/-- The settings of the directory: those of the settings file, or the initial ones without it. The
root is always the directory's own. -/
def loadSettings (directory : Directory) : Except Failure Settings :=
  match directory.settingsFile with
  | none => .ok (.initial directory.root)
  | some (.text content) =>
      match Settings.parse? content with
      | some settings => .ok { settings with root := directory.root }
      | none => .error .settings
  | some _ => .error (.unreadable (settingsPath directory.root))

/-- There has to be a file in the place of the catalog. -/
def checkInitialized (directory : Directory) : Except Failure Unit :=
  if directory.isInitialized then .ok () else .error (.notInitialized directory.root)

/-- The catalog, which has to be there. A file without a table of cards is refused. -/
def openCatalog (directory : Directory) : Except Failure Catalog :=
  match directory.database with
  | .made catalog => .ok catalog
  | .unfinished _ => .error .refused
  | .absent | .directory => .error (.notInitialized directory.root)

/-- The catalog is opened exactly if it has been made. -/
theorem open_catalog_eq_ok_iff {directory : Directory} {catalog : Catalog} :
    directory.openCatalog = .ok catalog ↔ directory.catalog = some catalog := by
  unfold openCatalog Directory.catalog
  cases directory.database <;> simp [Database.catalog?]

/-- What is not there is not opened. -/
theorem open_catalog_eq_error {directory : Directory} (h : directory.catalog = none) :
    ∃ failure, directory.openCatalog = .error failure := by
  cases hopen : directory.openCatalog with
  | error failure => exact ⟨failure, rfl⟩
  | ok catalog => exact absurd (open_catalog_eq_ok_iff.1 hopen) (by simp [h])

/-- Import card records into the catalog, all of them or none. -/
def importCards (directory : Directory) (cards : List CardRecord) : Except Failure Directory := do
  let catalog ← directory.openCatalog
  match catalog.import? cards with
  | some catalog => .ok (directory.withCatalog catalog)
  | none => .error .refused

/-- Import card records, and tell how many they are. -/
def importCounted (directory : Directory) (cards : List CardRecord) :
    Except Failure (Directory × Nat) := do
  let directory ← directory.importCards cards
  .ok (directory, cards.length)

/-- The number of cards in the catalog. -/
def count (directory : Directory) : Except Failure Nat := do
  let catalog ← directory.openCatalog
  .ok catalog.size

/-- The summary of the card with an id. -/
def card (directory : Directory) (id : String) : Except Failure Summary := do
  let catalog ← directory.openCatalog
  match catalog.find? id with
  | some row => .ok row.summary
  | none => .error (.notFound id)

/-- The summaries of the cards that a predicate selects, in order and up to a limit. -/
def search (directory : Directory) (predicate : Predicate) (order : SortOrder)
    (limit : Option Nat) : Except Failure (List Summary) := do
  let catalog ← directory.openCatalog
  match catalog.search? predicate order limit with
  | some summaries => .ok summaries
  | none => .error .refused

end Directory

end CardCatalog
