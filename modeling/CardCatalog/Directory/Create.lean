import CardCatalog.Compression.Gzip
import CardCatalog.Directory.Basic

/-!
# Making a catalog

A catalog is made in three steps: the directory for it, the database with a table for the cards, and
the settings file. Each of them may fail, by what the system answers or because the settings have no
text, and what the steps before it have changed stays.
-/

namespace CardCatalog

/-- What works on a directory and may fail. The changes made before a failure stay. -/
abbrev Action (α : Type) := ExceptT Failure (StateM Directory) α

/-- Carry out an action on a directory: what is left of the directory, and the result. -/
def Action.runOn {α : Type} (action : Action α) (directory : Directory) :
    Directory × Except Failure α :=
  (StateT.run (ExceptT.run action) directory).swap

namespace Directory

/-- A file stands where the directory for the catalog would be. -/
def blocksCatalogDirectory (directory : Directory) : Bool :=
  directory.files.any fun file => samePath (catalogDirectory directory.root) file.1

/-- The directory for the catalog is there, or can be made. -/
def admitsCatalogDirectory (directory : Directory) : Bool :=
  directory.database.hasDirectory ||
    (directory.access.makesDirectories && !directory.blocksCatalogDirectory)

/-- The directory with the directory for the catalog. -/
def withCatalogDirectory (directory : Directory) : Directory :=
  if directory.database.hasDirectory then directory else { directory with database := .directory }

/-- The directory with what is left of a database that has not been made. -/
def withRemains (directory : Directory) (left : Option FileContents) : Directory :=
  { directory with database := left.elim directory.database .unfinished }

end Directory

namespace Action

/-- Make the directory for the catalog, unless it is there. -/
def makeDirectories : Action Unit := do
  let directory ← get
  if directory.admitsCatalogDirectory then set directory.withCatalogDirectory
  else throw (.unreadable (catalogDirectory directory.root))

/-- Make the database with its table of cards, unless the table is there. -/
def makeDatabase : Action Unit := do
  let directory ← get
  match directory.access.database with
  | .made => set (directory.withCatalog (directory.catalog.getD .empty))
  | .failed left =>
      set (directory.withRemains left)
      throw .refused

/-- Write the settings down, if they have a text. -/
def encode (settings : Settings) : Action String :=
  match settings.text? with
  | some content => pure content
  | none => throw .settings

/-- Write a text into the settings file, whatever was in it. -/
def writeSettingsFile (content : String) : Action Unit := do
  let directory ← get
  match directory.access.settingsFile with
  | .written => set { directory with settingsFile := some (.text content) }
  | .cut length =>
      set { directory with
        settingsFile := some (.ofBytes (content.toByteArray.extract 0 length)) }
      throw (.unreadable (settingsPath directory.root))
  | .refused => throw (.unreadable (settingsPath directory.root))

/-- Save settings: write them down, and then write the file. -/
def save (settings : Settings) : Action Unit := do
  let content ← encode settings
  writeSettingsFile content

/-- Make a catalog with its settings, step by step. -/
def make (settings : Settings) : Action Unit := do
  makeDirectories
  makeDatabase
  save settings

/-- Make a catalog with its settings where there is none. -/
def create (settings : Settings) : Action Unit := do
  let directory ← get
  if directory.isInitialized then throw (.alreadyInitialized directory.root)
  else make settings

end Action

namespace Directory

/-- Write settings into the settings file. -/
def saveSettings (directory : Directory) (settings : Settings) : Except Failure Directory :=
  match (Action.save settings).runOn directory with
  | (saved, .ok _) => .ok saved
  | (_, .error failure) => .error failure

/-- Make a catalog without cards, with settings: what is left of the directory, and whether the
catalog was made. -/
def createCatalog (directory : Directory) (settings : Settings) : Directory × Except Failure Unit :=
  (Action.create settings).runOn directory

end Directory

end CardCatalog
