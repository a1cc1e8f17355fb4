import CardCatalog.Directory.Basic

/-!
# Files within reach

What stands at a path: the root, what belongs to the catalog, or one of the other files within reach.
`Directory.readCards` reads the cards of the file at a path.
-/

namespace CardCatalog

/-- What a path leads to. -/
inductive Entry where
  | file (contents : FileContents)
  | directory

namespace Directory

/-- What stands at a path. -/
def entry? (directory : Directory) (path : String) : Option Entry :=
  if path.isEmpty then none
  else if samePath path directory.root then some .directory
  else if directory.database.hasDirectory && samePath path (catalogDirectory directory.root) then
    some .directory
  else if namesDirectory path then none
  else if samePath path (settingsPath directory.root) then directory.settingsFile.map .file
  else if directory.database.hasDirectory && samePath path (catalogPath directory.root) then
    directory.database.file?.map .file
  else (directory.files.find? fun file => samePath path file.1).map fun file => .file file.2

/-- Write a file under the root. A file in the place of the catalog takes the catalog away. -/
def writeFile (directory : Directory) (name : String) (contents : FileContents) : Directory :=
  let path := joinPath directory.root name
  if samePath path (settingsPath directory.root) then
    { directory with settingsFile := some contents }
  else if directory.database.hasDirectory && samePath path (catalogPath directory.root) then
    { directory with database := .unfinished contents }
  else
    { directory with
      files := directory.files.filter (fun file => !samePath path file.1) ++
        [(path.shown, contents)] }

/-- Read the cards of the file at a path. -/
def readCards (directory : Directory) (path : String) : Except Failure (List CardRecord) :=
  match directory.entry? path with
  | none => .error (.notFound path)
  | some .directory => .error (.malformedCards path)
  | some (.file contents) =>
      match readCards? path contents with
      | some cards => .ok cards
      | none => .error (.malformedCards path)

/-- Import the cards of the file at a path, and tell how many they are. The catalog is looked for
before the file. -/
def importFile (directory : Directory) (path : String) : Except Failure (Directory × Nat) := do
  directory.checkInitialized
  let cards ← directory.readCards path
  directory.importCounted cards

end Directory

end CardCatalog
