import CardCatalog.Catalog.Storage
import CardCatalog.Command.Run

/-!
# The program

Reads the environment and the files under the root as far as the command needs them, makes a catalog
where the command asks for one, runs the program, writes back what has been imported, and prints what
there is to print.
-/

namespace CardCatalog

/-- What the file at a path holds, if there is one. What cannot be read holds nothing of use. -/
def loadFile (path : Path) : IO (Option FileContents) := do
  try
    return some (.ofBytes (← IO.FS.readBinFile path.shown))
  catch
    | .noFileOrDirectory _ _ _ => return none
    | _ => return some .other

/-- The environment of the program. -/
def loadEnvironment : IO Environment := do
  let named (name : String) : IO (Option Path) := return (← IO.getEnv name).map .ofText
  return ⟨← named "SCRY_ROOT", ← named "XDG_DATA_HOME", ← named "HOME", none⟩

/-- What there is of a catalog under a root. -/
def loadDatabase (root : Path) : IO Database := do
  match ← loadFile (catalogPath root) with
  | none => return .absent
  | some contents =>
      match contents.asText?.bind Catalog.ofStorageText? with
      | some catalog => return .made catalog
      | none => return .unfinished contents

/-- The file that a command names, by its path. -/
def loadNamedFile : Command → IO (List (String × FileContents))
  | .importFile path => do return (← loadFile path).toList.map (path, ·)
  | _ => return []

/-- An action comes to its end. -/
def succeeds (action : IO Unit) : IO Bool := do
  try action; return true
  catch _ => return false

/-- Make a catalog with settings under their root, as far as the system lets it be made. -/
def makeCatalog (settings : Settings) : IO Access := do
  unless ← succeeds (IO.FS.createDirAll (catalogDirectory settings.root).shown) do
    return { Access.full with makesDirectories := false }
  let path := catalogPath settings.root
  unless ← succeeds (IO.FS.writeFile path.shown Catalog.empty.storageText) do
    return { Access.full with database := .failed (← loadFile path) }
  if let some content := settings.text? then
    unless ← succeeds (IO.FS.writeFile (settingsPath settings.root).shown content) do
      return { Access.full with settingsFile := .refused }
  return .full

/-- The answers of the system to a command. Only a catalog that is not there is made. -/
def loadAccess (root : Path) (database : Database) : Command → IO Access
  | .create => if database.file?.isNone then makeCatalog (.initial root) else return .full
  | _ => return .full

/-- The directory of a root, with the file that the command names. -/
def loadDirectory (root : Path) (command : Command) : IO Directory := do
  let settingsFile ← loadFile (settingsPath root)
  let database ← loadDatabase root
  return {
    root, settingsFile, database
    files := ← loadNamedFile command
    access := ← loadAccess root database command }

/-- Write a catalog to its place. -/
def saveCatalog (directory : Directory) : IO Unit := do
  if let some catalog := directory.catalog then
    IO.FS.writeFile (catalogPath directory.root).shown catalog.storageText

/-- The directory that a command works on: the one of the root in the environment, if it needs
one. -/
def directoryFor (command : Command) : IO (Except Failure Directory) := do
  if command.needsRoot then
    match (← loadEnvironment).root? with
    | some root => return .ok (← loadDirectory root command)
    | none => return .error .settings
  else return .ok (.empty "")

/-- Carry out a command on the files under the root. -/
def carryOut (command : Command) : IO Outcome := do
  match ← directoryFor command with
  | .error failure => return .ofResult (.error failure)
  | .ok directory =>
      let (after, outcome) := command.run directory
      if let .importFile _ := command then
        if outcome.failure.isNone then saveCatalog after
      return outcome

/-- Print what an outcome has to say. -/
def report (outcome : Outcome) : IO Unit := do
  IO.print outcome.output
  if let some failure := outcome.failure then
    IO.eprintln ("Error: " ++ failure.message)

end CardCatalog

open CardCatalog

/-- The program. -/
def main (arguments : List String) : IO UInt32 := do
  match Arguments.parse? arguments with
  | some (.command command) =>
      let outcome ← carryOut command
      report outcome
      return outcome.code.toUInt32
  | some .help => IO.print usageText; return 0
  | some .version => IO.print versionText; return 0
  | none => IO.eprint usageText; return 2
