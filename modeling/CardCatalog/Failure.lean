import CardCatalog.Path

/-!
# Failures

Why an operation on a catalog fails, and the message that tells so.
-/

namespace CardCatalog

/-- The cause of a failure. -/
inductive Failure where
  /-- The system did not let a file be read as text or be written, or a directory be made. -/
  | unreadable (path : Path)
  /-- The database refused an operation. -/
  | refused
  /-- The settings cannot be understood, or cannot be written down. -/
  | settings
  /-- There is no catalog under the root. -/
  | notInitialized (root : Path)
  /-- There is a catalog under the root already. -/
  | alreadyInitialized (root : Path)
  /-- There is no card with this id, or no file with this path. -/
  | notFound (name : String)
  /-- A card file does not hold cards. -/
  | malformedCards (path : String)
deriving DecidableEq

namespace Failure

/-- The words that open the message of a failure whose details depend on what failed. -/
def heading? : Failure → Option String
  | .unreadable _ => some "IO error:"
  | .refused => some "DuckDB error:"
  | .settings => some "Configuration error:"
  | .malformedCards _ => some "Import error:"
  | _ => none

/-- The message of a failure. -/
def message : Failure → String
  | .unreadable path => "IO error: " ++ path.shown ++ " cannot be read as text, written or made"
  | .refused => "DuckDB error: the operation was refused"
  | .settings => "Configuration error: the settings are not valid"
  | .notInitialized root => "Catalog not initialized at " ++ root.shown
  | .alreadyInitialized root => "Catalog already initialized at " ++ root.shown
  | .notFound name => "Not found: " ++ name
  | .malformedCards path => "Import error: " ++ path ++ " does not hold cards"

end Failure

end CardCatalog
