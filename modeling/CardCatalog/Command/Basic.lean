/-!
# Commands

What the command line can be asked to do.
-/

namespace CardCatalog

/-- How a search shows the cards it finds. -/
inductive SearchFormat where
  | table
  | json
deriving DecidableEq

/-- How a compiled query is shown. -/
inductive QueryFormat where
  | text
  | json
  | sql
deriving DecidableEq

/-- A command. -/
inductive Command where
  /-- Make the catalog. -/
  | create
  /-- Import the cards of a file. -/
  | importFile (path : String)
  /-- Search the catalog. -/
  | search (query : String) (limit : Option UInt64) (format : SearchFormat)
      (includeExtras : Bool)
  /-- Show the card with an id. -/
  | card (id : String)
  /-- List the spellings of the search keys. -/
  | keys
  /-- Show what a query means. -/
  | compile (query : String) (format : QueryFormat) (showTokens : Bool)
  /-- Show how large the catalog is, and the settings. -/
  | stats
deriving DecidableEq

namespace Command

/-- The command concerns the catalog of a root. -/
def needsRoot : Command → Bool
  | .keys | .compile _ _ _ => false
  | _ => true

/-- The command may change what lies under the root. -/
def mayWrite : Command → Bool
  | .create | .importFile _ => true
  | _ => false

end Command

end CardCatalog
