import CardCatalog.Path

/-!
# Where a catalog is kept

The root of the catalog is found from the environment: it may be named outright; otherwise it lies
in the directory for data, if an absolute one is named, and else under the home directory.
-/

namespace CardCatalog

/-- The settings file of a root. -/
def settingsPath (root : Path) : Path :=
  joinPath root "config.toml"

/-- The directory of a root that holds the catalog. -/
def catalogDirectory (root : Path) : Path :=
  joinPath root "db"

/-- The catalog of a root. -/
def catalogPath (root : Path) : Path :=
  joinPath root "db/cards.duckdb"

/-- What of the environment decides where the catalog is: the root if it is named, the directory
for data and the home directory if they are named, and the home directory of the account. -/
structure Environment where
  root : Option Path
  dataHome : Option Path
  home : Option Path
  accountHome : Option Path
deriving DecidableEq

namespace Environment

/-- The home directory: the one that is named, unless its name is empty, and else that of the
account. -/
def homeDirectory? (environment : Environment) : Option Path :=
  (environment.home.filter fun home => !home.bytes.isEmpty).or environment.accountHome

/-- The directory for data under a home directory. -/
def dataUnderHome : String :=
  ".local/share"

/-- The directory for data. -/
def dataDirectory? (environment : Environment) : Option Path := do
  let home ← environment.homeDirectory?
  some ((environment.dataHome.filter isAbsolutePath).getD (joinPath home dataUnderHome))

/-- The root of the catalog. Where it is named outright, or follows from the name of the home
directory alone, a name that is no text counts for nothing. -/
def root? (environment : Environment) : Option Path :=
  environment.root.filter Path.isText <|> environment.dataDirectory?.map (joinPath · "scry") <|>
    (environment.home.filter Path.isText).map fun home => joinPath home ".local/share/scry"

end Environment

end CardCatalog
