import CardCatalog.Command.Arguments
import CardCatalog.Command.Table
import CardCatalog.Directory.Create
import CardCatalog.Directory.Files
import CardCatalog.Query.Compile
import CardCatalog.Query.Describe
import CardCatalog.Query.Encoding

/-!
# Carrying out commands

`Command.run` carries out a command on a directory: it yields the directory afterwards, and the
outcome, which is what the command prints and the failure that ends it, if any.
-/

namespace CardCatalog

open CardCatalog.Text CardCatalog.Number

/-- The query that hides extras. -/
def hideExtras : String :=
  "exclude:extras"

/-- The predicate of a search. Unless extras are included, they are hidden whatever the query. -/
def searchPredicate (query : String) (includeExtras : Bool) : Predicate :=
  if includeExtras then compile query else .allOf [compile query, compile hideExtras]

/-- What the program leaves behind when it ends: its exit code, what it has printed, and the failure
that has ended it, if any. -/
structure Outcome where
  code : UInt8
  output : String
  failure : Option Failure
deriving DecidableEq

namespace Outcome

/-- The outcome of a command that prints something at its end. -/
def ofResult : Except Failure String → Outcome
  | .ok output => ⟨0, output, none⟩
  | .error failure => ⟨1, "", some failure⟩

/-- The outcome of a command that has printed something before its end. -/
def ofResultAfter (printed : String) : Except Failure String → Outcome
  | .ok output => ⟨0, printed ++ output, none⟩
  | .error failure => ⟨1, printed, some failure⟩

end Outcome

namespace Directory

/-- The settings of a directory in which there is a catalog, as most commands need them. The settings
are read first. -/
def openWithSettings (directory : Directory) : Except Failure Settings := do
  let settings ← directory.loadSettings
  directory.checkInitialized
  .ok settings

/-- Search the catalog as the settings say, where the command does not say otherwise. -/
def runSearch (directory : Directory) (query : String) (limit : Option UInt64)
    (includeExtras : Bool) : Except Failure (List Summary) := do
  let settings ← directory.openWithSettings
  directory.search (searchPredicate query (includeExtras || settings.includeExtras)) settings.order
    (some (limit.getD settings.defaultLimit).toNat)

/-- The size of the catalog and the settings, after the root. -/
def statistics (directory : Directory) (settings : Settings) : Except Failure String := do
  let size ← directory.count
  .ok ("Cards:  " ++ natText size ++ "\nLimit:  " ++ natText settings.defaultLimit.toNat ++
    "\nExtras: " ++ (if settings.includeExtras then "shown" else "hidden") ++ "\n")

end Directory

/-- The text of a search result. -/
def SearchFormat.render (format : SearchFormat) (summaries : List Summary) : String :=
  match format with
  | .table => Table.text summaries
  | .json => (Json.array (summaries.map Summary.toJson)).pretty ++ "\n"

/-- The text of a predicate. -/
def QueryFormat.render (format : QueryFormat) (predicate : Predicate) : String :=
  match format with
  | .text => predicate.describe ++ "\n"
  | .json => predicate.toJson.pretty ++ "\n"
  | .sql => predicate.condition ++ "\n"

/-- The line that shows the tokens of a query. -/
def tokensLine (query : String) : String :=
  "tokens: [" ++ String.intercalate ", " ((tokenize query).map quoted) ++ "]\n"

/-- What a query means, after its tokens if they are asked for. -/
def queryText (query : String) (format : QueryFormat) (showTokens : Bool) : String :=
  (if showTokens then tokensLine query else "") ++ format.render (compile query)

namespace Command

/-- Make the catalog of a directory, with the initial settings. -/
def runCreate (directory : Directory) : Directory × Outcome :=
  if directory.isInitialized then
    (directory, .ofResult (.ok ("Catalog already initialized at " ++ directory.root.shown ++ "\n")))
  else
    let (directory, result) := directory.createCatalog (.initial directory.root)
    (directory, .ofResult
      (result.map fun _ => "Catalog initialized at " ++ directory.root.shown ++ "\n"))

/-- Import the cards of a file. -/
def runImport (directory : Directory) (path : String) : Directory × Outcome :=
  match directory.loadSettings with
  | .error failure => (directory, .ofResult (.error failure))
  | .ok _ =>
      match directory.importFile path with
      | .error failure => (directory, .ofResult (.error failure))
      | .ok (directory, count) =>
          (directory, .ofResult (.ok ("Imported " ++ natText count ++ " cards from " ++ path ++ "\n")))

/-- Tell the root of a directory, and then the size of the catalog and the settings. -/
def runStatistics (directory : Directory) : Outcome :=
  match directory.openWithSettings with
  | .error failure => .ofResult (.error failure)
  | .ok settings =>
      .ofResultAfter ("Root:   " ++ settings.root.shown ++ "\n") (directory.statistics settings)

/-- Carry out a command. -/
def run (directory : Directory) : Command → Directory × Outcome
  | .create => runCreate directory
  | .importFile path => runImport directory path
  | .search query limit format includeExtras =>
      (directory, .ofResult ((directory.runSearch query limit includeExtras).map format.render))
  | .card id =>
      (directory, .ofResult do
        let _ ← directory.openWithSettings
        .ok ((← directory.card id).toJson.pretty ++ "\n"))
  | .keys => (directory, .ofResult (.ok (String.join (SearchKey.allSpellings.map (· ++ "\n")))))
  | .compile query format showTokens =>
      (directory, .ofResult (.ok (queryText query format showTokens)))
  | .stats => (directory, runStatistics directory)

end Command

/-- The text that describes the version. -/
def versionText : String :=
  "scq 0.1.0\n"

/-- The lines that describe the arguments. -/
def usageLines : List String :=
  ["Usage: scq [OPTIONS] <COMMAND>",
   "",
   "Commands:",
   "  init                   Make the card catalog",
   "  import <FILE>          Import cards from a card file (.json or .json.gz)",
   "  search, s <QUERY>      Search the catalog",
   "  card <ID>              Show the card with an id",
   "  keys                   List the search keys",
   "  compile, c <QUERY>     Show what a query means",
   "  stats                  Show the size of the catalog and the settings",
   "  help                   Show this text",
   "",
   "Options:",
   "  -n, --limit <LIMIT>    The most cards that a search shows",
   "  -f, --format <FORMAT>  table or json for a search; text, json or sql for a query",
   "      --include-extras   Show tokens, emblems and other extras",
   "  -t, --tokens           Show the tokens of a query",
   "  -v, --verbose          Accepted by every command",
   "  -h, --help             Show this text",
   "  -V, --version          Show the version"]

/-- The text that describes the arguments. -/
def usageText : String :=
  String.join (usageLines.map (· ++ "\n"))

/-- Run the program on a directory with arguments. -/
def runProgram (directory : Directory) (arguments : List String) : Directory × Outcome :=
  match Arguments.parse? arguments with
  | none => (directory, ⟨2, "", none⟩)
  | some .help => (directory, ⟨0, usageText, none⟩)
  | some .version => (directory, ⟨0, versionText, none⟩)
  | some (.command command) => command.run directory

end CardCatalog
