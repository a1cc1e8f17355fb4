import CardCatalog.Catalog.SortOrder
import CardCatalog.Path

/-!
# Settings

What a catalog's owner may choose: how many cards a search shows, whether it shows extras, and in
which order. Settings belong to a root, the directory under which everything is kept.
-/

namespace CardCatalog

/-- The settings of the catalog under a root. -/
structure Settings where
  root : Path
  defaultLimit : UInt64
  includeExtras : Bool
  order : SortOrder
deriving DecidableEq

namespace Settings

/-- The limit of a search unless something else is asked for. -/
def initialLimit : UInt64 :=
  50

/-- The settings of a root before anything is chosen. -/
def initial (root : Path) : Settings :=
  ⟨root, initialLimit, false, .name⟩

end Settings

end CardCatalog
