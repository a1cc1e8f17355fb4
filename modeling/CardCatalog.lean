import CardCatalog.Main
import CardCatalog.Proofs.Card.WholeNumber
import CardCatalog.Proofs.Catalog.LetterCase
import CardCatalog.Proofs.Catalog.Membership
import CardCatalog.Proofs.Command.Extras
import CardCatalog.Proofs.Command.Session
import CardCatalog.Proofs.Condition.Meaning
import CardCatalog.Proofs.Directory.CardFile
import CardCatalog.Proofs.Directory.Import
import CardCatalog.Proofs.Directory.QuerySearch
import CardCatalog.Proofs.Directory.Search
import CardCatalog.Proofs.Directory.Settings
import CardCatalog.Proofs.Number.Division
import CardCatalog.Proofs.Query.ColorSets
import CardCatalog.Proofs.Query.Cursor
import CardCatalog.Proofs.Query.Encoding
import CardCatalog.Proofs.Query.Grouping
import CardCatalog.Proofs.Query.Height
import CardCatalog.Proofs.Query.Merging
import CardCatalog.Proofs.Query.NumberGrammar
import CardCatalog.Proofs.Query.Ordering
import CardCatalog.Proofs.Query.Parity
import CardCatalog.Proofs.Query.Phrase
import CardCatalog.Proofs.Query.Quoting
import CardCatalog.Proofs.Query.Sequence
import CardCatalog.Proofs.Query.Spacing
import CardCatalog.Proofs.Query.SuperfluousOr
import CardCatalog.Proofs.Query.TermGrammar
import CardCatalog.Proofs.Query.Unequal
import CardCatalog.Proofs.Query.Written
