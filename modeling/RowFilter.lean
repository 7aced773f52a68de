import RowFilter.Workspace
import RowFilter.Sql.Rendered
import RowFilter.Entity.Signature
import RowFilter.Proofs.Parts
import RowFilter.Proofs.Events
import RowFilter.Proofs.Layout
import RowFilter.Proofs.Writing
import RowFilter.Proofs.Outcome
import RowFilter.Proofs.QuotedNames
import RowFilter.Proofs.Codes
import RowFilter.Proofs.Placeholders
import RowFilter.Proofs.UniqueReading
import RowFilter.Proofs.Composition
import RowFilter.Proofs.Alike
import RowFilter.Proofs.Legality
import RowFilter.Proofs.Plans
import RowFilter.Proofs.DraftRuns
import RowFilter.Proofs.Dialects
import RowFilter.Proofs.Renaming
import RowFilter.Proofs.FunctionChains
import RowFilter.Proofs.InTurn
import RowFilter.Proofs.Enclosing
import RowFilter.Proofs.Offsets
import RowFilter.Proofs.Combination
import RowFilter.Proofs.Remaking
import RowFilter.Proofs.Amounts
import RowFilter.Proofs.Agreement
import RowFilter.Proofs.Congruence
import RowFilter.Proofs.Making
import RowFilter.Proofs.Walks
import RowFilter.Proofs.Declarations
import RowFilter.Proofs.LiteralTexts
import RowFilter.Proofs.Descriptions
import RowFilter.Proofs.NamesInContext
import RowFilter.Proofs.Escapes
import RowFilter.Proofs.Tokens
import RowFilter.Proofs.ShortestDecimal
import RowFilter.Proofs.Forms
import RowFilter.Proofs.FaithfulTypes
import RowFilter.Proofs.FaithfulExpressions
import RowFilter.Proofs.NormalizedTypes
