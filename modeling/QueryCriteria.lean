import QueryCriteria.Value.Tagged
import QueryCriteria.Main
import QueryCriteria.Proofs.Numbering
import QueryCriteria.Proofs.ParameterNames
import QueryCriteria.Proofs.Layout
import QueryCriteria.Proofs.ValueIndependence
import QueryCriteria.Proofs.Printing
import QueryCriteria.Proofs.Scanning
import QueryCriteria.Proofs.Binding
import QueryCriteria.Proofs.Reading
import QueryCriteria.Proofs.HiddenOperands
import QueryCriteria.Proofs.Merging
import QueryCriteria.Proofs.Recovery
import QueryCriteria.Proofs.WellFormed
import QueryCriteria.Proofs.Meaning
import QueryCriteria.Proofs.Conversion
import QueryCriteria.Proofs.Combinators
import QueryCriteria.Proofs.Writing
import QueryCriteria.Proofs.Dialects
import QueryCriteria.Proofs.Placeholders
import QueryCriteria.Proofs.Histories
import QueryCriteria.Proofs.Positions
import QueryCriteria.Proofs.TextConditions
import QueryCriteria.Proofs.Selection
import QueryCriteria.Proofs.Scalars
import QueryCriteria.Proofs.Boundaries
import QueryCriteria.Proofs.Literals
import QueryCriteria.Proofs.Settled
import QueryCriteria.Proofs.Faults
import QueryCriteria.Proofs.Columns
import QueryCriteria.Proofs.Spellings
import QueryCriteria.Proofs.FromClause
import QueryCriteria.Proofs.PlainNames
import QueryCriteria.Proofs.Expressions
import QueryCriteria.Proofs.Doubles
import QueryCriteria.Proofs.Reports
