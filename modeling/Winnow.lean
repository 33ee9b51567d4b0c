import Winnow.Filter.Edit
import Winnow.Main
import Winnow.Proofs.Filter.Binding
import Winnow.Proofs.Filter.Selection
import Winnow.Proofs.Cell.Order
import Winnow.Proofs.Spec.Grammar
import Winnow.Proofs.Summary.Distinct
import Winnow.Proofs.Session.Runs
import Winnow.Proofs.Source.Steady
import Winnow.Proofs.Source.Facets
import Winnow.Proofs.Summary.Range
import Winnow.Proofs.Registry.Slider
import Winnow.Proofs.Source.Checked
import Winnow.Proofs.Registry.Answers
import Winnow.Proofs.Filter.Context
import Winnow.Proofs.Filter.Laws
import Winnow.Proofs.Registry.Registered
import Winnow.Proofs.Session.Pulls
import Winnow.Proofs.Source.Turns
import Winnow.Proofs.Registry.Pulls
import Winnow.Proofs.Cell.Stable
import Winnow.Proofs.Summary.Union
import Winnow.Proofs.Registry.Union
import Winnow.Proofs.Filter.Locality
import Winnow.Proofs.Filter.Polarity
import Winnow.Proofs.Registry.Isolation
import Winnow.Proofs.Registry.Agreement
import Winnow.Proofs.Table.Conforming
import Winnow.Proofs.Table.Documents
import Winnow.Proofs.Source.Histories
import Winnow.Proofs.Columnar.Columns
import Winnow.Proofs.Columnar.Transposed
import Winnow.Proofs.Source.Replaced
import Winnow.Proofs.CommandLine.Jobs
import Winnow.Proofs.CommandLine.Judgement
import Winnow.Proofs.Table.ReadBack
import Winnow.Proofs.Spec.Violations
import Winnow.Proofs.Summary.Representatives
import Winnow.Proofs.Source.Steps
import Winnow.Proofs.CommandLine.Loading
import Winnow.Proofs.CommandLine.Outcome
import Winnow.Proofs.Cell.Below
import Winnow.Proofs.Summary.Gaps
import Winnow.Proofs.Summary.Steps
import Winnow.Proofs.Summary.Neighbours
import Winnow.Proofs.Source.Integers
import Winnow.Proofs.Summary.Merging
import Winnow.Proofs.Registry.Renamed
import Winnow.Proofs.Filter.Exact
import Winnow.Proofs.Table.Listed
import Winnow.Proofs.RowSet.Steps
import Winnow.Proofs.Columnar.Entries
import Winnow.Proofs.Source.Unchanged
import Winnow.Proofs.Files.Scan
import Winnow.Proofs.CommandLine.Tables
import Winnow.Proofs.Cell.Preorder
