import SqlFilter.Expr.Build
import SqlFilter.Host.FileTree
import SqlFilter.Main
import SqlFilter.Schema.Json
import SqlFilter.Proofs.Canonical
import SqlFilter.Proofs.Condition.Grouped
import SqlFilter.Proofs.Grammar.Predicate
import SqlFilter.Proofs.Meaning
import SqlFilter.Proofs.OnePass
import SqlFilter.Proofs.Pattern
import SqlFilter.Proofs.Skeleton
import SqlFilter.Proofs.Statement.SetColumns
import SqlFilter.Proofs.Inert
import SqlFilter.Proofs.Statement.Inert
import SqlFilter.Proofs.Statement.Filtered
import SqlFilter.Proofs.Statement.Narrowed
import SqlFilter.Proofs.Statement.Addressed
import SqlFilter.Proofs.Statement.RowWrites
import SqlFilter.Proofs.Statement.RowValues
import SqlFilter.Proofs.Sections
import SqlFilter.Proofs.Json.Reordered
import SqlFilter.Proofs.Json.Value
import SqlFilter.Proofs.Json.Expr
import SqlFilter.Proofs.Layout
import SqlFilter.Proofs.Declared
import SqlFilter.Proofs.Escaped
import SqlFilter.Proofs.Dotted
import SqlFilter.Proofs.FieldNames
import SqlFilter.Proofs.Rebound
import SqlFilter.Proofs.Layers
import SqlFilter.Proofs.FirstFault
import SqlFilter.Proofs.Json.Reading
import SqlFilter.Proofs.Registry
import SqlFilter.Proofs.Numbering
