import SnowflakeSql.Column.Builder
import SnowflakeSql.Inspect.Client
import SnowflakeSql.Inspect.Statement
import SnowflakeSql.Json.Reader
import SnowflakeSql.Session.Script
import SnowflakeSql.Submission
import SnowflakeSql.Proofs.Placeholder.Rendering
import SnowflakeSql.Proofs.Placeholder.Places
import SnowflakeSql.Proofs.Session.Reach
import SnowflakeSql.Proofs.Session.Slot
import SnowflakeSql.Proofs.Session.SlotLaw
import SnowflakeSql.Proofs.Session.Starts
import SnowflakeSql.Proofs.Session.OneStatement
import SnowflakeSql.Proofs.Identifier.Agreement
import SnowflakeSql.Proofs.Identifier.QuotedNames
import SnowflakeSql.Proofs.Session.Delivery
import SnowflakeSql.Proofs.Response.ColumnInfo
import SnowflakeSql.Proofs.Response.Plucked
import SnowflakeSql.Proofs.Identifier.Items
import SnowflakeSql.Proofs.Response.ResultNames
import SnowflakeSql.Proofs.Session.Milestones
import SnowflakeSql.Proofs.Session.Quiet
import SnowflakeSql.Proofs.Session.Lifecycle
import SnowflakeSql.Proofs.Session.Validity
import SnowflakeSql.Proofs.Session.Submitted
import SnowflakeSql.Proofs.Session.Savepoints
import SnowflakeSql.Proofs.Session.SavepointNames
import SnowflakeSql.Proofs.Query.BoundData
import SnowflakeSql.Proofs.Identifier.SelectList
import SnowflakeSql.Proofs.Response.RoundTrip
import SnowflakeSql.Proofs.Schema.Concatenation
import SnowflakeSql.Proofs.Query.InsertMatrix
import SnowflakeSql.Proofs.Query.InsertedNames
import SnowflakeSql.Proofs.Session.Executions
import SnowflakeSql.Proofs.Session.Cancelling
import SnowflakeSql.Proofs.Query.Refusals
import SnowflakeSql.Proofs.Query.CallOrder
import SnowflakeSql.Proofs.Response.FirstRow
import SnowflakeSql.Proofs.Response.KeyCollisions
import SnowflakeSql.Proofs.Response.ChangedRows
import SnowflakeSql.Proofs.Response.Recased
import SnowflakeSql.Proofs.Table.Commands
import SnowflakeSql.Proofs.Column.Erasure
import SnowflakeSql.Proofs.Column.Nullability
import SnowflakeSql.Proofs.Table.ConstraintNames
import SnowflakeSql.Proofs.Table.ColumnLists
import SnowflakeSql.Proofs.Column.Divergence
import SnowflakeSql.Proofs.Literal.Single
import SnowflakeSql.Proofs.Literal.Modifiers
import SnowflakeSql.Proofs.Literal.Escapes
import SnowflakeSql.Proofs.Value.Lossless
import SnowflakeSql.Proofs.Settings.Normalization
import SnowflakeSql.Proofs.Settings.Concealment
import SnowflakeSql.Proofs.Identifier.SingleCut
