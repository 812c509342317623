import SchemaChange.ReportKeywords
import SchemaChange.Proofs.Config.Located
import SchemaChange.Proofs.Config.Password
import SchemaChange.Proofs.Config.Rejected
import SchemaChange.Proofs.Config.Reported
import SchemaChange.Proofs.Config.Settings
import SchemaChange.Proofs.Config.Target
import SchemaChange.Proofs.Dialect.ColumnType
import SchemaChange.Proofs.Dialect.Constraint
import SchemaChange.Proofs.Dialect.KnownType
import SchemaChange.Proofs.Dialect.PrimaryKey
import SchemaChange.Proofs.Dialect.TextSize
import SchemaChange.Proofs.Masking.KeywordSecret
import SchemaChange.Proofs.Masking.UriPassword
import SchemaChange.Proofs.Operation.Bookkeeping
import SchemaChange.Proofs.Operation.TableShape
import SchemaChange.Proofs.Session.Atomicity
import SchemaChange.Proofs.Session.Audit
import SchemaChange.Proofs.Session.Binding
import SchemaChange.Proofs.Session.Closing
import SchemaChange.Proofs.Session.ColumnChange
import SchemaChange.Proofs.Session.Cursors
import SchemaChange.Proofs.Session.Delivery
import SchemaChange.Proofs.Session.Descriptions
import SchemaChange.Proofs.Session.Dispatched
import SchemaChange.Proofs.Session.DryRun
import SchemaChange.Proofs.Session.Envelopes
import SchemaChange.Proofs.Session.Ownership
import SchemaChange.Proofs.Session.PreparedStatements
import SchemaChange.Proofs.Session.Preview
import SchemaChange.Proofs.Session.Queries
import SchemaChange.Proofs.Session.ReadFirst
import SchemaChange.Proofs.Session.RecordedTimes
import SchemaChange.Proofs.Session.Releases
import SchemaChange.Proofs.Session.Secrecy
import SchemaChange.Proofs.Session.VersionGate
import SchemaChange.Proofs.Statement.Beginning
import SchemaChange.Proofs.Statement.Inlined
import SchemaChange.Proofs.Statement.Numbering
