import BulkDml.Dialect.Identifier
import BulkDml.Fragment.Stream
import BulkDml.Json.Tagged
import BulkDml.Mapping.Names
import BulkDml.Proofs.Clause.Normal
import BulkDml.Proofs.Clause.Reading
import BulkDml.Proofs.Clause.Token
import BulkDml.Proofs.Clause.Written
import BulkDml.Proofs.Condition.Written
import BulkDml.Proofs.Session.Atomicity
import BulkDml.Proofs.Session.Calls
import BulkDml.Proofs.Session.Exactness
import BulkDml.Proofs.Session.Exchange
import BulkDml.Proofs.Session.Protocol
import BulkDml.Proofs.Session.Table
import BulkDml.Proofs.Store.Rows
import BulkDml.Session.Basic
import BulkDml.Session.Script
import BulkDml.Store.Engine
import BulkDml.Proofs.Assignment.Written
import BulkDml.Proofs.Statement.Legible
import BulkDml.Proofs.Assignment.Compiled
import BulkDml.Proofs.Assignment.Reading
import BulkDml.Proofs.Statement.Markers
import BulkDml.Proofs.Statement.Bound
import BulkDml.Proofs.Statement.Tokens
import BulkDml.Proofs.Statement.Numbered
import BulkDml.Proofs.Plan.Limit
import BulkDml.Proofs.Statement.Outline
import BulkDml.Proofs.Plan.Sampled
import BulkDml.Proofs.Plan.Restriction
import BulkDml.Proofs.Session.Faults
import BulkDml.Proofs.Statement.Backends
import BulkDml.Proofs.Session.Discretion
import BulkDml.Proofs.Assignment.Writes
import BulkDml.Proofs.Assignment.Derived
import BulkDml.Proofs.Assignment.Typing
import BulkDml.Proofs.Assignment.Template
import BulkDml.Proofs.Session.Chunking
import BulkDml.Proofs.Traversal
import BulkDml.Proofs.Clause.Translatable
import BulkDml.Proofs.Assignment.Order
import BulkDml.Proofs.Value.Unset
import BulkDml.Proofs.Assignment.Entries
import BulkDml.Proofs.Plan.Transfer
import BulkDml.Proofs.Mapping.Lookup
import BulkDml.Proofs.Dialect.Quoting
import BulkDml.Proofs.Fragment.Program
import BulkDml.Proofs.Assignment.Concatenation
import BulkDml.Proofs.Json.Tagged
