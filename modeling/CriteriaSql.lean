import CriteriaSql.Text.Blank
import CriteriaSql.Text.Hex
import CriteriaSql.Floating.Text
import CriteriaSql.Decimal.Reader
import CriteriaSql.Decimal.OfBinary
import CriteriaSql.Calendar.Text
import CriteriaSql.Identifier.Source
import CriteriaSql.Json.Parser
import CriteriaSql.Json.Printer
import CriteriaSql.Event
import CriteriaSql.Record
import CriteriaSql.Schema
import CriteriaSql.Clause
import CriteriaSql.Filter.Document
import CriteriaSql.Statement
import CriteriaSql.Config
import CriteriaSql.Staged
import CriteriaSql.UpdateDoc
import CriteriaSql.Column.Encode
import CriteriaSql.Column.Decode
import CriteriaSql.Database.Pool
import CriteriaSql.Database.Script
import CriteriaSql.Database.Session
import CriteriaSql.Model.Operations
import CriteriaSql.Model.Call
import CriteriaSql.Proofs.Result
import CriteriaSql.Proofs.Record
import CriteriaSql.Proofs.Filter
import CriteriaSql.Proofs.Marker
import CriteriaSql.Proofs.Assembly
import CriteriaSql.Proofs.Numbering
import CriteriaSql.Proofs.Trusted
import CriteriaSql.Proofs.Staged
import CriteriaSql.Proofs.Scan
import CriteriaSql.Proofs.Run
import CriteriaSql.Proofs.Requests
import CriteriaSql.Proofs.Agreement
import CriteriaSql.Proofs.Alike
import CriteriaSql.Proofs.NonInterference
import CriteriaSql.Proofs.WhereClause
import CriteriaSql.Proofs.Deletion
import CriteriaSql.Proofs.Writes
import CriteriaSql.Proofs.Upsert
import CriteriaSql.Proofs.FlatClause
import CriteriaSql.Proofs.Recovery
import CriteriaSql.Proofs.Relocation
import CriteriaSql.Proofs.Composition
import CriteriaSql.Proofs.History
import CriteriaSql.Proofs.Document
import CriteriaSql.Proofs.Faults
import CriteriaSql.Proofs.Policy
import CriteriaSql.Proofs.Emptying
import CriteriaSql.Proofs.Commutation
import CriteriaSql.Proofs.Exchanges
import CriteriaSql.Proofs.FailStop
import CriteriaSql.Proofs.ByteString
import CriteriaSql.Proofs.Calendar
import CriteriaSql.Proofs.CalendarText
import CriteriaSql.Proofs.IdentifierText
import CriteriaSql.Proofs.Restoration
import CriteriaSql.Proofs.TypedCalls
import CriteriaSql.Proofs.StrictReading
import CriteriaSql.Proofs.IntegerText
import CriteriaSql.Proofs.DecimalColumn
import CriteriaSql.Proofs.FloatBinding
import CriteriaSql.Proofs.Assignments
import CriteriaSql.Proofs.Relevance
import CriteriaSql.Proofs.Selection
import CriteriaSql.Proofs.Edits
import CriteriaSql.Proofs.Insertion
import CriteriaSql.Proofs.Merging
import CriteriaSql.Proofs.RecordViews
import CriteriaSql.Proofs.Truncation
import CriteriaSql.Proofs.JsonRoundTrip
import CriteriaSql.Proofs.ByteScan
import CriteriaSql.Proofs.Validation
