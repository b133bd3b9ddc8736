import Keyset.Aggregate
import Keyset.Bytes.Adler32
import Keyset.Bytes.Base64
import Keyset.Bytes.CodeLengths
import Keyset.Bytes.Deflate
import Keyset.Bytes.Hmac
import Keyset.Bytes.Huffman
import Keyset.Bytes.Inflate
import Keyset.Bytes.Match
import Keyset.Bytes.Sha1
import Keyset.Calendar.Date
import Keyset.Calendar.DateTime
import Keyset.Calendar.Iso
import Keyset.Calendar.Text
import Keyset.Cursor.Codec
import Keyset.Cursor.Kind
import Keyset.Cursor.Timestamp
import Keyset.Cursor.Token
import Keyset.Encoding
import Keyset.Encoding.Basic
import Keyset.Encoding.Big5
import Keyset.Encoding.Charset
import Keyset.Encoding.Charset.Iso
import Keyset.Encoding.Charset.Mac
import Keyset.Encoding.Charset.Mainframe
import Keyset.Encoding.Charset.National
import Keyset.Encoding.Charset.Pc
import Keyset.Encoding.Charset.Windows
import Keyset.Encoding.Chinese
import Keyset.Encoding.Designated
import Keyset.Encoding.Domain
import Keyset.Encoding.Escaped
import Keyset.Encoding.Grid
import Keyset.Encoding.Grid.Big5
import Keyset.Encoding.Grid.Cp932
import Keyset.Encoding.Grid.Gb18030
import Keyset.Encoding.Grid.Gb2312
import Keyset.Encoding.Grid.Hkscs
import Keyset.Encoding.Grid.Jisx0208
import Keyset.Encoding.Grid.Jisx0212
import Keyset.Encoding.Grid.Jisx0213
import Keyset.Encoding.Grid.Ksx1001
import Keyset.Encoding.Japanese
import Keyset.Encoding.Korean
import Keyset.Encoding.Punycode
import Keyset.Encoding.Shifted
import Keyset.Encoding.Stepwise
import Keyset.Encoding.Wide
import Keyset.Envelope
import Keyset.Error.Basic
import Keyset.Error.Foreign
import Keyset.Error.Report
import Keyset.Fault
import Keyset.Field
import Keyset.Filter.Clause
import Keyset.Filter.Compile
import Keyset.Filter.Escape
import Keyset.Journal.Basic
import Keyset.Journal.Event
import Keyset.Journal.Layout
import Keyset.Journal.Line
import Keyset.Journal.Template
import Keyset.Json.Basic
import Keyset.Json.Encodable
import Keyset.Log
import Keyset.Number.Basic
import Keyset.Number.Double
import Keyset.Number.Literal
import Keyset.Number.Places
import Keyset.Number.Shortest
import Keyset.Page.Basic
import Keyset.Page.Info
import Keyset.Page.Metrics
import Keyset.Page.Order
import Keyset.Pipeline.Build
import Keyset.Pipeline.Stage
import Keyset.Proofs.Aggregate
import Keyset.Proofs.Bytes.Base64
import Keyset.Proofs.Bytes.Bits
import Keyset.Proofs.Bytes.BlockCodes
import Keyset.Proofs.Bytes.CodeLengths
import Keyset.Proofs.Bytes.Deflate
import Keyset.Proofs.Bytes.Depths
import Keyset.Proofs.Bytes.Forest
import Keyset.Proofs.Bytes.Huffman
import Keyset.Proofs.Bytes.Match
import Keyset.Proofs.Bytes.Runs
import Keyset.Proofs.Bytes.Symbols
import Keyset.Proofs.Calendar
import Keyset.Proofs.Calendar.Clock
import Keyset.Proofs.Calendar.Iso
import Keyset.Proofs.Calendar.Week
import Keyset.Proofs.Calendar.Zone
import Keyset.Proofs.Continuation
import Keyset.Proofs.Cursor.Failure
import Keyset.Proofs.Cursor.Integrity
import Keyset.Proofs.Cursor.RoundTrip
import Keyset.Proofs.Cursor.Signing
import Keyset.Proofs.Cursor.Temporal
import Keyset.Proofs.Cursor.Token
import Keyset.Proofs.Envelope
import Keyset.Proofs.Error
import Keyset.Proofs.Fault
import Keyset.Proofs.Field
import Keyset.Proofs.Field.Name
import Keyset.Proofs.Field.Path
import Keyset.Proofs.Filter.Clauses
import Keyset.Proofs.Filter.Entries
import Keyset.Proofs.Filter.Literal
import Keyset.Proofs.Filter.Operators
import Keyset.Proofs.Filter.Reading
import Keyset.Proofs.Filter.Strict
import Keyset.Proofs.Json
import Keyset.Proofs.Number.HalfUp
import Keyset.Proofs.Number.Nearest
import Keyset.Proofs.Number.Rounding
import Keyset.Proofs.Operation
import Keyset.Proofs.Outcome
import Keyset.Proofs.Page.Metrics
import Keyset.Proofs.Page.Number
import Keyset.Proofs.Pipeline
import Keyset.Proofs.Query
import Keyset.Proofs.Query.Fetch
import Keyset.Proofs.Repository.Admission
import Keyset.Proofs.Repository.Containment
import Keyset.Proofs.Schema.Request
import Keyset.Proofs.Session
import Keyset.Proofs.Session.Limit
import Keyset.Proofs.Session.Names
import Keyset.Proofs.Session.Run
import Keyset.Proofs.Settings.Annotation
import Keyset.Proofs.Settings.Declared
import Keyset.Proofs.Settings.EnvFile
import Keyset.Proofs.Settings.Precedence
import Keyset.Proofs.Store
import Keyset.Proofs.Text.Utf8
import Keyset.Proofs.Value.Key
import Keyset.Proofs.Value.Text
import Keyset.Proofs.Walk.Basic
import Keyset.Proofs.Walk.Complete
import Keyset.Proofs.Walk.Cut
import Keyset.Proofs.Walk.Metadata
import Keyset.Repository
import Keyset.Schema.Check
import Keyset.Schema.Config
import Keyset.Schema.Model
import Keyset.Schema.Request
import Keyset.Session
import Keyset.Settings.Annotation
import Keyset.Settings.EnvFile
import Keyset.Settings.Files
import Keyset.Settings.Page
import Keyset.Settings.Resolve
import Keyset.Text.Blank
import Keyset.Text.Casing
import Keyset.Text.DecimalDigit
import Keyset.Text.Printable
import Keyset.Text.Quoted
import Keyset.Text.Utf8
import Keyset.Value.Basic
import Keyset.Value.Elements
import Keyset.Value.Equal
import Keyset.Value.Key
import Keyset.Value.Text
import Keyset.Proofs.Cursor.Canonical
import Keyset.Proofs.Session.Sides
