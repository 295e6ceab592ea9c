import Latchkey.Bytes.Base64Url
import Latchkey.Bytes.Basic
import Latchkey.Bytes.Der
import Latchkey.Bytes.Pem
import Latchkey.Bytes.Utf8
import Latchkey.Daemon
import Latchkey.Database.Address
import Latchkey.Database.Answer
import Latchkey.Database.Connection
import Latchkey.Database.Keys
import Latchkey.Database.Operation
import Latchkey.Database.Peer
import Latchkey.Database.Schema
import Latchkey.Database.Statement
import Latchkey.Database.TokenLedger
import Latchkey.Decimal.Binary64
import Latchkey.Decimal.Numeral
import Latchkey.Decimal.Shortest
import Latchkey.Digest.Hmac
import Latchkey.Digest.Sha256
import Latchkey.Digest.Sha512
import Latchkey.Ed25519.Curve
import Latchkey.Ed25519.PrivateKeyInfo
import Latchkey.Ed25519.Signature
import Latchkey.Error
import Latchkey.Json.Number
import Latchkey.Json.Record
import Latchkey.Json.Text
import Latchkey.Json.Tree
import Latchkey.Json.Value
import Latchkey.Key.Encryption
import Latchkey.Key.Maintenance
import Latchkey.Key.Pool
import Latchkey.Key.Signing
import Latchkey.Key.Stored
import Latchkey.Key.Window
import Latchkey.Ledger.Record
import Latchkey.Ledger.Store
import Latchkey.Main
import Latchkey.Program
import Latchkey.Proofs.Bytes.Base64Url
import Latchkey.Proofs.Bytes.Text
import Latchkey.Proofs.Database.Collation
import Latchkey.Proofs.Database.KeyMeaning
import Latchkey.Proofs.Database.KeyMirror
import Latchkey.Proofs.Database.KeyTables
import Latchkey.Proofs.Database.Meaning
import Latchkey.Proofs.Database.Mirror
import Latchkey.Proofs.Database.Rotation
import Latchkey.Proofs.Database.Table
import Latchkey.Proofs.Decimal.Numeral
import Latchkey.Proofs.Ed25519.Envelope
import Latchkey.Proofs.Json.Number
import Latchkey.Proofs.Json.Record
import Latchkey.Proofs.Json.Text
import Latchkey.Proofs.Json.Tree
import Latchkey.Proofs.Json.Value
import Latchkey.Proofs.Key.Aged
import Latchkey.Proofs.Key.Crew
import Latchkey.Proofs.Key.Generated
import Latchkey.Proofs.Key.History
import Latchkey.Proofs.Key.Keeping
import Latchkey.Proofs.Key.NextPass
import Latchkey.Proofs.Key.OneByOne
import Latchkey.Proofs.Key.Replenishing
import Latchkey.Proofs.Key.Report
import Latchkey.Proofs.Key.Stock
import Latchkey.Proofs.Key.Upkeep
import Latchkey.Proofs.Key.Usable
import Latchkey.Proofs.Key.Window
import Latchkey.Proofs.Ledger.Aging
import Latchkey.Proofs.Ledger.Books
import Latchkey.Proofs.Ledger.Calls
import Latchkey.Proofs.Ledger.Spending
import Latchkey.Proofs.Ledger.Views
import Latchkey.Proofs.Schedule.Completion
import Latchkey.Proofs.Schedule.Directory
import Latchkey.Proofs.Schedule.EverySlot
import Latchkey.Proofs.Schedule.KeyTasks
import Latchkey.Proofs.Schedule.Leading
import Latchkey.Proofs.Schedule.Lifecycle
import Latchkey.Proofs.Schedule.NextSlot
import Latchkey.Proofs.Schedule.Once
import Latchkey.Proofs.Session.Alone
import Latchkey.Proofs.Session.Atomicity
import Latchkey.Proofs.Session.Call
import Latchkey.Proofs.Session.Continuity
import Latchkey.Proofs.Session.Correspondence
import Latchkey.Proofs.Session.Credit
import Latchkey.Proofs.Session.Forward
import Latchkey.Proofs.Session.Lineage
import Latchkey.Proofs.Session.Logout
import Latchkey.Proofs.Session.OneWinner
import Latchkey.Proofs.Session.Overlap
import Latchkey.Proofs.Session.Ownership
import Latchkey.Proofs.Session.Presented
import Latchkey.Proofs.Session.Provenance
import Latchkey.Proofs.Session.Race
import Latchkey.Proofs.Session.Renewal
import Latchkey.Proofs.Session.Run
import Latchkey.Proofs.Session.Separation
import Latchkey.Proofs.Session.Service
import Latchkey.Proofs.Session.Signing
import Latchkey.Proofs.Session.Steps
import Latchkey.Proofs.Session.Succession
import Latchkey.Proofs.Session.Tending
import Latchkey.Proofs.Settings.Layering
import Latchkey.Proofs.Settings.Sections
import Latchkey.Proofs.Settings.Slots
import Latchkey.Proofs.Settings.Validated
import Latchkey.Proofs.Settings.Variables
import Latchkey.Proofs.Settings.Verbatim
import Latchkey.Proofs.Time.Exact
import Latchkey.Proofs.Time.Instant
import Latchkey.Proofs.Time.Span
import Latchkey.Proofs.Token.Check
import Latchkey.Proofs.Token.Expiry
import Latchkey.Proofs.Token.Genuine
import Latchkey.Proofs.Token.Issued
import Latchkey.Proofs.Token.Message
import Latchkey.Proofs.Token.Parts
import Latchkey.Proofs.Token.Payload
import Latchkey.Proofs.Token.Readers
import Latchkey.Proofs.Token.RoundTrip
import Latchkey.Proofs.Toml.Names
import Latchkey.Proofs.Uuid
import Latchkey.Rsa.KeyPair
import Latchkey.Rsa.Prime
import Latchkey.Schedule.Clock
import Latchkey.Schedule.Daily
import Latchkey.Schedule.KeyTasks
import Latchkey.Schedule.Registry
import Latchkey.Schedule.Scheduler
import Latchkey.Schedule.Task
import Latchkey.Schedule.Timeline
import Latchkey.Session.Flow
import Latchkey.Session.Rehearsal
import Latchkey.Session.Request
import Latchkey.Session.World
import Latchkey.Settings.Assignments
import Latchkey.Settings.Layer
import Latchkey.Settings.Raw
import Latchkey.Settings.Sections
import Latchkey.Settings.Sources
import Latchkey.Settings.Taking
import Latchkey.Settings.Validation
import Latchkey.Text.Blank
import Latchkey.Text.Description
import Latchkey.Text.Padded
import Latchkey.Text.Quoted
import Latchkey.Text.Visible
import Latchkey.Time.Calendar
import Latchkey.Time.Instant
import Latchkey.Time.Rfc3339
import Latchkey.Token.Algorithm
import Latchkey.Token.Claims
import Latchkey.Token.Codec
import Latchkey.Token.Compact
import Latchkey.Token.Header
import Latchkey.Token.Issued
import Latchkey.Token.Rejection
import Latchkey.Toml.Reader
import Latchkey.Toml.Scalar
import Latchkey.Toml.Table
import Latchkey.Uuid
