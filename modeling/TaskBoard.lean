import TaskBoard.Credentials
import TaskBoard.Entries
import TaskBoard.Failure
import TaskBoard.Json.Document
import TaskBoard.Json.Reader
import TaskBoard.Json.Writer
import TaskBoard.Log
import TaskBoard.Main
import TaskBoard.Number.Binary64
import TaskBoard.Number.Digits
import TaskBoard.Proofs.Calendar
import TaskBoard.Proofs.Credentials
import TaskBoard.Proofs.Credentials.Endings
import TaskBoard.Proofs.Credentials.Selection
import TaskBoard.Proofs.Decimals
import TaskBoard.Proofs.Entries
import TaskBoard.Proofs.Json.Flaws
import TaskBoard.Proofs.Json.Floats
import TaskBoard.Proofs.Json.Lines
import TaskBoard.Proofs.Json.Numbers
import TaskBoard.Proofs.Json.Reading
import TaskBoard.Proofs.Json.Texts
import TaskBoard.Proofs.Log.Lines
import TaskBoard.Proofs.Numerals
import TaskBoard.Proofs.Octets.Base64
import TaskBoard.Proofs.Octets.Decoding
import TaskBoard.Proofs.Octets.Utf8
import TaskBoard.Proofs.Order
import TaskBoard.Proofs.Outcome
import TaskBoard.Proofs.Services.Agreement
import TaskBoard.Proofs.Services.Effects
import TaskBoard.Proofs.Services.Identifiers
import TaskBoard.Proofs.Services.Marking
import TaskBoard.Proofs.Services.Reached
import TaskBoard.Proofs.Services.Runs
import TaskBoard.Proofs.Services.Serving
import TaskBoard.Proofs.Settings.Calls
import TaskBoard.Proofs.Settings.Precedence
import TaskBoard.Proofs.Settings.References
import TaskBoard.Proofs.Settings.Sources
import TaskBoard.Proofs.Stamp.Order
import TaskBoard.Proofs.Stamp.Reading
import TaskBoard.Proofs.Stamp.Rfc3339
import TaskBoard.Proofs.Startup
import TaskBoard.Proofs.Stores.Contents
import TaskBoard.Proofs.Stores.Counter
import TaskBoard.Proofs.Stores.Effects
import TaskBoard.Proofs.Stores.InMemory
import TaskBoard.Proofs.Stores.InTable
import TaskBoard.Proofs.Stores.Laws
import TaskBoard.Proofs.Stores.Legibility
import TaskBoard.Proofs.Stores.Listing
import TaskBoard.Proofs.Stores.Marking
import TaskBoard.Proofs.Stores.Refusals
import TaskBoard.Proofs.Stores.Remote
import TaskBoard.Proofs.Stores.Reporting
import TaskBoard.Proofs.Stores.Runs
import TaskBoard.Proofs.Stores.Seeding
import TaskBoard.Proofs.Stores.SortKeys
import TaskBoard.Proofs.Stores.Sorting
import TaskBoard.Proofs.Stores.Transaction
import TaskBoard.Proofs.Stores.Twins
import TaskBoard.Proofs.Terminal.Calls
import TaskBoard.Proofs.Terminal.Completion
import TaskBoard.Proofs.Terminal.Disks
import TaskBoard.Proofs.Terminal.Errands
import TaskBoard.Proofs.Trimming
import TaskBoard.Proofs.Web.Body
import TaskBoard.Proofs.Web.Completion
import TaskBoard.Proofs.Web.Concealment
import TaskBoard.Proofs.Web.Events
import TaskBoard.Proofs.Web.Handlers
import TaskBoard.Proofs.Web.Listing
import TaskBoard.Proofs.Web.Records
import TaskBoard.Proofs.Web.Requests
import TaskBoard.Proofs.Web.Truncation
import TaskBoard.Service
import TaskBoard.Settings.Basic
import TaskBoard.Settings.Cache
import TaskBoard.Settings.Collection
import TaskBoard.Settings.Dotenv
import TaskBoard.Startup
import TaskBoard.Store.Basic
import TaskBoard.Store.Database
import TaskBoard.Store.Datastore
import TaskBoard.Store.Location
import TaskBoard.Task
import TaskBoard.Terminal.Command
import TaskBoard.Terminal.Screen
import TaskBoard.Terminal.Session
import TaskBoard.Text.Base64
import TaskBoard.Text.Encoding
import TaskBoard.Text.LetterCase
import TaskBoard.Text.Printable
import TaskBoard.Text.Utf8
import TaskBoard.Time.Calendar
import TaskBoard.Time.Iso
import TaskBoard.Time.Pattern
import TaskBoard.Time.Timestamp
import TaskBoard.Value
import TaskBoard.Web
