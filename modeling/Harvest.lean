import Harvest.Api.Body
import Harvest.Api.Route
import Harvest.Api.Server
import Harvest.Batch.Crew
import Harvest.Batch.Pending
import Harvest.Batch.Run
import Harvest.Batch.Step
import Harvest.Batch.Trace
import Harvest.Cli
import Harvest.Codec.Base64
import Harvest.Codec.Checksum
import Harvest.Codec.Container
import Harvest.Codec.Inflate
import Harvest.Config.Dotenv
import Harvest.Config.Dynamic
import Harvest.Config.Layers
import Harvest.Config.Service
import Harvest.Config.Toml
import Harvest.Config.Weak
import Harvest.Digest.Sha256
import Harvest.Dispatch
import Harvest.Engine.Basic
import Harvest.Engine.Batch
import Harvest.Engine.Fetch
import Harvest.Fetch.Decode
import Harvest.Fetch.Disk
import Harvest.Fetch.Download
import Harvest.Fetch.Error
import Harvest.Fetch.Outcome
import Harvest.Fetch.Read
import Harvest.Fetch.Retry
import Harvest.Fetch.Settings
import Harvest.Filter
import Harvest.Http.Client
import Harvest.Http.Exchange
import Harvest.Http.Header
import Harvest.Http.Status
import Harvest.Json.Parse
import Harvest.Json.Render
import Harvest.Json.Value
import Harvest.Ledger
import Harvest.Locator
import Harvest.Main
import Harvest.Proxy.Endpoint
import Harvest.Proxy.Ring
import Harvest.Recorder.BlobPath
import Harvest.Recorder.Observe
import Harvest.Store.Local
import Harvest.Store.Memory
import Harvest.Text.Blank
import Harvest.Text.Case
import Harvest.Text.Decimal
import Harvest.Text.Duration
import Harvest.Text.Number
import Harvest.Text.Quoted
import Harvest.Text.SlashPath
import Harvest.Text.Utf8
import Harvest.Time
import Harvest.Url.Address
import Harvest.Url.Basic
import Harvest.Url.Escape
import Harvest.Url.Query
import Harvest.Url.Resolve
import Harvest.Uuid
import Harvest.Watchdog
import Harvest.Yaml.Compose
import Harvest.Yaml.Events
import Harvest.Yaml.Scan
import Harvest.Yaml.Timestamp
import Harvest.Proofs.Batch.Invariant
import Harvest.Proofs.Batch.Schedule
import Harvest.Proofs.Batch.Accounting
import Harvest.Proofs.Batch.Dispatch
import Harvest.Proofs.Proxy.RingInvariant
import Harvest.Proofs.Fetch.Attempt
import Harvest.Proofs.Fetch.Exposed
import Harvest.Proofs.Fetch.Budget
import Harvest.Proofs.Fetch.Response
import Harvest.Proofs.Batch.Deliver
import Harvest.Proofs.Engine.Shown
import Harvest.Proofs.Batch.Ceiling
import Harvest.Proofs.Fetch.Rotation
import Harvest.Proofs.Text.Ascii
import Harvest.Proofs.Url.Escape
import Harvest.Proofs.Url.Query
import Harvest.Proofs.Url.Remote
import Harvest.Proofs.Url.Key
import Harvest.Proofs.Batch.PendingKeys
import Harvest.Proofs.Batch.Termination
import Harvest.Proofs.Batch.Cancel
import Harvest.Proofs.Batch.Crew
import Harvest.Proofs.Engine.SinglePath
import Harvest.Proofs.Engine.Books
import Harvest.Proofs.Engine.Fleet
import Harvest.Proofs.Engine.Concurrency
import Harvest.Proofs.Recorder.BlobPath
import Harvest.Proofs.Recorder.Records
import Harvest.Proofs.Api.Routing
import Harvest.Proofs.Api.Registry
import Harvest.Engine.Callers
import Harvest.Proofs.Batch.PendingLaws
import Harvest.Proofs.Proxy.Cadence
import Harvest.Proofs.Fetch.Decoding
import Harvest.Proofs.Proxy.Spelling
import Harvest.Proofs.Text.Cleaning
import Harvest.Proofs.Store.Containment
import Harvest.Proofs.Url.Extension
import Harvest.Proofs.Dispatcher
import Harvest.Proofs.Fetch.Oversize
import Harvest.Proofs.Store.Atomic
import Harvest.Proofs.Time.Calendar
import Harvest.Proofs.Time.HttpDate
import Harvest.Proofs.Fetch.Validators
import Harvest.Proofs.Proxy.Failover
import Harvest.Proofs.Fetch.Chunking
