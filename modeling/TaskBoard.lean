import TaskBoard.Api.Error
import TaskBoard.Api.Handlers
import TaskBoard.Api.ListQuery
import TaskBoard.Cache.Counter
import TaskBoard.Cache.Envelope
import TaskBoard.Cache.Key
import TaskBoard.Cache.Memory
import TaskBoard.Cache.Overlay
import TaskBoard.Cache.Pattern
import TaskBoard.Cache.Store
import TaskBoard.CommandLine.Arguments
import TaskBoard.CommandLine.Help
import TaskBoard.CommandLine.Load
import TaskBoard.CommandLine.Reader
import TaskBoard.Config.Format
import TaskBoard.Config.Ini
import TaskBoard.Config.Json
import TaskBoard.Config.Json5
import TaskBoard.Config.Place
import TaskBoard.Config.Raw
import TaskBoard.Config.Ron
import TaskBoard.Config.Settings
import TaskBoard.Config.Source
import TaskBoard.Config.Tree
import TaskBoard.Config.Value
import TaskBoard.Failure
import TaskBoard.Files
import TaskBoard.Http.MediaType
import TaskBoard.Http.Request
import TaskBoard.Http.Response
import TaskBoard.Http.Uri
import TaskBoard.Json.Flaw
import TaskBoard.Json.Reader
import TaskBoard.Json.Record
import TaskBoard.Json.Writer
import TaskBoard.Launch
import TaskBoard.Log.Events
import TaskBoard.Log.Filter
import TaskBoard.Log.Level
import TaskBoard.Log.Record
import TaskBoard.Log.ValuePattern
import TaskBoard.Main
import TaskBoard.Net.SocketAddress
import TaskBoard.Number.Binary64
import TaskBoard.Number.Decimal
import TaskBoard.OpenStore
import TaskBoard.Proofs.Api.Endings
import TaskBoard.Proofs.Api.ListRequest
import TaskBoard.Proofs.Cache.Accounts
import TaskBoard.Proofs.Cache.Answers
import TaskBoard.Proofs.Cache.Callers
import TaskBoard.Proofs.Cache.Capture
import TaskBoard.Proofs.Cache.Coverage
import TaskBoard.Proofs.Cache.Envelope
import TaskBoard.Proofs.Cache.FailOpen
import TaskBoard.Proofs.Cache.Flights
import TaskBoard.Proofs.Cache.History
import TaskBoard.Proofs.Cache.Interference
import TaskBoard.Proofs.Cache.Invalidation
import TaskBoard.Proofs.Cache.Journal
import TaskBoard.Proofs.Cache.KeyParts
import TaskBoard.Proofs.Cache.KeyText
import TaskBoard.Proofs.Cache.Memory
import TaskBoard.Proofs.Cache.PartialFailure
import TaskBoard.Proofs.Cache.Program
import TaskBoard.Proofs.Cache.QueryReadings
import TaskBoard.Proofs.Cache.QueryText
import TaskBoard.Proofs.Cache.QueryWording
import TaskBoard.Proofs.Cache.Respond
import TaskBoard.Proofs.Cache.Run
import TaskBoard.Proofs.Cache.SharedKeys
import TaskBoard.Proofs.Cache.Tee
import TaskBoard.Proofs.Config.Validation
import TaskBoard.Proofs.Glob.Bytes
import TaskBoard.Proofs.Glob.Derivation
import TaskBoard.Proofs.Glob.Language
import TaskBoard.Proofs.Glob.Literal
import TaskBoard.Proofs.Glob.Loop
import TaskBoard.Proofs.Glob.Machine
import TaskBoard.Proofs.Http.Body
import TaskBoard.Proofs.Json.RecordText
import TaskBoard.Proofs.Json.StringText
import TaskBoard.Proofs.RateLimit.RetryAfter
import TaskBoard.Proofs.RateLimit.SlidingWindow
import TaskBoard.Proofs.Remote.Expiry
import TaskBoard.Proofs.Remote.Interchange
import TaskBoard.Proofs.Remote.Keeper
import TaskBoard.Proofs.Remote.Listing
import TaskBoard.Proofs.Service.Failures
import TaskBoard.Proofs.Service.Refusals
import TaskBoard.Proofs.Service.StoredTasks
import TaskBoard.Proofs.Service.Uncached
import TaskBoard.Proofs.Task.History
import TaskBoard.Proofs.Task.Intake
import TaskBoard.Proofs.Task.JsonText
import TaskBoard.Proofs.Task.Pages
import TaskBoard.Proofs.Task.Rules
import TaskBoard.Proofs.Task.TaskList
import TaskBoard.Proofs.Task.Titles
import TaskBoard.Proofs.Text.Ascii
import TaskBoard.Proofs.Text.Base64
import TaskBoard.Proofs.Text.Form
import TaskBoard.Proofs.Text.Numeral
import TaskBoard.Proofs.Text.Split
import TaskBoard.Proofs.Text.Utf8
import TaskBoard.Proofs.Time.Clock
import TaskBoard.Proofs.Time.MomentText
import TaskBoard.Proofs.Uuid
import TaskBoard.RateLimit
import TaskBoard.Remote.Address
import TaskBoard.Remote.Reply
import TaskBoard.Remote.Store
import TaskBoard.Service
import TaskBoard.Task.Basic
import TaskBoard.Task.Desk
import TaskBoard.Task.Json
import TaskBoard.Task.Repository
import TaskBoard.Text.Alphanumeric
import TaskBoard.Text.Base64
import TaskBoard.Text.Blank
import TaskBoard.Text.Form
import TaskBoard.Text.Glob
import TaskBoard.Text.LowerCase
import TaskBoard.Text.Numeral
import TaskBoard.Text.Position
import TaskBoard.Text.Printable
import TaskBoard.Text.Quoted
import TaskBoard.Text.Reader
import TaskBoard.Text.Split
import TaskBoard.Text.Terminal
import TaskBoard.Text.Utf8
import TaskBoard.Time.Duration
import TaskBoard.Time.Moment
import TaskBoard.Toml.Document
import TaskBoard.Toml.Flaw
import TaskBoard.Toml.Scalar
import TaskBoard.Toml.Text
import TaskBoard.Uuid
import TaskBoard.Yaml.Document
import TaskBoard.Yaml.Node
import TaskBoard.Yaml.Text
