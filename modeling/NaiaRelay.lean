import NaiaRelay.Lib.OrderedDict
import NaiaRelay.Lib.Validation
import NaiaRelay.Lib.Run
import NaiaRelay.Lib.Batch
import NaiaRelay.Lib.Replica
import NaiaRelay.Lib.OpLog
import NaiaRelay.Lib.LineStream
import NaiaRelay.Lib.Text
import NaiaRelay.Json
import NaiaRelay.Errors
import NaiaRelay.JsonText
import NaiaRelay.Pydantic
import NaiaRelay.Config
import NaiaRelay.ConfigStages
import NaiaRelay.Registry
import NaiaRelay.RegistryFacts
import NaiaRelay.Mutation
import NaiaRelay.TepModels
import NaiaRelay.TepHandler
import NaiaRelay.TepEffect
import NaiaRelay.Commuting
import NaiaRelay.EmptyObjects
import NaiaRelay.EntryPoints
import NaiaRelay.Lib.Halting
import NaiaRelay.ReplyLoop
import NaiaRelay.UpstreamRequests
import NaiaRelay.Lib.Coroutine
import NaiaRelay.RlpModels
import NaiaRelay.RlpHandler
import NaiaRelay.HostRuntime
import NaiaRelay.DirectRuntime
import NaiaRelay.ClientRuntime
import NaiaRelay.Mirror
import NaiaRelay.MirrorSafety
import NaiaRelay.MirrorSync
import NaiaRelay.McpHandler
import NaiaRelay.Runtime
import NaiaRelay.McpLoop
import NaiaRelay.ExecutorLink
import NaiaRelay.LinkFacts
import NaiaRelay.HostFacts
import NaiaRelay.ExecutorLoop
import NaiaRelay.Snapshot
import NaiaRelay.BindFidelity
import NaiaRelay.Staleness
import NaiaRelay.VersionStamp
import NaiaRelay.BindRetry
import NaiaRelay.HostRegistry
import NaiaRelay.Sessions
import NaiaRelay.SyncWindow
import NaiaRelay.BrokenLink
import NaiaRelay.Requests
import NaiaRelay.Serving
import NaiaRelay.Forwarding
import NaiaRelay.Shutdown
import NaiaRelay.HostLink
import NaiaRelay.PendingTables
import NaiaRelay.Orphans
import NaiaRelay.Completion
import NaiaRelay.Interchange
import NaiaRelay.CrossTalk
import NaiaRelay.Outcome
import NaiaRelay.Operations
import NaiaRelay.FailedMessage
import NaiaRelay.KindSnapshot
import NaiaRelay.Correlation
import NaiaRelay.ExecutorReport
import NaiaRelay.StructuredAnswer
import NaiaRelay.AnswerForms
import NaiaRelay.ErrorDetail
import NaiaRelay.RegisteredOnly
import NaiaRelay.Departure
import NaiaRelay.Framing
import NaiaRelay.LineFraming
import NaiaRelay.MessageLimit
import NaiaRelay.ContentLength
import NaiaRelay.Readers
import NaiaRelay.JsonReader
import NaiaRelay.JsonRoundTrip
import NaiaRelay.JsonAccepted
import NaiaRelay.PythonJson
import NaiaRelay.Lib.Service
import NaiaRelay.Adapters
import NaiaRelay.StreamServing
import NaiaRelay.TcpLink
import NaiaRelay.HeldEntries
import NaiaRelay.SortedSnapshot
import NaiaRelay.TcpBind
import NaiaRelay.Lib.Publisher
import NaiaRelay.Network
import NaiaRelay.Lib.Pool
import NaiaRelay.Executors
import NaiaRelay.Lib.Desk
import NaiaRelay.HttpServing
import NaiaRelay.Lib.Deferral
import NaiaRelay.RlpListener
import NaiaRelay.JsonIndent
import NaiaRelay.Lib.Aside
import NaiaRelay.ReadyFile
import NaiaRelay.RelayRuntime
import NaiaRelay.Startup
