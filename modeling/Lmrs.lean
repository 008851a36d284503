import Lmrs.Lib.Python
import Lmrs.Lib.Transition
import Lmrs.Lib.FirstMax
import Lmrs.Lib.Reservation
import Lmrs.Lib.Datetime
import Lmrs.Codes
import Lmrs.Estimation
import Lmrs.Admission
import Lmrs.Queue
import Lmrs.Vram
import Lmrs.Configuration
import Lmrs.RuntimeClient
import Lmrs.ModelCache
import Lmrs.ModelLifecycle
import Lmrs.Commands
import Lmrs.Adapter.Capacity
import Lmrs.Adapter.Chat
import Lmrs.Adapter.Registration
import Lmrs.Adapter.ChatAdmission
import Lmrs.Adapter.QueueRuns
import Lmrs.Adapter.Reservations
import Lmrs.Adapter.QueueHistory
import Lmrs.Lib.Posix
import Lmrs.Lmcache
import Lmrs.Adapter.Purge
import Lmrs.ModelSwitch
import Lmrs.LifecycleRuns
import Lmrs.Adapter.Switching
import Lmrs.ChatOutcome
import Lmrs.AdmissionLaws
import Lmrs.Adapter.EstimateChat
import Lmrs.VramFacts
import Lmrs.Adapter.Baseline
import Lmrs.Adapter.QueueUpdates
import Lmrs.Lib.Nesting
import Lmrs.Lib.Json.Dumps
import Lmrs.Lib.Json.Loads
import Lmrs.StoredJson
import Lmrs.Lib.Json.RoundTrip
import Lmrs.GpuMemory
import Lmrs.Adapter.QueueIds
import Lmrs.Adapter.Startup
import Lmrs.Lib.Footprint
import Lmrs.Lib.Posix.Create
import Lmrs.Lib.Posix.Visits
import Lmrs.DiskCache
import Lmrs.CacheOperations
import Lmrs.ScanLocality
import Lmrs.CacheIsolation
import Lmrs.Lib.Posix.Processes
import Lmrs.Manager
import Lmrs.Lib.Raising
import Lmrs.Adapter.Payloads
import Lmrs.Adapter.PublicCommands
import Lmrs.Reporting
import Lmrs.Adapter.Legibility
import Lmrs.Client.Verdict
import Lmrs.Adapter.QueueReports
import Lmrs.Adapter.EstimateOutcome
import Lmrs.Lib.Effects
import Lmrs.LifecycleEffects
import Lmrs.LifecycleLaws
import Lmrs.SwitchEffects
import Lmrs.SwitchFailure
import Lmrs.Adapter.Autoload
import Lmrs.Integrity
import Lmrs.ContextWindow
import Lmrs.Completions
import Lmrs.Client.LiveCheck
import Lmrs.Lib.Floats
import Lmrs.Metrics
import Lmrs.Lib.MetricsFormat
import Lmrs.MetricTotals
import Lmrs.Lib.Posix.Removal
import Lmrs.PurgeScope
import Lmrs.CacheListing
import Lmrs.DeleteFaults
import Lmrs.Lib.Json.Canonical
import Lmrs.CacheGround
import Lmrs.MetadataStore
import Lmrs.Lib.Untyped
import Lmrs.ProfileDerivation
import Lmrs.Calibration
import Lmrs.Lib.Grouping
import Lmrs.Telemetry
import Lmrs.Gateway
import Lmrs.Lib.Url
import Lmrs.ProxyRegistration
import Lmrs.GpuMeasurement
import Lmrs.Client.Methods
import Lmrs.Client.CommandLine
import Lmrs.Client.Deployment
import Lmrs.Client.Sizing
import Lmrs.Client.Acceptance
import Lmrs.Client.CommandsLive
import Lmrs.Client.StorageAccounts
import Lmrs.Config.Generator
import Lmrs.Config.Reading
import Lmrs.Config.Network
import Lmrs.Lib.Loops
import Lmrs.Pipeline
