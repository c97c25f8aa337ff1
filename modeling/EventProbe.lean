import EventProbe.Address
import EventProbe.Capture.Format
import EventProbe.Capture.Read
import EventProbe.Capture.Write
import EventProbe.Collector
import EventProbe.CommandLine.Grammar
import EventProbe.CommandLine.Invocation
import EventProbe.CommandLine.Read
import EventProbe.Config.Interpolate
import EventProbe.Config.Json
import EventProbe.Config.Load
import EventProbe.Config.Settings
import EventProbe.Documents
import EventProbe.Driver
import EventProbe.Dump
import EventProbe.Engine
import EventProbe.Event
import EventProbe.Extraction
import EventProbe.Extractors
import EventProbe.FieldName
import EventProbe.Host
import EventProbe.IoFault
import EventProbe.Json.Decode
import EventProbe.Json.Fault
import EventProbe.Json.Print
import EventProbe.Json.Scan
import EventProbe.Json.Skip
import EventProbe.Log.Entries
import EventProbe.Log.Subscriber
import EventProbe.Main
import EventProbe.Metric
import EventProbe.Number.Ieee
import EventProbe.Number.Shortest
import EventProbe.Outcome
import EventProbe.Platform
import EventProbe.Plugin.Api
import EventProbe.Plugin.Capability
import EventProbe.Plugin.Manifest
import EventProbe.Plugins.Bundled
import EventProbe.Plugins.Countdown
import EventProbe.Plugins.Payload
import EventProbe.Plugins.Scripted
import EventProbe.Plugins.Strict
import EventProbe.Plugins.Tally
import EventProbe.Plugins.TestSource
import EventProbe.Proofs.DriverExtraction
import EventProbe.Proofs.EngineSteps
import EventProbe.Proofs.HostHistory
import EventProbe.Proofs.Registration
import EventProbe.Registry
import EventProbe.Source
import EventProbe.Status
import EventProbe.Text.Blank
import EventProbe.Text.Columns
import EventProbe.Text.Numeral
import EventProbe.Text.Printable
import EventProbe.Text.Quoted
import EventProbe.Text.Utf8
import EventProbe.Time.Calendar
import EventProbe.Time.Instant
import EventProbe.Time.Read
import EventProbe.Value
import EventProbe.Yaml.Cursor
import EventProbe.Yaml.Decode
import EventProbe.Yaml.Parse
import EventProbe.Yaml.Property
import EventProbe.Yaml.Scalar
import EventProbe.Yaml.Scan
import EventProbe.Yaml.Token
import EventProbe.Proofs.Process
import EventProbe.Proofs.HandleSafety
import EventProbe.Proofs.BatchStream
import EventProbe.Proofs.ExtractionAgreement
import EventProbe.Proofs.PluginDelivery
import EventProbe.Proofs.Utf8RoundTrip
import EventProbe.Proofs.FileLines
import EventProbe.Proofs.CaptureReader
import EventProbe.Proofs.JsonRoundTrip
import EventProbe.Proofs.CaptureRoundTrip
import EventProbe.Proofs.KeyedTokens
import EventProbe.Proofs.LocatedText
import EventProbe.Proofs.BuiltInFields
import EventProbe.Proofs.Unobtrusive
import EventProbe.Proofs.Observation
import EventProbe.Proofs.ProcessHistory
import EventProbe.Proofs.CaptureState
import EventProbe.Proofs.EngineRuns
import EventProbe.Proofs.TerminalStatus
import EventProbe.Proofs.PluginSlots
import EventProbe.Proofs.ParserDispatch
import EventProbe.Proofs.StreamQueue
import EventProbe.Proofs.PanicSafety
import EventProbe.Proofs.VariableReferences
import EventProbe.Proofs.FieldTables
import EventProbe.Proofs.FieldAvailability
import EventProbe.Proofs.JournalEntries
import EventProbe.Proofs.RegisteredPlugins
import EventProbe.Proofs.Replay
import EventProbe.Proofs.EventOrigins
import EventProbe.Proofs.PluginCalls
import EventProbe.Proofs.EngineCounters
import EventProbe.Proofs.SourceLedgers
import EventProbe.Proofs.SourceLifetimes
import EventProbe.Proofs.MetricSnapshots
import EventProbe.Proofs.TornObjects
import EventProbe.Proofs.TornLines
import EventProbe.Proofs.RefusedWrites
import EventProbe.Proofs.FieldNameGrammar
import EventProbe.Proofs.NewCaptures
import EventProbe.Proofs.BundledStreams
import EventProbe.Proofs.DumpLines
import EventProbe.Proofs.DumpSetUp
import EventProbe.Proofs.LogWrites
import EventProbe.Proofs.DumpLog
import EventProbe.Proofs.DumpOutput
import EventProbe.Proofs.NumeralText
import EventProbe.Proofs.FieldRequests
import EventProbe.Proofs.StillPlugins
import EventProbe.Proofs.ProcessTrails
import EventProbe.Proofs.HeldPlugins
import EventProbe.Proofs.OpenedSources
import EventProbe.Proofs.DriverSetUp
import EventProbe.Proofs.DecimalFields
import EventProbe.Proofs.CountdownSettings
import EventProbe.Proofs.CountdownStream
import EventProbe.Proofs.CountdownRuns
import EventProbe.Proofs.TickRuns
import EventProbe.Proofs.ReachedPlugins
import EventProbe.Proofs.TallyCounts
import EventProbe.Proofs.RegistryHistory
import EventProbe.Proofs.CalendarDays
import EventProbe.Proofs.PaddedNumerals
import EventProbe.Proofs.InstantText
import EventProbe.Proofs.TimeText
import EventProbe.Proofs.TimeReading
import EventProbe.Proofs.ExtractorList
import EventProbe.Proofs.JsonGrammar
import EventProbe.Proofs.JsonRecords
import EventProbe.Proofs.SettingsJson
