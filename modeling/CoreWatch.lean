import CoreWatch.Admin.Pages
import CoreWatch.Agent.Basic
import CoreWatch.Agent.Round
import CoreWatch.Agent.Start
import CoreWatch.Bits
import CoreWatch.Collector.Basic
import CoreWatch.Collector.Fetch
import CoreWatch.Collector.Pages
import CoreWatch.Collector.Registry
import CoreWatch.Config.Basic
import CoreWatch.Config.Setting
import CoreWatch.Config.Source
import CoreWatch.Config.Summary
import CoreWatch.Config.Toml.File
import CoreWatch.Config.Toml.Quoted
import CoreWatch.Config.Toml.Table
import CoreWatch.Config.Toml.Word
import CoreWatch.Config.YamlFile
import CoreWatch.Containers.Basic
import CoreWatch.Containers.Engine
import CoreWatch.Containers.Usage
import CoreWatch.Digits
import CoreWatch.Double.Basic
import CoreWatch.Double.Decimal
import CoreWatch.Event
import CoreWatch.Exposition.Basic
import CoreWatch.Exposition.Family
import CoreWatch.Exposition.LabelText
import CoreWatch.Exposition.Payload
import CoreWatch.Exposition.SampleLine
import CoreWatch.Files.Replace
import CoreWatch.Files.Tree
import CoreWatch.Fleet.Basic
import CoreWatch.Fleet.Discovery
import CoreWatch.Fleet.Reconcile
import CoreWatch.Fleet.Status
import CoreWatch.Health
import CoreWatch.Http.Basic
import CoreWatch.Json.Basic
import CoreWatch.Json.Draft
import CoreWatch.Json.Leaves
import CoreWatch.Json.Shape
import CoreWatch.Main
import CoreWatch.NetworkFunction.Basic
import CoreWatch.NetworkFunction.Classify
import CoreWatch.NetworkFunction.Profile
import CoreWatch.Prober.Check
import CoreWatch.Prober.History
import CoreWatch.Prober.Pages
import CoreWatch.Prober.Sweep
import CoreWatch.Proofs.Collector.Ageing
import CoreWatch.Proofs.Collector.Attempts
import CoreWatch.Proofs.Collector.History
import CoreWatch.Proofs.Collector.Idempotence
import CoreWatch.Proofs.Collector.OwnLabels
import CoreWatch.Proofs.Collector.Reexposition
import CoreWatch.Proofs.Config.Spans
import CoreWatch.Proofs.Containers.Categories
import CoreWatch.Proofs.Containers.CpuShare
import CoreWatch.Proofs.Containers.Listing
import CoreWatch.Proofs.Containers.Totals
import CoreWatch.Proofs.Double.DecimalText
import CoreWatch.Proofs.Double.Magnitude
import CoreWatch.Proofs.Double.Nearness
import CoreWatch.Proofs.Double.RoundTrip
import CoreWatch.Proofs.Double.Rounding
import CoreWatch.Proofs.Double.Roundoff
import CoreWatch.Proofs.Exposition.CachePages
import CoreWatch.Proofs.Exposition.Comments
import CoreWatch.Proofs.Exposition.HelpRoundTrip
import CoreWatch.Proofs.Exposition.LabelGrammar
import CoreWatch.Proofs.Exposition.LabelRoundTrip
import CoreWatch.Proofs.Exposition.LabelSetRoundTrip
import CoreWatch.Proofs.Exposition.LabelSets
import CoreWatch.Proofs.Exposition.LatestKind
import CoreWatch.Proofs.Exposition.Lookback
import CoreWatch.Proofs.Exposition.PayloadRoundTrip
import CoreWatch.Proofs.Exposition.ReadBack
import CoreWatch.Proofs.Exposition.ReadSamples
import CoreWatch.Proofs.Exposition.SampleRoundTrip
import CoreWatch.Proofs.Exposition.Sheets
import CoreWatch.Proofs.Files.Interruptions
import CoreWatch.Proofs.Files.Paths
import CoreWatch.Proofs.Files.Replace
import CoreWatch.Proofs.Fleet.FailedTicks
import CoreWatch.Proofs.Fleet.Isolation
import CoreWatch.Proofs.Fleet.Ledger
import CoreWatch.Proofs.Fleet.Moments
import CoreWatch.Proofs.Fleet.Pass
import CoreWatch.Proofs.Fleet.Ports
import CoreWatch.Proofs.Fleet.Publisher
import CoreWatch.Proofs.Fleet.Reconcile
import CoreWatch.Proofs.Fleet.Repetition
import CoreWatch.Proofs.Fleet.Report
import CoreWatch.Proofs.Fleet.Run
import CoreWatch.Proofs.Fleet.ScrapeDocument
import CoreWatch.Proofs.Fleet.ScrapeRetry
import CoreWatch.Proofs.Fleet.Writing
import CoreWatch.Proofs.Maps
import CoreWatch.Proofs.NetworkFunction.RuntimeTags
import CoreWatch.Proofs.Prober.Runs
import CoreWatch.Proofs.Prober.SuccessRate
import CoreWatch.Proofs.Prober.Sweep
import CoreWatch.Proofs.Sampler.Runs
import CoreWatch.Proofs.Sampler.Sweep
import CoreWatch.Proofs.Scrape.Jobs
import CoreWatch.Proofs.SelfHealth.LastReports
import CoreWatch.Proofs.Text.Blanks
import CoreWatch.Proofs.Text.Markers
import CoreWatch.Proofs.Topology.Components
import CoreWatch.Proofs.Topology.Running
import CoreWatch.Proofs.Yaml.Blocks
import CoreWatch.Proofs.Yaml.Scalars
import CoreWatch.Sampler.Pages
import CoreWatch.Sampler.Round
import CoreWatch.Sampler.Sweep
import CoreWatch.Scrape.Document
import CoreWatch.Scrape.Target
import CoreWatch.SelfHealth
import CoreWatch.SelfMetrics
import CoreWatch.Text.Ascii
import CoreWatch.Text.Blank
import CoreWatch.Text.Bytes
import CoreWatch.Text.Hidden
import CoreWatch.Text.Quoted
import CoreWatch.Time.Moment
import CoreWatch.Time.Span
import CoreWatch.Topology.Basic
import CoreWatch.Topology.Component
import CoreWatch.Topology.File
import CoreWatch.Yaml.Anchor
import CoreWatch.Yaml.Block
import CoreWatch.Yaml.Cursor
import CoreWatch.Yaml.Document
import CoreWatch.Yaml.Gap
import CoreWatch.Yaml.Layout.Basic
import CoreWatch.Yaml.Layout.Tokens
import CoreWatch.Yaml.Level
import CoreWatch.Yaml.Node
import CoreWatch.Yaml.Place
import CoreWatch.Yaml.Plain
import CoreWatch.Yaml.Quoted
import CoreWatch.Yaml.Scalar
import CoreWatch.Yaml.Tag
import CoreWatch.Yaml.Token
import CoreWatch.Yaml.Value
import CoreWatch.Yaml.Word
