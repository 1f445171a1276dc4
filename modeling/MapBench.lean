import MapBench.Api.Count
import MapBench.Api.Handle
import MapBench.Api.Message
import MapBench.Api.Path
import MapBench.Api.Route
import MapBench.Api.Status
import MapBench.Attempt
import MapBench.Batch.Basic
import MapBench.Batch.Generate
import MapBench.Batch.Key
import MapBench.Batch.Offsets
import MapBench.Batch.Wire
import MapBench.ByteSize
import MapBench.Client.Error
import MapBench.Client.Host
import MapBench.Client.LogFile
import MapBench.Client.Options
import MapBench.Client.Program
import MapBench.Cluster.Config
import MapBench.Cluster.DefaultFile
import MapBench.Cluster.Error
import MapBench.CommandLine.Interface
import MapBench.CommandLine.Parse
import MapBench.CommandLine.Similarity
import MapBench.Files.Error
import MapBench.Files.Reader
import MapBench.Files.Tree
import MapBench.Host
import MapBench.Json.Record
import MapBench.Json.Text
import MapBench.Json.Token
import MapBench.Json.Value
import MapBench.Machine
import MapBench.Main
import MapBench.Number.Binary64
import MapBench.Number.Decimal
import MapBench.Number.Fixed
import MapBench.Number.Literal
import MapBench.Outside.Connections
import MapBench.Outside.Files
import MapBench.Path
import MapBench.Performance
import MapBench.Proofs.Api.Answers
import MapBench.Proofs.Api.Changes
import MapBench.Proofs.Api.Filters
import MapBench.Proofs.Api.Handle
import MapBench.Proofs.Api.Path
import MapBench.Proofs.Batch.Generate
import MapBench.Proofs.Batch.Offsets
import MapBench.Proofs.Batch.Rendering
import MapBench.Proofs.Batch.Sequence
import MapBench.Proofs.Batch.Tiling
import MapBench.Proofs.Batch.Wire
import MapBench.Proofs.Batch.Words
import MapBench.Proofs.Client.Exit
import MapBench.Proofs.Client.Output
import MapBench.Proofs.Client.Stages
import MapBench.Proofs.Client.Written
import MapBench.Proofs.Cluster.Config
import MapBench.Proofs.Cluster.Fields
import MapBench.Proofs.Files.Growth
import MapBench.Proofs.Json.Building
import MapBench.Proofs.Json.Grammar
import MapBench.Proofs.Json.Lexing
import MapBench.Proofs.Json.Records
import MapBench.Proofs.Json.Scanning
import MapBench.Proofs.Json.Strings
import MapBench.Proofs.Json.Tokens
import MapBench.Proofs.Number.Binary64
import MapBench.Proofs.Number.Decimal
import MapBench.Proofs.Number.Integer
import MapBench.Proofs.Number.Literal
import MapBench.Proofs.Number.Rounding
import MapBench.Proofs.Path
import MapBench.Proofs.Path.Components
import MapBench.Proofs.Run.Counters
import MapBench.Proofs.Run.FailFast
import MapBench.Proofs.Run.LocalStore
import MapBench.Proofs.Run.Loop
import MapBench.Proofs.Run.Observation
import MapBench.Proofs.Run.Phases
import MapBench.Proofs.Run.Recording
import MapBench.Proofs.Run.Transfer
import MapBench.Proofs.Run.Words
import MapBench.Proofs.Server.Pools
import MapBench.Proofs.Server.Traffic
import MapBench.Proofs.Session.Address
import MapBench.Proofs.Session.Agreement
import MapBench.Proofs.Session.BaseUrl
import MapBench.Proofs.Session.Calls
import MapBench.Proofs.Session.Deployment
import MapBench.Proofs.Session.Durable
import MapBench.Proofs.Session.Lifecycle
import MapBench.Proofs.Session.Remote
import MapBench.Proofs.Session.Requests
import MapBench.Proofs.Session.Wire
import MapBench.Proofs.Settings.Integers
import MapBench.Proofs.Settings.ThinkTime
import MapBench.Proofs.Store.AllStores
import MapBench.Proofs.Store.Atomic
import MapBench.Proofs.Store.Contents
import MapBench.Proofs.Store.Disk
import MapBench.Proofs.Store.File
import MapBench.Proofs.Store.Interleaving
import MapBench.Proofs.Store.Journal
import MapBench.Proofs.Store.Lasting
import MapBench.Proofs.Store.Location
import MapBench.Proofs.Store.Operations
import MapBench.Proofs.Store.Ready
import MapBench.Proofs.Store.Rows
import MapBench.Proofs.Store.Writes
import MapBench.Proofs.Text.Utf8
import MapBench.Proofs.Time.Clocks
import MapBench.Proofs.Time.Elapsed
import MapBench.Proofs.Url
import MapBench.Proofs.Yaml.Inline
import MapBench.Proofs.Yaml.Mapping
import MapBench.Run.Basic
import MapBench.Run.Error
import MapBench.Run.Testbed
import MapBench.Server.Address
import MapBench.Server.Config
import MapBench.Server.Error
import MapBench.Server.Program
import MapBench.Session.Basic
import MapBench.Session.Error
import MapBench.Session.Local
import MapBench.Session.Network
import MapBench.Session.Remote
import MapBench.Session.Storage
import MapBench.Settings.Basic
import MapBench.Settings.Error
import MapBench.Settings.Reading
import MapBench.Store.Disk
import MapBench.Store.Error
import MapBench.Store.Journal
import MapBench.Store.Operations
import MapBench.Store.Statement
import MapBench.Store.Tables
import MapBench.Text.Blank
import MapBench.Text.Hex
import MapBench.Text.Invisible
import MapBench.Text.Padded
import MapBench.Text.Quoted
import MapBench.Text.Utf8
import MapBench.Time.Clocks
import MapBench.Time.Duration
import MapBench.Time.Timestamp
import MapBench.Url
import MapBench.Yaml.Cursor
import MapBench.Yaml.Node
import MapBench.Yaml.Record
import MapBench.Yaml.Scalar
import MapBench.Yaml.Tag
import MapBench.Yaml.Token
