import TaggedCache.Broadcast
import TaggedCache.Bytes
import TaggedCache.CacheHeaders
import TaggedCache.Collector
import TaggedCache.Command.Failure
import TaggedCache.Command.Line
import TaggedCache.Command.Program
import TaggedCache.Command.Report
import TaggedCache.Decimal.Floating
import TaggedCache.Decimal.Notation
import TaggedCache.Decimal.Reader
import TaggedCache.Decimal.Shortest
import TaggedCache.Digest.Sha256
import TaggedCache.Duration
import TaggedCache.FailureLog
import TaggedCache.Fault
import TaggedCache.Http.Body
import TaggedCache.Http.Header
import TaggedCache.Http.Message
import TaggedCache.Http.Target
import TaggedCache.Item
import TaggedCache.Json.Basic
import TaggedCache.Json.Grammar
import TaggedCache.Json.Number
import TaggedCache.Json.Reader
import TaggedCache.Json.Writer
import TaggedCache.KeyPart
import TaggedCache.Main
import TaggedCache.MaxAge
import TaggedCache.Memory
import TaggedCache.Metadata
import TaggedCache.Metrics
import TaggedCache.Net.Domain
import TaggedCache.Net.Domain.Label
import TaggedCache.Net.Domain.Mapping
import TaggedCache.Net.Domain.Punycode
import TaggedCache.Net.Ip
import TaggedCache.Net.Percent
import TaggedCache.Net.Url
import TaggedCache.Net.Url.Basic
import TaggedCache.Net.Url.Path
import TaggedCache.Notifier
import TaggedCache.Numeral
import TaggedCache.Operation
import TaggedCache.Page.Layer
import TaggedCache.Page.Record
import TaggedCache.Proofs.BestEffort
import TaggedCache.Proofs.Body
import TaggedCache.Proofs.Broadcast
import TaggedCache.Proofs.CacheHeaders
import TaggedCache.Proofs.Collector
import TaggedCache.Proofs.CollectorScopes
import TaggedCache.Proofs.Composition
import TaggedCache.Proofs.FailureLog
import TaggedCache.Proofs.Fingerprint
import TaggedCache.Proofs.Header
import TaggedCache.Proofs.Interleaving
import TaggedCache.Proofs.Json
import TaggedCache.Proofs.JsonUnique
import TaggedCache.Proofs.KeyPart
import TaggedCache.Proofs.Memory
import TaggedCache.Proofs.MemoryAccounts
import TaggedCache.Proofs.MemoryRun
import TaggedCache.Proofs.Notifier
import TaggedCache.Proofs.Outcome
import TaggedCache.Proofs.Page
import TaggedCache.Proofs.PageAnnotation
import TaggedCache.Proofs.PageCacheability
import TaggedCache.Proofs.PageCollision
import TaggedCache.Proofs.PageHits
import TaggedCache.Proofs.PageIsolation
import TaggedCache.Proofs.PageLayers
import TaggedCache.Proofs.PageProbe
import TaggedCache.Proofs.PageReplay
import TaggedCache.Proofs.PageTags
import TaggedCache.Proofs.PageTraffic
import TaggedCache.Proofs.PageTransparency
import TaggedCache.Proofs.Param
import TaggedCache.Proofs.QueryCache
import TaggedCache.Proofs.QueryEncoding
import TaggedCache.Proofs.Registrations
import TaggedCache.Proofs.Retry
import TaggedCache.Proofs.Roster
import TaggedCache.Proofs.Rows
import TaggedCache.Proofs.SchemaSetup
import TaggedCache.Proofs.Settings
import TaggedCache.Proofs.Shelf
import TaggedCache.Proofs.Storage
import TaggedCache.Proofs.Tag
import TaggedCache.Proofs.TagCheck
import TaggedCache.Proofs.TagCommand
import TaggedCache.Proofs.TagIndex
import TaggedCache.Proofs.TagSet
import TaggedCache.Proofs.Words
import TaggedCache.Query.Cache
import TaggedCache.Query.Fingerprint
import TaggedCache.Query.Param
import TaggedCache.Registry
import TaggedCache.Room
import TaggedCache.Roster
import TaggedCache.Settings.Basic
import TaggedCache.Settings.Bins
import TaggedCache.Settings.Check
import TaggedCache.Settings.Decoder
import TaggedCache.Settings.Files
import TaggedCache.Settings.KeyPath
import TaggedCache.Settings.Source
import TaggedCache.Sql.Address
import TaggedCache.Sql.Bin
import TaggedCache.Sql.Server
import TaggedCache.Sql.Statement
import TaggedCache.Storage
import TaggedCache.Storage.Either
import TaggedCache.Storage.Faulty
import TaggedCache.Storage.Scripted
import TaggedCache.Table
import TaggedCache.Tag
import TaggedCache.TagIndex
import TaggedCache.TagSet
import TaggedCache.Text.Base64
import TaggedCache.Text.Quoted
import TaggedCache.Text.Utf8
import TaggedCache.Text.Words
import TaggedCache.Toml.Reader
import TaggedCache.Toml.Scalar
import TaggedCache.Toml.Table
import TaggedCache.Toml.Text
import TaggedCache.Unicode.CombiningClass
import TaggedCache.Unicode.Composition
import TaggedCache.Unicode.Direction
import TaggedCache.Unicode.Joining
import TaggedCache.Unicode.Mark
import TaggedCache.Unicode.Normalization
import TaggedCache.Unicode.Table
import TaggedCache.Unicode.Visible
