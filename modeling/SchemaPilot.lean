import SchemaPilot.Library.Interleaving
import SchemaPilot.SharedDomain.Semantic
import SchemaPilot.Library.Sql
import SchemaPilot.SharedDomain.Errors
import SchemaPilot.SharedDomain.GoldPointer
import SchemaPilot.SharedDomain.RateLimit
import SchemaPilot.Gateway.Interface
import SchemaPilot.Gateway.Executor
import SchemaPilot.Gateway.SemanticBinding
import SchemaPilot.Gateway.QueryCache
import SchemaPilot.Gateway.Retrieval
import SchemaPilot.SharedDomain.Provenance
import SchemaPilot.Gateway.AccessDecision
import SchemaPilot.Gateway.Query
import SchemaPilot.Gateway.Retrieve
import SchemaPilot.Gateway.Footprint
import SchemaPilot.Gateway.Checks
import SchemaPilot.Gateway.SlotAccounting
import SchemaPilot.Gateway.BoundSelect
import SchemaPilot.Library.SqlText
import SchemaPilot.Gateway.ExecutableBinding
import SchemaPilot.Gateway.Entitlement
import SchemaPilot.Gateway.CacheCoherence
import SchemaPilot.Gateway.CacheIsolation
import SchemaPilot.Gateway.Recording
import SchemaPilot.Gateway.Answers
import SchemaPilot.Gateway.DecisionRecords
import SchemaPilot.Gateway.ResponseTrace
import SchemaPilot.Gateway.DataProvenance
import SchemaPilot.Gateway.Simulation
import SchemaPilot.Gateway.ExecutorTrino
import SchemaPilot.Gateway.EngineEquivalence
import SchemaPilot.Gateway.RetrievalSafety
import SchemaPilot.Gateway.MaskedSnippets
import SchemaPilot.Gateway.MaskedAddresses
import SchemaPilot.Library.Effect
import SchemaPilot.Library.FileTree
import SchemaPilot.SharedDomain.StoredFiles
import SchemaPilot.SharedDomain.GoldPointerFiles
import SchemaPilot.ControlPlane.Service
import SchemaPilot.SharedDomain.Purge
import SchemaPilot.ControlPlane.Review
import SchemaPilot.ControlPlane.App
import SchemaPilot.ControlPlane.Frames
import SchemaPilot.ControlPlane.PublicationGate
import SchemaPilot.ControlPlane.SemanticManifest
import SchemaPilot.Workers.SemanticDrift
import SchemaPilot.AiService.SqlAgent
import SchemaPilot.ControlPlane.ManifestSteps
import SchemaPilot.ControlPlane.ManifestReaders
import SchemaPilot.Gateway.ExecutedQuery
import SchemaPilot.Library.Versions
import SchemaPilot.SharedDomain.GoldHistory
import SchemaPilot.ControlPlane.PolicyPack
import SchemaPilot.ControlPlane.PolicyRows
import SchemaPilot.ControlPlane.PolicyPackSteps
import SchemaPilot.ControlPlane.PackRollback
import SchemaPilot.SharedDomain.NormalManifest
import SchemaPilot.ControlPlane.ManifestRollback
import SchemaPilot.ControlPlane.PackLifecycle
import SchemaPilot.SharedDomain.AuditOutbox
import SchemaPilot.SharedDomain.OutboxDelivery
import SchemaPilot.SharedDomain.OutboxBatch
import SchemaPilot.Workers.RunQueue
import SchemaPilot.Workers.RunExclusion
import SchemaPilot.Library.EffectLogic
import SchemaPilot.Workers.Connectors
import SchemaPilot.Workers.Discover
import SchemaPilot.Workers.DiscoverSteps
import SchemaPilot.Workers.DiscoverTrace
import SchemaPilot.Workers.ConnectorCursor
import SchemaPilot.Workers.Indexers
import SchemaPilot.Workers.Silver
import SchemaPilot.Workers.Gold
import SchemaPilot.Workers.SnapshotHistory
import SchemaPilot.Workers.UnpublishedBuild
import SchemaPilot.Workers.IngestCompleteness
import SchemaPilot.SharedDomain.Ids
import SchemaPilot.ControlPlane.Deletion
import SchemaPilot.ControlPlane.DeletionSteps
import SchemaPilot.ControlPlane.DeletionRuns
import SchemaPilot.ControlPlane.CatalogSnapshot
import SchemaPilot.ControlPlane.AuditTrail
import SchemaPilot.ControlPlane.CatalogImport
import SchemaPilot.ControlPlane.RunSchedules
import SchemaPilot.ControlPlane.SourceHealth
import SchemaPilot.Library.Table
import SchemaPilot.ControlPlane.PublishedRetention
import SchemaPilot.Workers.BronzeSteps
import SchemaPilot.Workers.BronzeRuns
import SchemaPilot.Library.DependencyOrder
import SchemaPilot.Library.Base64
import SchemaPilot.Library.JsonParse
import SchemaPilot.SharedDomain.JwksCache
import SchemaPilot.Workers.RunSteps
import SchemaPilot.Workers.RunStepOrder
import SchemaPilot.Workers.RunStepTraces
import SchemaPilot.SharedDomain.Auth
import SchemaPilot.Gateway.Authority
import SchemaPilot.ControlPlane.Routes
import SchemaPilot.AiService.App
import SchemaPilot.AiService.Authority
import SchemaPilot.SharedDomain.LimiterRuns
import SchemaPilot.Gateway.CacheRefinement
import SchemaPilot.Library.JsonRoundTrip
import SchemaPilot.Gateway.TrinoColumns
import SchemaPilot.SharedDomain.PurgeExact
import SchemaPilot.Library.TextCipher
import SchemaPilot.SharedDomain.ArtifactCrypto
import SchemaPilot.SharedDomain.EvidenceRoundTrip
import SchemaPilot.Library.JsonLayout
import SchemaPilot.SharedDomain.SecretsStore
import SchemaPilot.Library.TextDecoding
import SchemaPilot.Library.Csv
import SchemaPilot.Workers.Profiler
import SchemaPilot.Workers.EncodingFallback
import SchemaPilot.SharedDomain.EvidenceHistory
import SchemaPilot.SharedDomain.KeyRotation
import SchemaPilot.Library.PositionalOrder
import SchemaPilot.SharedDomain.UlidOrder
import SchemaPilot.Library.FloatLiteral
import SchemaPilot.Library.ItemByItem
import SchemaPilot.Library.DigitRun
import SchemaPilot.Library.JsonStandard
import SchemaPilot.Library.JoinedText
import SchemaPilot.Workers.SilverRecords
import SchemaPilot.Workers.SilverKeys
import SchemaPilot.Workers.SilverCrosswalk
import SchemaPilot.Library.Partition
import SchemaPilot.Workers.Contracts
import SchemaPilot.Library.StableSort
import SchemaPilot.Workers.EntityResolution
import SchemaPilot.Workers.EntityResolutionV2
import SchemaPilot.Library.Normalization
import SchemaPilot.Library.NameSupply
import SchemaPilot.Library.DecimalText
import SchemaPilot.Library.CalendarDate
import SchemaPilot.Workers.Parsing
import SchemaPilot.Workers.CurrencyParsing
import SchemaPilot.Workers.DateParsing
import SchemaPilot.Library.Substitution
import SchemaPilot.SharedDomain.Secrets
import SchemaPilot.Library.JsonLexing
import SchemaPilot.Library.JsonPieces
import SchemaPilot.Library.JsonSubstitution
import SchemaPilot.SharedDomain.LogRedaction
import SchemaPilot.Library.Lines
import SchemaPilot.SharedDomain.SettingsFile
import SchemaPilot.Library.FixedPoint
import SchemaPilot.Workers.CursorOrder
import SchemaPilot.SharedDomain.ManifestNormalForm
import SchemaPilot.Workers.DriftExactness
import SchemaPilot.Workers.SemanticBuilder
import SchemaPilot.Tools.PackMatrix
import SchemaPilot.Tools.MigrationAtomicity
import SchemaPilot.Tools.BoundaryImports
import SchemaPilot.Workers.JoinInference
import SchemaPilot.Tools.PackRegistry
import SchemaPilot.Tools.MigratedRegistry
import SchemaPilot.SharedDomain.LineageCompleteness
