import RlyGateway.Library.OrderedMap
import RlyGateway.Library.Json
import RlyGateway.Library.JsonText
import RlyGateway.Library.Latest
import RlyGateway.Core.Runtime
import RlyGateway.Canary.Claim
import RlyGateway.Compatibility.Freshness
import RlyGateway.Compatibility.Effective
import RlyGateway.Registry.ModelRegistry
import RlyGateway.Compatibility.Registry
import RlyGateway.Routing.ModelSelection
import RlyGateway.Routing.ModelProjection
import RlyGateway.Routing.QuarantineGate
import RlyGateway.Core.CanonicalEvent
import RlyGateway.Core.Reasoning
import RlyGateway.Providers.ProviderError
import RlyGateway.ControlPlane.Types
import RlyGateway.Routing.Pools.Selector
import RlyGateway.Routing.Pools.Execute
import RlyGateway.Routing.Pools.Guarantees
import RlyGateway.Routing.Pools.SessionAffinity
import RlyGateway.Core.ResponseStream
import RlyGateway.Library.Yields
import RlyGateway.Providers.Direct.ChatStream
import RlyGateway.Library.MapUpdate
import RlyGateway.Protocols.OpenAiResponses.Decoder
import RlyGateway.Protocols.OpenAiResponses.Encoder
import RlyGateway.Protocols.OpenAiResponses.Agreement
import RlyGateway.Protocols.OpenAiResponses.Acceptance
import RlyGateway.Providers.Direct.ResponsesRail
import RlyGateway.Core.CanonicalRequest
import RlyGateway.Library.Schema
import RlyGateway.Protocols.Anthropic.Decoder
import RlyGateway.Providers.Direct.ChatPayload
import RlyGateway.Providers.Direct.ResponsesPayload
import RlyGateway.Providers.OAuth.ClaudePayload
import RlyGateway.Providers.Delivery
import RlyGateway.Protocols.OpenAiResponses.Continuation
import RlyGateway.Protocols.OpenAiResponses.Conversation
import RlyGateway.Protocols.OpenAiResponses.Turns
import RlyGateway.Providers.Direct.ChatTranscript
import RlyGateway.Library.Paging
import RlyGateway.Routes.AnthropicModels
import RlyGateway.ControlPlane.RouteOutcome
import RlyGateway.Routing.Pools.Cooldowns
import RlyGateway.Providers.HttpFailure
import RlyGateway.Routing.Pools.Failover
import RlyGateway.Routing.Pools.Rejections
import RlyGateway.Providers.ArtifactDelivery
import RlyGateway.Providers.Direct.ContinuedInput
import RlyGateway.Library.Keyed
import RlyGateway.Protocols.OpenAiResponses.ReasoningItems
import RlyGateway.Providers.Direct.EncryptedReasoning
import RlyGateway.Protocols.OpenAiResponses.ReadBack
import RlyGateway.Routes.OpenAiResponses
import RlyGateway.Routes.DeliveredResponses
import RlyGateway.Profiles.ProjectedRoute
import RlyGateway.Profiles.DiscoveryAgreement
import RlyGateway.Routing.ModelUniverse
import RlyGateway.Library.JsonNumber
import RlyGateway.Library.JsonRoundTrip
import RlyGateway.Library.Runs
import RlyGateway.Routes.StreamLifecycle
import RlyGateway.Routes.StreamPump
import RlyGateway.Routes.PumpProtocol
import RlyGateway.Protocols.Anthropic.Encoder
import RlyGateway.Core.ContentBlocks
import RlyGateway.Protocols.Anthropic.Accumulation
import RlyGateway.Protocols.Anthropic.Agreement
import RlyGateway.Protocols.OpenAiResponses.FoldedOutput
import RlyGateway.Providers.Direct.TruncatedResponses
import RlyGateway.Library.Transaction
import RlyGateway.Library.Versions
import RlyGateway.ControlPlane.Versions
import RlyGateway.ControlPlane.Repository
import RlyGateway.ControlPlane.Changes
import RlyGateway.ControlPlane.References
import RlyGateway.Library.RoundRobin
import RlyGateway.Routing.Pools.RoundRobin
import RlyGateway.Library.Interrupted
import RlyGateway.Runtime.Update.Store
import RlyGateway.Runtime.Update.Installer
import RlyGateway.Runtime.Update.Lifecycle
import RlyGateway.Runtime.Update.Types
import RlyGateway.Library.DirectoryTree
import RlyGateway.Runtime.Update.ArtifactId
import RlyGateway.Installer.Acquire
import RlyGateway.Cli.Install
import RlyGateway.Installer.ObservedChannels
import RlyGateway.Installer.Acquisitions
import RlyGateway.Installer.Agreement
import RlyGateway.Library.JsonPrefix
import RlyGateway.Library.LockFile
import RlyGateway.Runtime.LockRecords
import RlyGateway.Runtime.LockRecovery
import RlyGateway.Storage.LockFiles
import RlyGateway.Runtime.Update.CrashSafety
import RlyGateway.Runtime.Update.BoundedRollback
import RlyGateway.Runtime.Update.DrainFence
import RlyGateway.Runtime.Leases.Protocol
import RlyGateway.Storage.RetentionRuns
import RlyGateway.Storage.MigrationRuns
import RlyGateway.Runtime.Overlay.Precedence
import RlyGateway.Runtime.GatewayAuthentication
import RlyGateway.Profiles.FrozenSessions
import RlyGateway.Credentials.AccountSafety
import RlyGateway.Credentials.LoginDelivery
import RlyGateway.Routing.ProjectionGate
import RlyGateway.Management.Collections
import RlyGateway.Protocols.Anthropic.Signatures
import RlyGateway.Routes.DecodeErrors
import RlyGateway.Runtime.Overlay.Migration
import RlyGateway.ServiceManager.Registrations
import RlyGateway.Providers.ReasoningLaws
import RlyGateway.Routing.FirstEligible
import RlyGateway.Providers.Direct.SseFraming
import RlyGateway.Providers.Direct.CallArguments
import RlyGateway.Compatibility.Stores
import RlyGateway.Routing.Pools.Selection
import RlyGateway.Routing.ReverseMapping
import RlyGateway.Routing.TierScope
import RlyGateway.Profiles.ContextIsolation
import RlyGateway.Library.JsonKeyOrder
import RlyGateway.Installer.CanonicalText
import RlyGateway.Library.Doubles
import RlyGateway.Installer.ChannelCounters
import RlyGateway.Release.Qualification
import RlyGateway.Library.SortedBy
import RlyGateway.Registry.CatalogProposal
import RlyGateway.Canary.Classify
import RlyGateway.Canary.Matrix
import RlyGateway.Canary.Run
import RlyGateway.Library.MatchReplacing
import RlyGateway.Providers.Redaction
import RlyGateway.Providers.CatalogDiscovery
import RlyGateway.Library.RunningMaximum
import RlyGateway.Routing.WorstLabel
import RlyGateway.Runtime.Overlay.ViewFiles
import RlyGateway.Runtime.Overlay.ViewPreparation
import RlyGateway.Runtime.Overlay.LockRelease
import RlyGateway.Runtime.Update.ActiveRecord
import RlyGateway.Standalone.Pack
import RlyGateway.Credentials.StoreAtomicity
import RlyGateway.Runtime.GatewayReuse
import RlyGateway.Runtime.ChildLaunch
import RlyGateway.Runtime.Update.InitialDeployment
