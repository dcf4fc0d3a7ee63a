import SupportGuard.Agent.AdmittedProposals
import SupportGuard.Agent.AppendRefusals
import SupportGuard.Agent.BillingReferences
import SupportGuard.Agent.CanonicalReferences
import SupportGuard.Agent.ClassificationHistory
import SupportGuard.Agent.ContextTrimming
import SupportGuard.Agent.ConversationSemantics
import SupportGuard.Agent.EvidenceRepair
import SupportGuard.Agent.LedgerOrder
import SupportGuard.Agent.ProviderSynthesis
import SupportGuard.Agent.PublicationReferences
import SupportGuard.Agent.QualificationCopies
import SupportGuard.Agent.ScopeHashes
import SupportGuard.Agent.StaleClaims
import SupportGuard.Contracts.FinalizerDiff
import SupportGuard.Contracts.MissingPreconditions
import SupportGuard.Contracts.RefundClauses
import SupportGuard.Contracts.RefundFacts
import SupportGuard.Contracts.WrittenTargets
import SupportGuard.Frontend.ActionMerge
import SupportGuard.Frontend.ConversationPaging
import SupportGuard.Frontend.ConversationView
import SupportGuard.Frontend.IdempotentMutation
import SupportGuard.Frontend.TicketStream
import SupportGuard.Mcp.GatewayCalls
import SupportGuard.Mcp.LateFailures
import SupportGuard.Memory.MergeOrder
import SupportGuard.Memory.RememberedFacts
import SupportGuard.Providers.LimiterQueue
import SupportGuard.Rag.ChunkCoverage
import SupportGuard.Rag.FusionOrder
import SupportGuard.Rag.SectionPaths
import SupportGuard.Rag.SelectionSoundness
import SupportGuard.Rag.SpanCitations
import SupportGuard.Services.Admission
import SupportGuard.Services.AttemptBudget
import SupportGuard.Services.BatchProjection
import SupportGuard.Services.CapabilityReceipts
import SupportGuard.Services.LiveApprovals
import SupportGuard.Services.MessageHistory
import SupportGuard.Services.RecordedDecisions
import SupportGuard.Services.SegmentCommon
import SupportGuard.Services.TicketConvergence
import SupportGuard.Services.TurnEndings
