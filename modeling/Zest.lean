import Zest.AnomalySources
import Zest.AtMostOnceDispatch
import Zest.AttackSurface
import Zest.AuthorizationDifferential
import Zest.AutonomousController
import Zest.BoundedRun
import Zest.BudgetLedger
import Zest.CallJournal
import Zest.CallReplay
import Zest.CandidateAdmission
import Zest.CandidateConcurrency
import Zest.CandidateLifecycle
import Zest.CandidateVerification
import Zest.CanonicalDocument
import Zest.CanonicalJson
import Zest.CapabilityCatalog
import Zest.ChainAdmission
import Zest.CommandDurability
import Zest.CompiledPlan
import Zest.CompleteVerification
import Zest.ContextAccounting
import Zest.ControllerRules
import Zest.Coverage
import Zest.CoverageReflection
import Zest.CoverageRuns
import Zest.CrashResume
import Zest.DailyCost
import Zest.DepthFirstSearch
import Zest.DifferentialComparison
import Zest.DiscoveryFacts
import Zest.DocumentSize
import Zest.DurableAssessment
import Zest.EvidenceAdmission
import Zest.EvidenceSoundness
import Zest.ExecutionAttempts
import Zest.ExecutionAuthorization
import Zest.ExperimentIdentity
import Zest.ExperimentOptions
import Zest.Exploration
import Zest.Fallible
import Zest.FamilyPromotion
import Zest.FindingSafety
import Zest.FindingSeverity
import Zest.Frontier
import Zest.FrontierClaims
import Zest.FrontierInvariant
import Zest.FrontierSafety
import Zest.FrontierViews
import Zest.HostSpelling
import Zest.HttpMessage
import Zest.HttpTransaction
import Zest.HttpTransactionAgreement
import Zest.HuntCycle
import Zest.HuntQueue
import Zest.HuntQueueDispatch
import Zest.HuntSoundness
import Zest.HuntVerdicts
import Zest.HunterCoverageSource
import Zest.IdentityAnomaly
import Zest.ImpactChain
import Zest.Ingestion
import Zest.IngestionSafety
import Zest.Interleaving
import Zest.JournalSafety
import Zest.JsonValue
import Zest.KeyedList
import Zest.LeaseFencing
import Zest.LedgerSafety
import Zest.LedgerTransactions
import Zest.MatrixCoverage
import Zest.ModelCallBudget
import Zest.ModelRequests
import Zest.MutationMatrix
import Zest.MutationVariants
import Zest.NdayAdvisories
import Zest.NetworkEnvelope
import Zest.OastAdmission
import Zest.OastSafety
import Zest.OperatorCommands
import Zest.OpportunitySafety
import Zest.OpportunitySelection
import Zest.Orchestration
import Zest.OrchestrationRepository
import Zest.OutcomeRecording
import Zest.PaddedOrder
import Zest.PercentEncoding
import Zest.PersistentWorker
import Zest.ProbeAssessment
import Zest.ProbeContact
import Zest.ProbeReplies
import Zest.ProductOrder
import Zest.PromotionSafety
import Zest.RateLimit
import Zest.RateLimitWindow
import Zest.RawExchange
import Zest.RecordedCalls
import Zest.RecordedContext
import Zest.RecoveryGate
import Zest.RequestCharge
import Zest.RequestCoverage
import Zest.ResearchContext
import Zest.ResearchCycles
import Zest.ResearchStore
import Zest.ResumedDispatch
import Zest.ResumedRun
import Zest.RouteTemplates
import Zest.RuntimeChoice
import Zest.RuntimeFallback
import Zest.RuntimeRecovery
import Zest.RuntimeRouting
import Zest.SafeData
import Zest.ScopeBridge
import Zest.ScopeCompiler
import Zest.SecretFlow
import Zest.SecretFreeContext
import Zest.SelectionMaximal
import Zest.SensorTaint
import Zest.SeparatorJoin
import Zest.SequencedLedger
import Zest.SessionBinding
import Zest.SessionLifecycle
import Zest.SortByKey
import Zest.StateTransition
import Zest.StepAccounts
import Zest.StoreProcesses
import Zest.StoredJson
import Zest.SupervisedRuns
import Zest.SupervisorPreflight
import Zest.SupervisorThread
import Zest.SurfaceEdges
import Zest.SurfaceGraph
import Zest.SurfaceHashOrder
import Zest.SurfaceRenaming
import Zest.SurfaceWiring
import Zest.TemplateAdmission
import Zest.TemporalDelta
import Zest.Text
import Zest.TransitionSystem
import Zest.UniqueRows
import Zest.UnitOfWork
import Zest.UrlNormalize
import Zest.UrlSplit
import Zest.VariantRequests
import Zest.VersionRanges
import Zest.WorkerExecutors
import Zest.WorkerRequest
import Zest.WorkerStreams
