import CustomerService.CircuitHistory
import CustomerService.GatewayCalls
import CustomerService.Hydration
import CustomerService.CheckpointSaver
import CustomerService.CheckpointSlice
import CustomerService.CheckpointLibrary
import CustomerService.CheckpointRefinement
import CustomerService.CheckpointInterleaving
import CustomerService.Compression
import CustomerService.CompressionConserves
import CustomerService.LabelReading
import CustomerService.LaterWrite
import CustomerService.OutputFilter
import CustomerService.ThreadKey
import CustomerService.IntentRecognition
import CustomerService.RespondTurn
import CustomerService.TenantSearch
import CustomerService.IndexPublishing
import CustomerService.RetrievalGenerations
import CustomerService.ChatSlotCapacity
import CustomerService.SessionLock
import CustomerService.ToolPoolConservation
import CustomerService.OrderDisclosure
import CustomerService.ToolCacheTurns
import CustomerService.MemoryTurns
import CustomerService.MemoryUpdates
import CustomerService.MemoryProjection
import CustomerService.CheckpointEnvelope
import CustomerService.Metrics
import CustomerService.CourseCacheKeys
import CustomerService.GatewayQuota
import CustomerService.LlmCache
import CustomerService.ChatSlotCalls
import CustomerService.OrderBinding
import CustomerService.TurnReset
import CustomerService.AnswerEvents
import CustomerService.AbortedTurns
import CustomerService.OrderMasking
import CustomerService.RecentLists
import CustomerService.AgentMiddleware
import CustomerService.CorruptCheckpoints
import CustomerService.RecentProtection
import CustomerService.CompressionBudget
import CustomerService.MergeAlgebra
import CustomerService.ClippedReading
import CustomerService.LlmSummary
import CustomerService.SummaryLimit
import CustomerService.CourseBinding
import CustomerService.ContextBudget
import CustomerService.FusionDominance
import CustomerService.MaskCompleteness
import CustomerService.MetricRender
import CustomerService.Harvest
import CustomerService.HistoryWindow
import CustomerService.ExpansionStability
import CustomerService.OrderFilters
import CustomerService.HandoffFlag
import CustomerService.MemoryKeys
import CustomerService.TurnRemoval
import CustomerService.CompactedThreads
import CustomerService.PlanExecution
import CustomerService.AnswerSources
import CustomerService.Blocks
import CustomerService.EventStream
import CustomerService.ChatPage
import CustomerService.AppContext
import CustomerService.AppContextRuns
import CustomerService.KnowledgeUpload
import CustomerService.UploadedDocuments
import CustomerService.LocalLocks
import CustomerService.MetricSnapshots
import CustomerService.ExpiringCache
import CustomerService.TurnSnapshots
import CustomerService.CourseRetrieval
import CustomerService.TurnAccounts
import CustomerService.EmbeddingGuard
import CustomerService.EmbeddedIngest
import CustomerService.SharedBackends
import CustomerService.SearchQueries
import CustomerService.LogLines
import CustomerService.HttpRequests
