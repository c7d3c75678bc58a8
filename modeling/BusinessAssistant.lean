import BusinessAssistant.Foundation.Members
import BusinessAssistant.Foundation.Transaction
import BusinessAssistant.Foundation.System
import BusinessAssistant.Application.BookingEngine
import BusinessAssistant.Foundation.Table
import BusinessAssistant.Persistence.BookingStore
import BusinessAssistant.Persistence.Coherence
import BusinessAssistant.Foundation.Journal
import BusinessAssistant.Persistence.History
import BusinessAssistant.Application.Offers
import BusinessAssistant.Foundation.Occupancy
import BusinessAssistant.Persistence.Placement
import BusinessAssistant.Persistence.Capacity
import BusinessAssistant.Persistence.Confirmation
import BusinessAssistant.Persistence.HoldReplay
import BusinessAssistant.Persistence.Retention
import BusinessAssistant.Persistence.ConfirmReplay
import BusinessAssistant.Application.AvailabilityAgreement
import BusinessAssistant.Foundation.TwoRun
import BusinessAssistant.Persistence.Ownership
import BusinessAssistant.Persistence.SharedView
import BusinessAssistant.Persistence.Isolation
import BusinessAssistant.Domain.Decimal
import BusinessAssistant.Foundation.Requests
import BusinessAssistant.Domain.Calendar
import BusinessAssistant.Domain.Errors
import BusinessAssistant.Domain.Handoffs
import BusinessAssistant.Domain.Leads
import BusinessAssistant.Application.LeadModels
import BusinessAssistant.Application.LeadEngine
import BusinessAssistant.Application.Telegram
import BusinessAssistant.Persistence.WorkflowRows
import BusinessAssistant.Persistence.SchemaStorage
import BusinessAssistant.Persistence.QualificationStore
import BusinessAssistant.Persistence.HandoffStore
import BusinessAssistant.Persistence.PrivacyStore
import BusinessAssistant.Application.Ports
import BusinessAssistant.Application.QualificationService
import BusinessAssistant.Persistence.WorkflowServer
import BusinessAssistant.Persistence.WorkflowChanges
import BusinessAssistant.Persistence.HandoffDesk
import BusinessAssistant.Persistence.HandoffControl
import BusinessAssistant.Persistence.ConversationLife
import BusinessAssistant.Persistence.OpenCases
import BusinessAssistant.Persistence.SchemaLife
import BusinessAssistant.Persistence.RequestSafety
import BusinessAssistant.Persistence.RequestRuns
import BusinessAssistant.Persistence.FinishedSessions
import BusinessAssistant.Persistence.SubmittedLeads
import BusinessAssistant.Persistence.OperationSafety
import BusinessAssistant.Persistence.ConsentFirst
import BusinessAssistant.Application.Background
import BusinessAssistant.Foundation.Lease
import BusinessAssistant.Persistence.BackgroundRows
import BusinessAssistant.Persistence.BackgroundStore
import BusinessAssistant.Persistence.DeliveryWorkers
import BusinessAssistant.Persistence.DeliveryLeases
import BusinessAssistant.Persistence.BoundedSends
import BusinessAssistant.Persistence.OutboxDispatch
import BusinessAssistant.Persistence.OutboxProjection
import BusinessAssistant.Persistence.OutboxFailures
import BusinessAssistant.Persistence.TelegramLedger
import BusinessAssistant.Persistence.UpdateExecutions
import BusinessAssistant.Persistence.UpdateLeases
import BusinessAssistant.Persistence.Acknowledgements
import BusinessAssistant.Persistence.IdentityStore
import BusinessAssistant.Persistence.IdentityResolution
import BusinessAssistant.Persistence.LiveConversations
import BusinessAssistant.Application.Notices
import BusinessAssistant.Persistence.Notices
import BusinessAssistant.Foundation.FirstCome
import BusinessAssistant.Application.EffectiveDays
import BusinessAssistant.Application.AvailabilitySpec
import BusinessAssistant.Application.OpeningHours
import BusinessAssistant.Application.FreeCapacity
import BusinessAssistant.Persistence.RequiredCapacity
import BusinessAssistant.Application.Administration
import BusinessAssistant.Persistence.AdministrationStore
import BusinessAssistant.Persistence.Administration
import BusinessAssistant.Persistence.Members
import BusinessAssistant.Persistence.Credentials
import BusinessAssistant.Foundation.Base64
import BusinessAssistant.Presentation.Callbacks
import BusinessAssistant.Presentation.CallbackTokens
import BusinessAssistant.Persistence.Mappers
import BusinessAssistant.Persistence.RetentionStore
import BusinessAssistant.Persistence.LoadedRows
import BusinessAssistant.Persistence.HelpRequests
import BusinessAssistant.Application.PublicViews
import BusinessAssistant.Presentation.Renderer
import BusinessAssistant.Presentation.Delivery
import BusinessAssistant.Presentation.Keyboards
import BusinessAssistant.Presentation.PageRequests
import BusinessAssistant.Presentation.PageTexts
import BusinessAssistant.Presentation.PageLimits
import BusinessAssistant.Presentation.PageSurvival
import BusinessAssistant.Foundation.Segments
import BusinessAssistant.Presentation.LongTexts
import BusinessAssistant.Foundation.Json
import BusinessAssistant.Application.AIModels
import BusinessAssistant.Application.AISchemas
import BusinessAssistant.Application.AIParsing
import BusinessAssistant.Application.AIOutputLanguage
import BusinessAssistant.Application.Choices
import BusinessAssistant.Application.Scoring
import BusinessAssistant.Persistence.ReadableSessions
import BusinessAssistant.Persistence.ExpiredSessions
import BusinessAssistant.Application.BusinessTime
import BusinessAssistant.Foundation.BusyTime
import BusinessAssistant.Persistence.ObservedExpiry
import BusinessAssistant.Application.NextOpening
import BusinessAssistant.Application.Deadlines
import BusinessAssistant.Domain.IsoText
import BusinessAssistant.Foundation.Pieces
import BusinessAssistant.Application.ScheduleOrder
import BusinessAssistant.Application.BreakSubtraction
import BusinessAssistant.Persistence.ScheduleRows
import BusinessAssistant.Application.Chunking
import BusinessAssistant.Foundation.Windows
import BusinessAssistant.Persistence.StoredAnswers
import BusinessAssistant.Application.ChunkCover
import BusinessAssistant.Application.InstructionRisk
import BusinessAssistant.Application.KnowledgeAnswers
import BusinessAssistant.Application.QuotedEvidence
import BusinessAssistant.Foundation.Leaders
import BusinessAssistant.Persistence.KnowledgeRows
import BusinessAssistant.Persistence.FusedChunks
import BusinessAssistant.Persistence.KnowledgeStore
import BusinessAssistant.Persistence.KnowledgeIngestion
import BusinessAssistant.Persistence.PublishedKnowledge
import BusinessAssistant.Persistence.RetentionTables
import BusinessAssistant.Persistence.RetentionRun
import BusinessAssistant.Persistence.RetentionLoop
import BusinessAssistant.Persistence.RetentionReport
import BusinessAssistant.Persistence.RetentionFrame
import BusinessAssistant.Persistence.RetentionConvergence
import BusinessAssistant.Persistence.ScheduledRetention
import BusinessAssistant.Persistence.TenantLife
import BusinessAssistant.Persistence.IdleCustomers
import BusinessAssistant.Application.AIOutputLanguage
import BusinessAssistant.Application.AIRuntime
import BusinessAssistant.Application.AIExecutions
import BusinessAssistant.Application.AIRouting
import BusinessAssistant.Persistence.BookingDates
