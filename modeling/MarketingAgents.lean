import MarketingAgents.Lib.Run
import MarketingAgents.Lib.Rows
import MarketingAgents.Lib.Dict
import MarketingAgents.Db.Enums
import MarketingAgents.Db.Json
import MarketingAgents.Orchestrator.Queue
import MarketingAgents.Orchestrator.QueueSteps
import MarketingAgents.Orchestrator.QueueLeases
import MarketingAgents.Db.Text
import MarketingAgents.Lib.Result
import MarketingAgents.Orchestrator.QueueAttempts
import MarketingAgents.Orchestrator.QueueFencing
import MarketingAgents.Tools.EmailDispatch
import MarketingAgents.Tools.EmailSuppression
import MarketingAgents.Webhooks.Sendgrid
import MarketingAgents.Webhooks.Suppression
import MarketingAgents.Db.Models
import MarketingAgents.Agents.Seeding
import MarketingAgents.Agents.Scheduling
import MarketingAgents.Orchestrator.StateMachine
import MarketingAgents.Agents.ContentCreator
import MarketingAgents.Api.Approvals
import MarketingAgents.Api.Campaigns
import MarketingAgents.Assistant.Tools
import MarketingAgents.AbTesting.Assignment
import MarketingAgents.Agents.EmailDistribution
import MarketingAgents.Agents.SocialDistribution
import MarketingAgents.Content.Rewrites
import MarketingAgents.Content.Moves
import MarketingAgents.Content.Pipeline
import MarketingAgents.Content.Operations
import MarketingAgents.Content.Deliveries
import MarketingAgents.Content.AssistantWrites
import MarketingAgents.Content.System
import MarketingAgents.Content.Approved
import MarketingAgents.Content.Compliance
import MarketingAgents.Content.Threshold
import MarketingAgents.Content.Statuses
import MarketingAgents.Delivery.World
import MarketingAgents.Delivery.Transitions
import MarketingAgents.Delivery.Launched
import MarketingAgents.Agents.EmailHandover
import MarketingAgents.Delivery.AtMostOnce
import MarketingAgents.Delivery.Stopped
import MarketingAgents.AbTesting.Lifecycle
import MarketingAgents.AbTesting.Concurrent
import MarketingAgents.Content.Hooks
import MarketingAgents.Content.Effects
import MarketingAgents.Content.GoLive
import MarketingAgents.Content.Decisions
import MarketingAgents.Content.Forward
import MarketingAgents.Content.Touches
import MarketingAgents.Content.Dispatching
import MarketingAgents.Content.Served
import MarketingAgents.Delivery.Turns
import MarketingAgents.Delivery.Stranded
import MarketingAgents.Delivery.Doubled
import MarketingAgents.Content.Gathered
import MarketingAgents.Lib.Paired
import MarketingAgents.Assistant.Memory
import MarketingAgents.Assistant.Router
import MarketingAgents.Assistant.Conversation
import MarketingAgents.Webhooks.Agreement
import MarketingAgents.Webhooks.Trail
import MarketingAgents.AbTesting.Verdicts
import MarketingAgents.Lib.Window
import MarketingAgents.Agents.FrequencyCap
import MarketingAgents.Agents.Calendar
import MarketingAgents.Api.Strategy
import MarketingAgents.Api.CalendarEdits
import MarketingAgents.Assistant.Calendars
import MarketingAgents.Delivery.Slots
import MarketingAgents.Agents.StrategistPlanner
import MarketingAgents.Agents.StrategyValidator
import MarketingAgents.Agents.Strategist
import MarketingAgents.Api.Overrides
import MarketingAgents.Outbound.Audience
import MarketingAgents.Outbound.Drafts
import MarketingAgents.Assistant.Handlers
import MarketingAgents.Assistant.Spared
import MarketingAgents.Assistant.Failures
import MarketingAgents.Lib.Group
import MarketingAgents.Lib.Replace
import MarketingAgents.Db.Jsonb
import MarketingAgents.Db.Decimal
import MarketingAgents.Api.Unsubscribe
import MarketingAgents.Analytics.KpiRollup
import MarketingAgents.Analytics.Report
import MarketingAgents.Analytics.CustomKpis
import MarketingAgents.Analytics.Anomaly
import MarketingAgents.Analytics.SpendReconciliation
import MarketingAgents.Analytics.Recommendations
import MarketingAgents.Api.Recommendations
import MarketingAgents.Delivery.FailedGenerations
import MarketingAgents.Audiences.Segmentation
import MarketingAgents.Agents.AudienceTargeting
import MarketingAgents.Outbound.Rendering
import MarketingAgents.Outbound.Preview
import MarketingAgents.AbTesting.Picks
import MarketingAgents.AbTesting.Recipients
import MarketingAgents.Delivery.Production
import MarketingAgents.Lib.Neighbours
import MarketingAgents.Agents.FrequencyWarnings
import MarketingAgents.Agents.DispatchLedger
import MarketingAgents.Agents.EmailReads
import MarketingAgents.Agents.EmailBatch
import MarketingAgents.Agents.EmailAccounting
import MarketingAgents.Agents.EmailAcceptance
import MarketingAgents.Agents.CalendarLayout
import MarketingAgents.Agents.CalendarCaps
import MarketingAgents.Agents.SkippedCaps
import MarketingAgents.Tools.EmailFooter
import MarketingAgents.Lib.Stable
import MarketingAgents.Analytics.AutoPause
import MarketingAgents.Analytics.AnomalyWindow
import MarketingAgents.AbTesting.MinimumRuntime
import MarketingAgents.Tools.AbTesting
import MarketingAgents.Tools.RateTest
import MarketingAgents.Tools.RateTestTotal
import MarketingAgents.Db.Rounding
import MarketingAgents.AbTesting.Significance
import MarketingAgents.Analytics.StoredRatios
import MarketingAgents.Audiences.CsvUpload
import MarketingAgents.Agents.LedgerKey
import MarketingAgents.Content.ReviewFlags
import MarketingAgents.AbTesting.Promotion
import MarketingAgents.Lib.Retry
import MarketingAgents.Tools.ModelReply
import MarketingAgents.Agents.BestAttempt
import MarketingAgents.Tools.Copywriting
import MarketingAgents.Api.BatchDryRun
import MarketingAgents.Audiences.RuleMeaning
import MarketingAgents.Lib.Occurrence
import MarketingAgents.Agents.Compliance
import MarketingAgents.Agents.Generation
import MarketingAgents.Outbound.Generation
import MarketingAgents.Content.SeededExactly
import MarketingAgents.Lib.Alike
import MarketingAgents.Lib.Parallel
import MarketingAgents.Content.Twins
import MarketingAgents.Content.Forked
import MarketingAgents.Content.TwinOps
import MarketingAgents.Content.Submissions
import MarketingAgents.Lib.DecimalFormat
import MarketingAgents.Agents.DecimalArithmetic
import MarketingAgents.Agents.ValidatorErrors
import MarketingAgents.Audiences.ContainsOperator
import MarketingAgents.Audiences.Grammar
import MarketingAgents.Analytics.Complements
import MarketingAgents.Analytics.BudgetShift
import MarketingAgents.Api.Audiences
import MarketingAgents.WebAnalytics.Attribution
import MarketingAgents.WebAnalytics.Ingest
import MarketingAgents.Agents.MergeFields
import MarketingAgents.Outbound.MergeAudit
import MarketingAgents.Outbound.Enrichment
import MarketingAgents.Outbound.EnrichmentLabels
import MarketingAgents.AbTesting.TrafficSplit
import MarketingAgents.Assistant.Trim
import MarketingAgents.Db.Double
import MarketingAgents.Lib.Packing
import MarketingAgents.Outbound.TitleBuckets
import MarketingAgents.Tools.Seo
import MarketingAgents.Api.BrandVoice
import MarketingAgents.Api.CsvExport
import MarketingAgents.Api.Reports
import MarketingAgents.Content.Isolation
import MarketingAgents.Delivery.Attempts
import MarketingAgents.Delivery.Posts
import MarketingAgents.Lib.Pattern
import MarketingAgents.Observability.Logging
import MarketingAgents.Api.Auth
import MarketingAgents.Api.Integrations
import MarketingAgents.Agents.PreviewRendering
import MarketingAgents.Analytics.SpendLedger
import MarketingAgents.Lib.FirstEntry
import MarketingAgents.WebAnalytics.Plausible
import MarketingAgents.Api.Preview
