import AlonSentinel.Foundation.TransitionSystem
import AlonSentinel.Foundation.KeyedTable
import AlonSentinel.Foundation.LeaseProtocol
import AlonSentinel.Domain.Models
import AlonSentinel.Domain.SiteMonitorRepository
import AlonSentinel.Domain.NotificationRepository
import AlonSentinel.Domain.SiteMonitorConfiguration
import AlonSentinel.Domain.SiteMonitorIncidentRepository
import AlonSentinel.Notifications.Payload
import AlonSentinel.Notifications.Enqueue
import AlonSentinel.Worker.SaveCheckResult
import AlonSentinel.Api.SiteHandlers
import AlonSentinel.Notifications.Delivery
import AlonSentinel.System.World
import AlonSentinel.System.ApiEffects
import AlonSentinel.System.MonitorHistory
import AlonSentinel.System.MonitorProtocol
import AlonSentinel.System.CheckSteps
import AlonSentinel.System.ClaimNumbers
import AlonSentinel.System.ClaimProtocol
import AlonSentinel.System.DeliveryAttempts
import AlonSentinel.System.DeliveryEligibility
import AlonSentinel.System.DisabledTypes
import AlonSentinel.Api.HistoryHandlers
import AlonSentinel.Api.SiteState
import AlonSentinel.Foundation.CursorPaging
import AlonSentinel.Foundation.EligibleFrom
import AlonSentinel.System.CursorPagination
import AlonSentinel.System.IdleWorker
import AlonSentinel.System.SiteStateReports
import AlonSentinel.Api.RequestContext
import AlonSentinel.Foundation.LruCache
import AlonSentinel.Monitoring.HttpClientCache
import AlonSentinel.System.CertificateProbe
import AlonSentinel.System.ForwardedIdentity
import AlonSentinel.System.PinnedConnections
import AlonSentinel.Api.AuthHandlers
import AlonSentinel.Api.AuthSteps
import AlonSentinel.System.AuthSystem
import AlonSentinel.System.EndedTokens
import AlonSentinel.System.TokenRevocation
import AlonSentinel.System.SequentialRequests
import AlonSentinel.System.StoppedPrincipals
import AlonSentinel.System.ActiveAdmins
import AlonSentinel.System.AdminLogins
import AlonSentinel.Api.MonitorPayloads
import AlonSentinel.Configuration.FromEnv
import AlonSentinel.Foundation.StdDuration
import AlonSentinel.Notifications.DeliveryLease
import AlonSentinel.System.AttemptOverrides
import AlonSentinel.System.LeasePlans
import AlonSentinel.Foundation.OrderedRequirements
import AlonSentinel.Foundation.Utf8Lossy
import AlonSentinel.Monitoring.HttpChecker
import AlonSentinel.Monitoring.BodyChunks
import AlonSentinel.System.HttpVerdicts
import AlonSentinel.Monitoring.HeartbeatChecker
import AlonSentinel.Monitoring.TcpChecker
import AlonSentinel.Monitoring.DnsChecker
import AlonSentinel.Worker.MonitorChecks
import AlonSentinel.System.TransientFailures
import AlonSentinel.System.ResolverOrder
import AlonSentinel.System.DnsMonitors
import AlonSentinel.System.DnsAnswers
import AlonSentinel.System.StoredPaths
import AlonSentinel.Monitoring.RenderedPaths
import AlonSentinel.Monitoring.PathSegments
import AlonSentinel.System.ForbiddenTexts
import AlonSentinel.System.ExpiredCertificates
import AlonSentinel.System.OverrideColumns
import AlonSentinel.Foundation.ChronoTime
import AlonSentinel.Worker.HistoryRetention
import AlonSentinel.System.ClockArithmetic
import AlonSentinel.Foundation.DatabaseSession
import AlonSentinel.Domain.RoleRepository
import AlonSentinel.Api.AdminHandlers
import AlonSentinel.System.AtomicCreation
import AlonSentinel.Db.Migrations
import AlonSentinel.System.CrashSafeMigrations
import AlonSentinel.System.RetainedDeliveries
import AlonSentinel.System.HeartbeatMonitors
import AlonSentinel.System.HeartbeatAlarms
import AlonSentinel.Foundation.FixedWindow
import AlonSentinel.Api.RateLimit
import AlonSentinel.System.RateLimits
import AlonSentinel.System.CachedContexts
import AlonSentinel.System.RetentionBacklog
import AlonSentinel.System.FailureMetric
import AlonSentinel.Foundation.SeparatedText
import AlonSentinel.Api.TargetHandlers
import AlonSentinel.System.MonitorTargets
import AlonSentinel.Domain.RoleAssignments
import AlonSentinel.Api.AssignmentHandlers
import AlonSentinel.System.EmbeddedAddresses
import AlonSentinel.System.UniqueRoleKeys
import AlonSentinel.System.KeySets
import AlonSentinel.Api.StatusPages
import AlonSentinel.System.SuggestedSlugs
import AlonSentinel.Foundation.Histories
import AlonSentinel.System.TokenLives
import AlonSentinel.System.GracefulShutdown
import AlonSentinel.System.UptimeFigures
import AlonSentinel.System.PageContents
