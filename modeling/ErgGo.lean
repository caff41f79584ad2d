import ErgGo.Lms.AttemptInvariants
import ErgGo.Lms.SubmissionProtocol
import ErgGo.Lms.StudentAccess
import ErgGo.Lms.AccessSaves
import ErgGo.Lms.AssignmentRecipients
import ErgGo.AccessControl.Repository
import ErgGo.AccessControl.Permissions
import ErgGo.Lib.Provenance
import ErgGo.AccessControl.RoleAssignment
import ErgGo.Auth.Pins
import ErgGo.Auth.Repository
import ErgGo.Auth.LoginSecurity
import ErgGo.Auth.TokenService
import ErgGo.Auth.RefreshRotation
import ErgGo.Lib.Recording
import ErgGo.Auth.RefreshSpec
import ErgGo.Auth.RefreshRuns
import ErgGo.Auth.RefreshFailures
import ErgGo.Lms.ContentRepository
import ErgGo.Lms.ContentService
import ErgGo.Lms.ContentRuns
import ErgGo.Lms.QuizPublications
import ErgGo.Lms.QuizPackages
import ErgGo.Lms.QuestionUpdates
import ErgGo.Lms.ContentScopes
import ErgGo.Lib.SlidingWindow
import ErgGo.Lib.SortedSet
import ErgGo.Middleware.RateLimit
import ErgGo.Middleware.RateLimitRuns
import ErgGo.Lib.Channel
import ErgGo.Sitemap.Parser
import ErgGo.Sitemap.FetchAll
import ErgGo.Lib.Hamming
import ErgGo.Lib.Runes
import ErgGo.Dedup.SimHash
import ErgGo.Dedup.DuplicateRuns
import ErgGo.Lms.AccountRuns
import ErgGo.Lms.ImportFailures
import ErgGo.Lms.AccountRecipients
import ErgGo.Lms.RepositoryAgreement
import ErgGo.Hoclieu.AssetMetadata
import ErgGo.Lms.AssignmentProgress
import ErgGo.Hoclieu.MaterialService
import ErgGo.Hoclieu.Operations
import ErgGo.Hoclieu.AssetAgreement
import ErgGo.Hoclieu.Creation
import ErgGo.Hoclieu.WriteFailures
import ErgGo.Bot.AccountLinking
import ErgGo.Crawler.Fingerprints
import ErgGo.Http.CircuitBreaker
import ErgGo.Bot.Workflow
import ErgGo.Bot.WorkflowRuns
import ErgGo.Bot.WorkflowDurability
import ErgGo.Bot.Conversation
import ErgGo.Crawler.EventHub
import ErgGo.Bot.WizardStates
import ErgGo.Bot.WizardRestarts
import ErgGo.Lib.Fuel
import ErgGo.Lib.Traversal
import ErgGo.Hoclieu.Dashboard
import ErgGo.Hoclieu.DashboardWalks
import ErgGo.Hoclieu.DashboardTermination
import ErgGo.Hoclieu.LessonProgress
import ErgGo.AccessControl.Decision
import ErgGo.Auth.Login
import ErgGo.Http.SafeDialer
import ErgGo.Posts.Publication
import ErgGo.Operations.Firewall
import ErgGo.Operations.Coherence
import ErgGo.Sessions.CurrentSession
import ErgGo.Sessions.Freshness
import ErgGo.Community.Repository
import ErgGo.Lib.Counters
import ErgGo.Community.Counting
import ErgGo.Community.CounterRuns
import ErgGo.Lms.ContentIntegrity
import ErgGo.Bot.WizardPrompts
import ErgGo.Compose.Scheduler
import ErgGo.Bot.Commands
import ErgGo.Bot.ConcurrentLinks
import ErgGo.Bot.Permissions
import ErgGo.Crawler.RefreshFeed
import ErgGo.Courses.CourseService
import ErgGo.Elearning.ContentService
import ErgGo.Lib.References
import ErgGo.Elearning.ContentTree
import ErgGo.Notifications.DigestSelection
import ErgGo.Notifications.DigestRuns
import ErgGo.AiContent.ApiKeys
import ErgGo.AiContent.KeySelection
import ErgGo.Lib.Bytes
import ErgGo.Lib.Encodings
import ErgGo.Security.Password
import ErgGo.Security.SecretBox
import ErgGo.Lib.Filepath
import ErgGo.Storage.UploadPolicy
import ErgGo.Lib.Url
import ErgGo.Storage.R2
import ErgGo.Tenant.Names
import ErgGo.Discovery.StaticCatalog
import ErgGo.Cache.DistributedLock
import ErgGo.Crawler.DomainReputation
import ErgGo.Crawler.Pipeline
import ErgGo.Hoclieu.ResourceListing
import ErgGo.AccessControl.DecisionOrder
import ErgGo.Lms.StudentMoves
import ErgGo.Lms.AccessScopes
import ErgGo.Lms.AssignmentBatches
import ErgGo.Lms.QuizQuestions
import ErgGo.Lms.Dashboard
import ErgGo.Lib.Csv
import ErgGo.Lib.DataUrl
import ErgGo.Lms.RosterExports
import ErgGo.Lms.SheetImports
import ErgGo.Lib.Joined
import ErgGo.Lms.StudentUsernames
import ErgGo.Lib.Durations
import ErgGo.Lms.PageBounds
import ErgGo.Middleware.RetryAfter
import ErgGo.Dedup.ShingleOrder
import ErgGo.Community.CommentForest
import ErgGo.Hoclieu.ByteRanges
import ErgGo.Lib.TextSearch
import ErgGo.Lib.Xml
import ErgGo.Lms.GeneratedIDs
import ErgGo.Lms.ProfileUpdates
import ErgGo.Middleware.RealIP
import ErgGo.Scraper.PathRegexCache
import ErgGo.Sitemap.IndexDocuments
import ErgGo.Auth.PinOrigins
import ErgGo.Auth.TokenPermissions
import ErgGo.Events.EventBus
