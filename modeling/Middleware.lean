import Middleware.Ai.DeadLetters
import Middleware.Ai.Leases
import Middleware.Ai.Signing
import Middleware.Ai.Streams
import Middleware.Automation.Agreement
import Middleware.Automation.Reports
import Middleware.Automation.Stranded
import Middleware.Bodies.Retained
import Middleware.Callbacks.Reminders
import Middleware.Campaign.Retries
import Middleware.Communications.Segments
import Middleware.Communications.Submissions
import Middleware.Connector.Replay
import Middleware.Controller.Authorization
import Middleware.Endpoint.Untrusted
import Middleware.Events.Tampering
import Middleware.Incidents.Notifications
import Middleware.Lead.Lifecycle
import Middleware.Lead.Phones
import Middleware.Lead.Results
import Middleware.Orders.Approvals
import Middleware.Outbox.Fencing
import Middleware.Platform.Attempts
import Middleware.Platform.Breaker
import Middleware.Platform.Completion
import Middleware.Platform.Mutations
import Middleware.Platform.Registry
import Middleware.Platform.ReplayOnce
import Middleware.Platform.Resend
import Middleware.Platform.Tightening
import Middleware.Platform.Verdict
import Middleware.Postgres.Agreement
import Middleware.Postgres.Fencing
import Middleware.Production.Quota
import Middleware.Production.Replays
import Middleware.Quarantine.Isolation
import Middleware.Quarantine.Replay
import Middleware.Quarantine.Retention
import Middleware.Recordings.Lifecycle
import Middleware.Sales.Duplicates
import Middleware.Telephony.Safety
import Middleware.Temporal.Dispatches
import Middleware.Tts.Provider
