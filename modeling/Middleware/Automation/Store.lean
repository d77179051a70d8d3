/-
`MemoryAutomationStore` of `app/automation_v2.py`: jobs that are claimed with a delivery token and worked on under a lease,
their steps, approvals and dead letters. Every operation runs under the store's lock.

A UUID is its text, an instant a number of microseconds. The draws of `token_urlsafe` and the readings of the clock are
arguments of the operations. What no operation of the store reads of a request is left out, and an answer carries the job as
the store keeps it.
-/
import Middleware.Data.Json
import Middleware.Lib.OrderedDict
import Middleware.Lib.Runs

namespace Middleware.Automation

open Lib

abbrev Uuid := String
abbrev Time := Int

inductive Error where
  | conflict (message : String)
  | authorizationDenied (message : String)
  | notFound (message : String)
  | keyError
  deriving DecidableEq

inductive JobState where
  | pending
  | dispatching
  | claimed
  | running
  | waitingApproval
  | waitingTimer
  | waitingCommand
  | retryScheduled
  | completed
  | failedTerminal
  | deadLetter
  | cancelled
  deriving DecidableEq

def JobState.value : JobState → String
  | pending => "PENDING"
  | dispatching => "DISPATCHING"
  | claimed => "CLAIMED"
  | running => "RUNNING"
  | waitingApproval => "WAITING_APPROVAL"
  | waitingTimer => "WAITING_TIMER"
  | waitingCommand => "WAITING_COMMAND"
  | retryScheduled => "RETRY_SCHEDULED"
  | completed => "COMPLETED"
  | failedTerminal => "FAILED_TERMINAL"
  | deadLetter => "DEAD_LETTER"
  | cancelled => "CANCELLED"

/-- `timedelta(seconds=LEASE_SECONDS)`. -/
def lease : Time := 60 * 1000000

/-- `uuid5` of the URL namespace, the message authentication code of a lease token, and `isoformat`. -/
structure Library where
  uuid5 : String → Uuid
  /-- `urlsafe_b64encode(hmac.new(key, material, sha256).digest()).rstrip(b"=")`. -/
  mac : String → String → String
  isoformat : Time → String

/-- `_digest`. -/
def digest (value : Json) : String := Sha256.hexdigest (dumps false value)

/-- `_token_digest`. -/
def tokenDigest (token : String) : String := Sha256.hexdigest token

/-- `_lease_token`. -/
def leaseToken (lib : Library) (deliveryToken : String) (jobId executionId : Uuid) (clientId : String) : String :=
  lib.mac deliveryToken s!"{jobId}:{executionId}:{clientId}"

structure EventEnvelope where
  tenantId : String
  eventId : String
  correlationId : String
  causationId : String
  occurredAt : Time
  payload : Obj

/-- A route of the router; `WorkflowRouter.load` refuses one without an attempt. -/
structure WorkflowRoute where
  workflowKey : String
  workflowFamily : String
  workflowVersion : Int
  clientId : String
  maxAttempts : Nat
  attempts : 1 ≤ maxAttempts

/-- `_job_id`. -/
def jobIdOf (lib : Library) (tenantId eventId : String) (route : WorkflowRoute) : Uuid :=
  lib.uuid5 s!"codestra-automation-job:{tenantId}:{eventId}:{route.workflowKey}:{route.workflowVersion}"

structure Job where
  jobId : Uuid
  tenantId : String
  eventId : String
  correlationId : String
  causationId : String
  occurredAt : Time
  workflowKey : String
  workflowFamily : String
  workflowVersion : Int
  expectedClientId : String
  actorContext : Obj
  safePayload : Obj
  state : JobState := .pending
  deliveryTokenSha256 : String
  deliveryTokenUsedAt : Option Time := none
  leaseTokenSha256 : Option String := none
  leaseClientId : Option String := none
  executionId : Option Uuid := none
  leaseExpiresAt : Option Time := none
  attemptCount : Nat := 0
  maxAttempts : Nat
  resultCode : Option String := none
  errorCode : Option String := none
  terminalIdempotencyKey : Option String := none
  terminalRequestSha256 : Option String := none
  resourceVersion : Nat := 1
  createdAt : Time
  updatedAt : Time

structure Dispatch where
  deliveryToken : String
  payload : Obj
  state : String

def Job.dispatch (job : Job) (jobId : Uuid) (deliveryToken : String) : Dispatch :=
  { deliveryToken := deliveryToken
    payload := [("job_id", .str jobId), ("workflow_key", .str job.workflowKey), ("workflow_version", .int job.workflowVersion),
      ("correlation_id", .str job.correlationId), ("delivery_token", .str deliveryToken)]
    state := "PENDING" }

structure StepEvidence where
  evidenceId : Nat
  jobId : Uuid
  executionId : Uuid
  stepKey : String
  stepState : String
  safeMetadata : Obj
  recordedAt : Time
  duplicate : Bool := false

inductive ApprovalState where
  | pending
  | approved
  | rejected
  | expired
  deriving DecidableEq

structure ApprovalRecord where
  approvalId : Uuid
  tenantId : String
  jobId : Uuid
  approvalType : String
  summary : String
  state : ApprovalState := .pending
  requestedBy : String
  decidedBy : Option String := none
  expiresAt : Time
  createdAt : Time
  updatedAt : Time
  resourceVersion : Nat := 1
  duplicate : Bool := false

inductive DeadLetterState where
  | opened
  | replayRequested
  | replayed
  | closed
  deriving DecidableEq

structure DeadLetterRecord where
  deadLetterId : Uuid
  tenantId : String
  jobId : Uuid
  workflowKey : String
  workflowFamily : String
  originalEffectFingerprint : String
  safePayload : Obj
  state : DeadLetterState
  resourceVersion : Nat
  createdAt : Time
  updatedAt : Time

structure ReconciliationRun where
  reconciliationId : Uuid
  tenantId : String
  mode : String
  requestedBy : String
  inspectedJobs : Nat
  stateCounts : OrderedDict String Nat
  expiredLeases : Nat
  missingDispatches : Nat
  safePlan : List Obj
  createdAt : Time
  duplicate : Bool := false

/-- The tenant and the id of a record. -/
abbrev Key := String × Uuid

structure Store where
  jobs : OrderedDict Key Job := []
  steps : OrderedDict (Key × String) (String × StepEvidence) := []
  approvals : OrderedDict Key (String × ApprovalRecord) := []
  approvalIdempotency : OrderedDict (Key × String) Uuid := []
  deadLetters : OrderedDict Key DeadLetterRecord := []
  reconciliations : OrderedDict (String × String) (String × ReconciliationRun) := []
  dispatches : OrderedDict Key Dispatch := []

/-- The answer of an operation and the store it leaves. -/
abbrev Result (α : Type) := Except Error α × Store

namespace Store

variable (s : Store)

/-- `_raw`. -/
def raw (tenantId : String) (jobId : Uuid) : Except Error Job :=
  match s.jobs.get (tenantId, jobId) with
  | some job => .ok job
  | none => .error (.notFound "automation job was not found")

def put (key : Key) (job : Job) : Store := { s with jobs := s.jobs.set key job }

end Store

/-! ## Requests -/

structure JobClaimRequest where
  tenantId : String
  jobId : Uuid
  deliveryToken : String
  workflowKey : String
  workflowVersion : Int
  executionId : Uuid

structure HeartbeatRequest where
  tenantId : String
  leaseToken : String
  executionId : Uuid

structure StepRecord extends HeartbeatRequest where
  idempotencyKey : String
  stepKey : String
  stepState : String
  recordedAt : Time
  safeMetadata : Obj

structure TerminalResult extends HeartbeatRequest where
  idempotencyKey : String
  resultCode : String
  safeResult : Obj

/-- A failure; its validator refuses an unknown outcome that is retryable. -/
structure FailureResult extends HeartbeatRequest where
  idempotencyKey : String
  errorCode : String
  retryable : Bool
  unknownOutcome : Bool
  safeError : Obj
  outcome : ¬ (unknownOutcome = true ∧ retryable = true)

structure ApprovalRequest where
  tenantId : String
  jobId : Uuid
  idempotencyKey : String
  approvalType : String
  summary : String
  expiresAt : Time

structure DeadLetterReplayRequest where
  tenantId : String
  approvalId : Uuid
  expectedVersion : Nat
  originalEffectFingerprint : String

structure ReconciliationRequest where
  tenantId : String
  idempotencyKey : String
  mode : String
  jobIds : List Uuid

/-! ## Leases -/

def activeStates : List JobState := [.claimed, .running, .waitingApproval, .waitingTimer, .waitingCommand]

/-- The lease that a request presents is the job's, and is not expired. -/
def Job.held (job : Job) (body : HeartbeatRequest) (clientId : String) (now : Time) : Bool :=
  decide (job.leaseTokenSha256 = some (tokenDigest body.leaseToken)) && decide (job.executionId = some body.executionId) &&
    decide (job.leaseClientId = some clientId) && (job.leaseExpiresAt.any fun expires => decide (now < expires)) &&
    activeStates.contains job.state

/-- `_active_lease`. -/
def activeLease (job : Job) (body : HeartbeatRequest) (clientId : String) (now : Time) : Except Error Unit :=
  if job.held body clientId now then .ok () else .error (.conflict "active automation lease is required")

def Job.claimed (job : Job) (leaseTokenSha256 : String) (clientId : String) (executionId : Uuid) (now : Time) : Job :=
  { job with
    deliveryTokenUsedAt := some now
    leaseTokenSha256 := some leaseTokenSha256
    leaseClientId := some clientId
    executionId := some executionId
    leaseExpiresAt := some (now + lease)
    attemptCount := job.attemptCount + 1
    state := .claimed
    resourceVersion := job.resourceVersion + 1
    updatedAt := now }

structure JobClaimResponse where
  job : Job
  leaseToken : String
  leaseExpiresAt : Option Time
  duplicate : Bool

/-- `enqueue_event`, with the token it draws. -/
def enqueueEvent (lib : Library) (envelope : EventEnvelope) (route : WorkflowRoute) (sourceClientId deliveryToken : String)
    (now : Time) (s : Store) : Result Unit :=
  let jobId := jobIdOf lib envelope.tenantId envelope.eventId route
  let key : Key := (envelope.tenantId, jobId)
  match s.jobs.get key with
  | some _ => (.ok (), s)
  | none =>
    let job : Job :=
      { jobId := jobId
        tenantId := envelope.tenantId
        eventId := envelope.eventId
        correlationId := envelope.correlationId
        causationId := envelope.causationId
        occurredAt := envelope.occurredAt
        workflowKey := route.workflowKey
        workflowFamily := route.workflowFamily
        workflowVersion := route.workflowVersion
        expectedClientId := route.clientId
        actorContext := [("source_client_id", .str sourceClientId), ("source_event_id", .str envelope.eventId)]
        safePayload := envelope.payload
        deliveryTokenSha256 := tokenDigest deliveryToken
        maxAttempts := route.maxAttempts
        createdAt := now
        updatedAt := now }
    (.ok (), { s.put key job with dispatches := s.dispatches.set key (job.dispatch jobId deliveryToken) })

/-- `claim`. -/
def claim (lib : Library) (body : JobClaimRequest) (clientId : String) (now : Time) (s : Store) : Result JobClaimResponse :=
  match s.raw body.tenantId body.jobId with
  | .error e => (.error e, s)
  | .ok job =>
    let key : Key := (body.tenantId, body.jobId)
    let token := leaseToken lib body.deliveryToken body.jobId body.executionId clientId
    if job.workflowKey ≠ body.workflowKey ∨ job.workflowVersion ≠ body.workflowVersion then
      (.error (.conflict "claim workflow identity does not match durable job"), s)
    else if job.expectedClientId ≠ clientId then
      (.error (.authorizationDenied "client does not own the job workflow family"), s)
    else if job.deliveryTokenSha256 ≠ tokenDigest body.deliveryToken then
      (.error (.authorizationDenied "delivery token is invalid"), s)
    else if job.deliveryTokenUsedAt.isSome then
      if job.executionId = some body.executionId ∧ job.leaseClientId = some clientId ∧
          (job.leaseExpiresAt.any fun expires => decide (now < expires)) = true ∧
          job.leaseTokenSha256 = some (tokenDigest token) then
        (.ok ⟨job, token, job.leaseExpiresAt, true⟩, s)
      else (.error (.conflict "delivery token was already consumed"), s)
    else if job.state ≠ .pending ∧ job.state ≠ .retryScheduled then
      (.error (.conflict "automation job is not claimable"), s)
    else
      let job := job.claimed (tokenDigest token) clientId body.executionId now
      let s := s.put key job
      match s.dispatches.get key with
      | none => (.error .keyError, s)
      | some dispatch =>
        (.ok ⟨job, token, job.leaseExpiresAt, false⟩,
          { s with dispatches := s.dispatches.set key { dispatch with state := "CLAIMED" } })

/-- `get_job`. -/
def getJob (tenantId : String) (jobId : Uuid) (s : Store) : Result Job := (s.raw tenantId jobId, s)

def Job.run (job : Job) (now : Time) : Job :=
  { job with
    state := .running
    resourceVersion := job.resourceVersion + 1
    updatedAt := now }

/-- `heartbeat`. -/
def heartbeat (jobId : Uuid) (body : HeartbeatRequest) (clientId : String) (checked now : Time) (s : Store) : Result Job :=
  match s.raw body.tenantId jobId with
  | .error e => (.error e, s)
  | .ok job =>
    match activeLease job body clientId checked with
    | .error e => (.error e, s)
    | .ok () =>
      let job := { job.run now with leaseExpiresAt := some (now + lease) }
      (.ok job, s.put (body.tenantId, jobId) job)

def StepRecord.digest (lib : Library) (body : StepRecord) : String :=
  Automation.digest (.obj [("execution_id", .str body.executionId), ("step_key", .str body.stepKey),
    ("step_state", .str body.stepState), ("recorded_at", .str (lib.isoformat body.recordedAt)),
    ("safe_metadata", .obj body.safeMetadata)])

/-- `record_step`. -/
def recordStep (lib : Library) (jobId : Uuid) (body : StepRecord) (clientId : String) (checked now : Time) (s : Store) :
    Result StepEvidence :=
  match s.raw body.tenantId jobId with
  | .error e => (.error e, s)
  | .ok job =>
    match activeLease job body.toHeartbeatRequest clientId checked with
    | .error e => (.error e, s)
    | .ok () =>
      let key := ((body.tenantId, jobId), body.idempotencyKey)
      match s.steps.get key with
      | some (existing, evidence) =>
        if existing ≠ body.digest lib then
          (.error (.conflict "step idempotency key was reused with different content"), s)
        else (.ok { evidence with duplicate := true }, s)
      | none =>
        let evidence : StepEvidence :=
          { evidenceId := s.steps.length + 1
            jobId := jobId
            executionId := body.executionId
            stepKey := body.stepKey
            stepState := body.stepState
            safeMetadata := body.safeMetadata
            recordedAt := body.recordedAt }
        (.ok evidence, { s.put (body.tenantId, jobId) (job.run now) with steps := s.steps.set key (body.digest lib, evidence) })

/-- `_terminal_replay`. -/
def terminalReplay (job : Job) (idempotencyKey requestDigest : String) : Except Error (Option Job) :=
  match job.terminalIdempotencyKey with
  | none => .ok none
  | some existing =>
    if existing = idempotencyKey ∧ job.terminalRequestSha256 = some requestDigest then .ok (some job)
    else .error (.conflict "job already has a different terminal transition")

def Job.terminal (job : Job) (state : JobState) (resultCode errorCode : Option String) (idempotencyKey requestDigest : String)
    (now : Time) : Job :=
  { job with
    state := state
    resultCode := resultCode
    errorCode := errorCode
    terminalIdempotencyKey := some idempotencyKey
    terminalRequestSha256 := some requestDigest
    leaseExpiresAt := none
    leaseTokenSha256 := none
    resourceVersion := job.resourceVersion + 1
    updatedAt := now }

/-- The answer of a terminal operation: the job, and whether it is a duplicate. -/
abbrev Terminal := Job × Bool

def TerminalResult.digest (body : TerminalResult) : String :=
  Automation.digest (.obj [("execution_id", .str body.executionId), ("result_code", .str body.resultCode),
    ("safe_result", .obj body.safeResult)])

/-- `complete`. -/
def complete (jobId : Uuid) (body : TerminalResult) (clientId : String) (checked now : Time) (s : Store) : Result Terminal :=
  match s.raw body.tenantId jobId with
  | .error e => (.error e, s)
  | .ok job =>
    match terminalReplay job body.idempotencyKey body.digest with
    | .error e => (.error e, s)
    | .ok (some job) => (.ok (job, true), s)
    | .ok none =>
      match activeLease job body.toHeartbeatRequest clientId checked with
      | .error e => (.error e, s)
      | .ok () =>
        let job := job.terminal .completed (some body.resultCode) none body.idempotencyKey body.digest now
        (.ok (job, false), s.put (body.tenantId, jobId) job)

def FailureResult.digest (body : FailureResult) : String :=
  Automation.digest (.obj [("execution_id", .str body.executionId), ("error_code", .str body.errorCode),
    ("retryable", .bool body.retryable), ("unknown_outcome", .bool body.unknownOutcome), ("safe_error", .obj body.safeError)])

def Job.failureState (job : Job) (body : FailureResult) : JobState :=
  if body.unknownOutcome then .deadLetter
  else if body.retryable ∧ job.attemptCount < job.maxAttempts then .retryScheduled
  else if job.maxAttempts ≤ job.attemptCount then .deadLetter
  else .failedTerminal

/-- The job waits for its next claim under a new delivery token. -/
def Job.reopened (job : Job) (deliveryToken : String) : Job :=
  { job with
    deliveryTokenSha256 := tokenDigest deliveryToken
    deliveryTokenUsedAt := none
    executionId := none
    leaseClientId := none
    terminalIdempotencyKey := none
    terminalRequestSha256 := none }

def deadLetterIdOf (lib : Library) (tenantId : String) (jobId : Uuid) : Uuid :=
  lib.uuid5 s!"codestra-dead-letter:{tenantId}:{jobId}"

def Job.deadLetter (lib : Library) (job : Job) (tenantId : String) (jobId : Uuid) (body : FailureResult) (now : Time) :
    DeadLetterRecord :=
  { deadLetterId := deadLetterIdOf lib tenantId jobId
    tenantId := tenantId
    jobId := jobId
    workflowKey := job.workflowKey
    workflowFamily := job.workflowFamily
    originalEffectFingerprint := Automation.digest (.obj [("tenant_id", .str tenantId), ("job_id", .str jobId),
      ("workflow_key", .str job.workflowKey), ("error_code", .str body.errorCode)])
    safePayload := [("error_code", .str body.errorCode), ("unknown_outcome", .bool body.unknownOutcome)]
    state := .opened
    resourceVersion := 1
    createdAt := now
    updatedAt := now }

/-- `fail`, with the token it draws. -/
def fail (lib : Library) (jobId : Uuid) (body : FailureResult) (clientId deliveryToken : String) (checked now : Time)
    (s : Store) : Result Terminal :=
  match s.raw body.tenantId jobId with
  | .error e => (.error e, s)
  | .ok job =>
    match terminalReplay job body.idempotencyKey body.digest with
    | .error e => (.error e, s)
    | .ok (some job) => (.ok (job, true), s)
    | .ok none =>
      match activeLease job body.toHeartbeatRequest clientId checked with
      | .error e => (.error e, s)
      | .ok () =>
        let key : Key := (body.tenantId, jobId)
        let state := job.failureState body
        let job := job.terminal state none (some body.errorCode) body.idempotencyKey body.digest now
        if state = .retryScheduled then
          let job := job.reopened deliveryToken
          (.ok (job, false), { s.put key job with dispatches := s.dispatches.set key (job.dispatch jobId deliveryToken) })
        else if state = .deadLetter then
          let dead := job.deadLetter lib body.tenantId jobId body now
          (.ok (job, false), { s.put key job with deadLetters := s.deadLetters.set (body.tenantId, dead.deadLetterId) dead })
        else (.ok (job, false), s.put key job)

/-! ## Approvals and replays -/

def ApprovalRequest.digest (lib : Library) (body : ApprovalRequest) : String :=
  Automation.digest (.obj [("job_id", .str body.jobId), ("approval_type", .str body.approvalType), ("summary", .str body.summary),
    ("expires_at", .str (lib.isoformat body.expiresAt))])

def settledStates : List JobState := [.completed, .cancelled, .failedTerminal, .deadLetter]

/-- The job waits for an approval, if it still goes on. -/
def Job.await (job : Job) (now : Time) : Job :=
  if settledStates.contains job.state then job
  else
    { job with
      state := .waitingApproval
      resourceVersion := job.resourceVersion + 1
      updatedAt := now }

/-- `request_approval`. -/
def requestApproval (lib : Library) (body : ApprovalRequest) (clientId requestedBy : String) (now : Time) (s : Store) :
    Result ApprovalRecord :=
  match s.raw body.tenantId body.jobId with
  | .error e => (.error e, s)
  | .ok job =>
    if job.expectedClientId ≠ clientId then
      (.error (.authorizationDenied "client does not own the approval job family"), s)
    else
      let key := ((body.tenantId, body.jobId), body.idempotencyKey)
      match s.approvalIdempotency.get key with
      | some existingId =>
        match s.approvals.get (body.tenantId, existingId) with
        | none => (.error .keyError, s)
        | some (existingDigest, existing) =>
          if existingDigest ≠ body.digest lib then
            (.error (.conflict "approval idempotency key was reused with different content"), s)
          else (.ok { existing with duplicate := true }, s)
      | none =>
        let approvalId := lib.uuid5 s!"codestra-approval:{body.tenantId}:{body.jobId}:{body.idempotencyKey}"
        let record : ApprovalRecord :=
          { approvalId := approvalId
            tenantId := body.tenantId
            jobId := body.jobId
            approvalType := body.approvalType
            summary := body.summary
            requestedBy := requestedBy
            expiresAt := body.expiresAt
            createdAt := now
            updatedAt := now }
        (.ok record,
          { s.put (body.tenantId, body.jobId) (job.await now) with
            approvals := s.approvals.set (body.tenantId, approvalId) (body.digest lib, record)
            approvalIdempotency := s.approvalIdempotency.set key approvalId })

/-- `get_approval`. -/
def getApproval (tenantId : String) (approvalId : Uuid) (checked now : Time) (s : Store) : Result ApprovalRecord :=
  match s.approvals.get (tenantId, approvalId) with
  | none => (.error (.notFound "approval was not found"), s)
  | some (requestDigest, record) =>
    if record.state = .pending ∧ record.expiresAt ≤ checked then
      let record := { record with
        state := .expired
        updatedAt := now
        resourceVersion := record.resourceVersion + 1 }
      (.ok record, { s with approvals := s.approvals.set (tenantId, approvalId) (requestDigest, record) })
    else (.ok record, s)

/-- `approve_for_test`, the decision of an approver. -/
def approveForTest (tenantId : String) (approvalId : Uuid) (decidedBy : String) (now : Time) (s : Store) :
    Result ApprovalRecord :=
  match s.approvals.get (tenantId, approvalId) with
  | none => (.error (.notFound "approval was not found"), s)
  | some (requestDigest, record) =>
    if record.requestedBy = decidedBy then (.error (.conflict "approval requester cannot self-approve"), s)
    else
      let record := { record with
        state := .approved
        decidedBy := some decidedBy
        updatedAt := now
        resourceVersion := record.resourceVersion + 1 }
      (.ok record, { s with approvals := s.approvals.set (tenantId, approvalId) (requestDigest, record) })

def ApprovalRecord.admits (approval : ApprovalRecord) (dead : DeadLetterRecord) (now : Time) : Bool :=
  decide (approval.jobId = dead.jobId) && decide (approval.approvalType = "REPLAY") && decide (approval.state = .approved) &&
    (approval.decidedBy.any fun decidedBy => !decidedBy.isEmpty && decide (decidedBy ≠ approval.requestedBy)) &&
    decide (now < approval.expiresAt)

/-- The job after the replay of its dead letter. -/
def Job.replayed (job : Job) (deliveryToken : String) (now : Time) : Job :=
  { job.reopened deliveryToken with
    state := .retryScheduled
    leaseTokenSha256 := none
    leaseExpiresAt := none
    resourceVersion := job.resourceVersion + 1
    updatedAt := now }

def DeadLetterRecord.requested (dead : DeadLetterRecord) (now : Time) : DeadLetterRecord :=
  { dead with
    state := .replayRequested
    resourceVersion := dead.resourceVersion + 1
    updatedAt := now }

/-- `replay_dead_letter`, with the token it draws. -/
def replayDeadLetter (deadLetterId : Uuid) (body : DeadLetterReplayRequest) (clientId deliveryToken : String)
    (checked now : Time) (s : Store) : Result Job :=
  if clientId ≠ "n8n-operations-automation" then
    (.error (.authorizationDenied "only operations automation may request replay"), s)
  else
    match s.deadLetters.get (body.tenantId, deadLetterId) with
    | none => (.error (.notFound "dead letter was not found"), s)
    | some dead =>
      match s.approvals.get (body.tenantId, body.approvalId) with
      | none => (.error (.notFound "approval was not found"), s)
      | some (_, approval) =>
        if !approval.admits dead checked then (.error (.authorizationDenied "protected non-self approval is required"), s)
        else if dead.resourceVersion ≠ body.expectedVersion then
          (.error (.conflict "dead-letter expected_version is stale"), s)
        else if dead.originalEffectFingerprint ≠ body.originalEffectFingerprint then
          (.error (.conflict "dead-letter effect fingerprint does not match"), s)
        else if dead.state ≠ .opened then (.error (.conflict "dead letter is not open for replay"), s)
        else
          match s.raw body.tenantId dead.jobId with
          | .error e => (.error e, s)
          | .ok original =>
            let key : Key := (body.tenantId, dead.jobId)
            let job := original.replayed deliveryToken now
            (.ok job,
              { s.put key job with
                dispatches := s.dispatches.set key (job.dispatch dead.jobId deliveryToken)
                deadLetters := s.deadLetters.set (body.tenantId, deadLetterId) (dead.requested now) })

/-! ## Reconciliation -/

/-- The plan's items of a job, in the order in which `reconcile` finds them. -/
def Store.plan (s : Store) (now : Time) (job : Job) : List Obj :=
  (if (job.leaseExpiresAt.any fun expires => decide (expires ≤ now)) = true then
    [[("job_id", .str job.jobId), ("action", .str "REQUEUE_EXPIRED_LEASE")]] else []) ++
  (if (job.state = .pending ∨ job.state = .retryScheduled) ∧ s.dispatches.get (job.tenantId, job.jobId) = none then
    [[("job_id", .str job.jobId), ("action", .str "RECREATE_DISPATCH")]] else [])

/-- `reconcile`. -/
def reconcile (lib : Library) (body : ReconciliationRequest) (requestedBy : String) (now : Time) (s : Store) :
    Result ReconciliationRun :=
  let requestDigest := digest (.obj [("mode", .str body.mode), ("job_ids", .arr (body.jobIds.map .str))])
  let key := (body.tenantId, body.idempotencyKey)
  match s.reconciliations.get key with
  | some (existing, run) =>
    if existing ≠ requestDigest then (.error (.conflict "reconciliation idempotency key was reused"), s)
    else (.ok { run with duplicate := true }, s)
  | none =>
    let selected := (s.jobs.filter fun m => decide (m.1.1 = body.tenantId) &&
      (body.jobIds.isEmpty || body.jobIds.contains m.1.2)).map (·.2)
    let expired := fun job : Job => job.leaseExpiresAt.any fun expires => decide (expires ≤ now)
    let missing := fun job : Job => decide ((job.state = .pending ∨ job.state = .retryScheduled) ∧
      s.dispatches.get (job.tenantId, job.jobId) = none)
    let run : ReconciliationRun :=
      { reconciliationId := lib.uuid5 s!"codestra-automation-reconcile:{body.tenantId}:{body.idempotencyKey}"
        tenantId := body.tenantId
        mode := body.mode
        requestedBy := requestedBy
        inspectedJobs := selected.length
        stateCounts := selected.foldl
          (fun counts job => OrderedDict.set counts job.state.value ((counts.get job.state.value).getD 0 + 1)) ([] : OrderedDict String Nat)
        expiredLeases := (selected.filter expired).length
        missingDispatches := (selected.filter missing).length
        safePlan := if body.mode = "PLAN" then selected.flatMap (s.plan now) else []
        createdAt := now }
    (.ok run, { s with reconciliations := s.reconciliations.set key (requestDigest, run) })

/-! ## Calls -/

inductive Call where
  | enqueueEvent (envelope : EventEnvelope) (route : WorkflowRoute) (sourceClientId deliveryToken : String) (now : Time)
  | claim (body : JobClaimRequest) (clientId : String) (now : Time)
  | getJob (tenantId : String) (jobId : Uuid)
  | heartbeat (jobId : Uuid) (body : HeartbeatRequest) (clientId : String) (checked now : Time)
  | recordStep (jobId : Uuid) (body : StepRecord) (clientId : String) (checked now : Time)
  | complete (jobId : Uuid) (body : TerminalResult) (clientId : String) (checked now : Time)
  | fail (jobId : Uuid) (body : FailureResult) (clientId deliveryToken : String) (checked now : Time)
  | requestApproval (body : ApprovalRequest) (clientId requestedBy : String) (now : Time)
  | getApproval (tenantId : String) (approvalId : Uuid) (checked now : Time)
  | approveForTest (tenantId : String) (approvalId : Uuid) (decidedBy : String) (now : Time)
  | replayDeadLetter (deadLetterId : Uuid) (body : DeadLetterReplayRequest) (clientId deliveryToken : String) (checked now : Time)
  | reconcile (body : ReconciliationRequest) (requestedBy : String) (now : Time)

inductive Reply where
  | unit
  | job (job : Job) (duplicate : Bool)
  | claimed (response : JobClaimResponse)
  | evidence (evidence : StepEvidence)
  | approval (record : ApprovalRecord)
  | reconciliation (run : ReconciliationRun)

def Result.as {α : Type} (f : α → Reply) (r : Result α) : Result Reply := (r.1.map f, r.2)

def perform (lib : Library) (c : Call) (s : Store) : Result Reply :=
  match c with
  | .enqueueEvent envelope route sourceClientId deliveryToken now =>
    (enqueueEvent lib envelope route sourceClientId deliveryToken now s).as fun _ => .unit
  | .claim body clientId now => (claim lib body clientId now s).as .claimed
  | .getJob tenantId jobId => (getJob tenantId jobId s).as (.job · false)
  | .heartbeat jobId body clientId checked now => (heartbeat jobId body clientId checked now s).as (.job · false)
  | .recordStep jobId body clientId checked now => (recordStep lib jobId body clientId checked now s).as .evidence
  | .complete jobId body clientId checked now => (complete jobId body clientId checked now s).as fun x => .job x.1 x.2
  | .fail jobId body clientId deliveryToken checked now =>
    (fail lib jobId body clientId deliveryToken checked now s).as fun x => .job x.1 x.2
  | .requestApproval body clientId requestedBy now => (requestApproval lib body clientId requestedBy now s).as .approval
  | .getApproval tenantId approvalId checked now => (getApproval tenantId approvalId checked now s).as .approval
  | .approveForTest tenantId approvalId decidedBy now => (approveForTest tenantId approvalId decidedBy now s).as .approval
  | .replayDeadLetter deadLetterId body clientId deliveryToken checked now =>
    (replayDeadLetter deadLetterId body clientId deliveryToken checked now s).as (.job · false)
  | .reconcile body requestedBy now => (reconcile lib body requestedBy now s).as .reconciliation

def call (lib : Library) (c : Call) (s : Store) : Store := (perform lib c s).2

end Middleware.Automation
