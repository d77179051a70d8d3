/-
`PostgresAutomationStore` of `app/automation_v2.py`: the rows of the automation tables as its methods write them, each method
in one transaction of the tenant's connection.

A table is listed in the order in which its rows came in, under its primary key; a row of the jobs is a `Job`. The audit and
the results that no statement reads are left out, and an integer column is taken to be large enough. What a `jsonb` column
gives back for an object, and whether a `text` column holds a text (PostgreSQL refuses the character 0), are parameters; they
are asked where an argument of the method is neither a header nor of a fixed pattern.
-/
import Middleware.Automation.Store
import Middleware.Postgres.Outbox

namespace Middleware.Automation.Durable

open Lib Automation

structure Server where
  jsonb : Obj → Option Obj
  holds : String → Bool

inductive Raised where
  | automation (e : Error)
  | valueError (message : String)
  | dataError
  | uniqueViolation
  deriving DecidableEq

/-! ## Tables -/

structure ApprovalRow where
  record : ApprovalRecord
  idempotencyKey : String
  requestSha256 : String

structure DispatchRow where
  tenantId : String
  jobId : Uuid
  dispatchGeneration : Nat
  payload : Obj
  state : String

structure Database where
  jobs : OrderedDict Key Job := []
  dispatchOutbox : List DispatchRow := []
  /-- The index of the unique columns leads. -/
  jobSteps : OrderedDict (Key × String) (String × StepEvidence) := []
  jobStepsId : Nat := 0
  approvals : OrderedDict Key ApprovalRow := []
  deadLetters : OrderedDict Key DeadLetterRecord := []
  replayRequests : OrderedDict (Key × String) (String × Job) := []
  reconciliationRuns : OrderedDict (String × String) (String × ReconciliationRun) := []

/-- The answer of a method and the tables it leaves. -/
abbrev Outcome (α : Type) := Except Raised α × Database

def conflict (message : String) : Raised := .automation (.conflict message)

def authorizationDenied (message : String) : Raised := .automation (.authorizationDenied message)

def notFound (message : String) : Raised := .automation (.notFound message)

/-! ## The tenant's connection -/

/-- `TENANT_ID_PATTERN.fullmatch`. -/
def isTenantId : List Char → Bool
  | [] => false
  | c :: rest => c.isAlphanum && decide (rest.length ≤ 127) &&
      rest.all fun c => c.isAlphanum || c == '.' || c == '_' || c == ':' || c == '-'

/-- `canonical_tenant_id`. -/
def canonicalTenantId (tenantId : String) : Except Raised String :=
  let value := Platform.strip tenantId
  if value.isEmpty then .error (.valueError "tenant_id is required")
  else if !isTenantId value.toList then .error (.valueError "tenant_id contains unsupported characters")
  else .ok value

/-- `asyncpg_tenant_connection`. -/
def tenantConnection {α : Type} (tenantId : String) (statements : Database → Outcome α) (db : Database) : Outcome α :=
  match canonicalTenantId tenantId with
  | .error e => (.error e, db)
  | .ok _ => statements db

/-! ## Statements -/

namespace Database

variable (db : Database)

/-- `SELECT * FROM middleware_automation_jobs WHERE tenant_id=$1 AND job_id=$2`. -/
def job (tenantId : String) (jobId : Uuid) : Except Raised Job :=
  match db.jobs.get (tenantId, jobId) with
  | some row => .ok row
  | none => .error (notFound "automation job was not found")

/-- `UPDATE middleware_automation_jobs ... WHERE tenant_id=$1 AND job_id=$2`. -/
def updateJob (key : Key) (row : Job) : Database := { db with jobs := db.jobs.set key row }

def ofJob (key : Key) (row : DispatchRow) : Bool := decide ((row.tenantId, row.jobId) = key)

/-- `COALESCE(max(dispatch_generation),0)+1`. -/
def nextGeneration (key : Key) : Nat :=
  ((db.dispatchOutbox.filter (ofJob key)).map (·.dispatchGeneration)).foldl max 0 + 1

/-- `INSERT INTO middleware_automation_dispatch_outbox`. -/
def dispatch (key : Key) (generation : Nat) (row : Job) (deliveryToken : String) : Database :=
  { db with dispatchOutbox := db.dispatchOutbox ++
      [{ tenantId := key.1
         jobId := key.2
         dispatchGeneration := generation
         payload := (row.dispatch key.2 deliveryToken).payload
         state := "PENDING" }] }

/-- `WHERE tenant_id=$1 AND job_id=$2 AND idempotency_key=$3`. -/
def isApproval (tenantId : String) (jobId : Uuid) (idempotencyKey : String) (m : Key × ApprovalRow) : Bool :=
  decide (m.1.1 = tenantId ∧ m.2.record.jobId = jobId ∧ m.2.idempotencyKey = idempotencyKey)

/-- The row of the unique columns of an approval. -/
def approvalUnder (tenantId : String) (jobId : Uuid) (idempotencyKey : String) : Option ApprovalRow :=
  (db.approvals.find? (isApproval tenantId jobId idempotencyKey)).map (·.2)

/-- `d.state IN ('PENDING','CLAIMED')`. -/
def hasDispatch (key : Key) : Bool := db.dispatchOutbox.any fun row => ofJob key row && ["PENDING", "CLAIMED"].contains row.state

end Database

/-- `_lease_row`. -/
def leaseRow (db : Database) (tenantId : String) (jobId : Uuid) (body : HeartbeatRequest) (clientId : String) (checked : Time) :
    Except Raised Job :=
  match db.job tenantId jobId with
  | .error e => .error e
  | .ok row => if row.held body clientId checked then .ok row else .error (conflict "active automation lease is required")

/-! ## Jobs -/

/-- `enqueue_event`, with the token it draws. -/
def enqueueEvent (server : Server) (lib : Library) (envelope : EventEnvelope) (route : WorkflowRoute)
    (sourceClientId deliveryToken : String) (now : Time) : Database → Outcome Unit :=
  tenantConnection envelope.tenantId fun db =>
    let jobId := jobIdOf lib envelope.tenantId envelope.eventId route
    let key : Key := (envelope.tenantId, jobId)
    if !List.all [envelope.eventId, envelope.correlationId, envelope.causationId, sourceClientId] server.holds then
      (.error .dataError, db)
    else
      match server.jsonb envelope.payload with
      | none => (.error .dataError, db)
      | some stored =>
        -- `ON CONFLICT (tenant_id,event_id,workflow_key,workflow_version) DO NOTHING`
        if db.jobs.any fun m => decide (m.2.tenantId = envelope.tenantId ∧ m.2.eventId = envelope.eventId ∧
            m.2.workflowKey = route.workflowKey ∧ m.2.workflowVersion = route.workflowVersion) then
          (.ok (), db)
        else if (db.jobs.get key).isSome then (.error .uniqueViolation, db)
        else
          let row : Job :=
            { jobId := jobId
              tenantId := envelope.tenantId
              eventId := envelope.eventId
              correlationId := envelope.correlationId
              causationId := envelope.causationId
              occurredAt := envelope.occurredAt
              workflowKey := route.workflowKey
              workflowFamily := route.workflowFamily
              workflowVersion := route.workflowVersion
              expectedClientId := route.clientId
              actorContext := [("source_client_id", .str sourceClientId), ("source_event_id", .str envelope.eventId)]
              safePayload := stored
              deliveryTokenSha256 := tokenDigest deliveryToken
              maxAttempts := route.maxAttempts
              createdAt := now
              updatedAt := now }
          let db := db.updateJob key row
          -- `ON CONFLICT (tenant_id,job_id,dispatch_generation) DO NOTHING`
          if db.dispatchOutbox.any fun row => Database.ofJob key row && decide (row.dispatchGeneration = 1) then (.ok (), db)
          else (.ok (), db.dispatch key 1 row deliveryToken)

/-- `claim`. -/
def claim (lib : Library) (body : JobClaimRequest) (clientId : String) (now : Time) : Database → Outcome JobClaimResponse :=
  tenantConnection body.tenantId fun db =>
    let key : Key := (body.tenantId, body.jobId)
    let token := leaseToken lib body.deliveryToken body.jobId body.executionId clientId
    match db.job body.tenantId body.jobId with
    | .error e => (.error e, db)
    | .ok current =>
      if current.workflowKey ≠ body.workflowKey ∨ current.workflowVersion ≠ body.workflowVersion then
        (.error (conflict "claim workflow identity does not match durable job"), db)
      else if current.expectedClientId ≠ clientId then
        (.error (authorizationDenied "client does not own the job workflow family"), db)
      else if current.deliveryTokenSha256 ≠ tokenDigest body.deliveryToken then
        (.error (authorizationDenied "delivery token is invalid"), db)
      else if current.deliveryTokenUsedAt.isSome then
        if current.executionId = some body.executionId ∧ current.leaseClientId = some clientId ∧
            (current.leaseExpiresAt.any fun expires => decide (now < expires)) = true ∧
            current.leaseTokenSha256 = some (tokenDigest token) then
          (.ok ⟨current, token, current.leaseExpiresAt, true⟩, db)
        else (.error (conflict "delivery token was already consumed"), db)
      else if current.state ≠ .pending ∧ current.state ≠ .retryScheduled then
        (.error (conflict "automation job is not claimable"), db)
      else
        let row := current.claimed (tokenDigest token) clientId body.executionId now
        (.ok ⟨row, token, some (now + lease), false⟩,
          { db.updateJob key row with
            dispatchOutbox := db.dispatchOutbox.map fun row =>
              if Database.ofJob key row && row.state == "PENDING" then { row with state := "CLAIMED" } else row })

/-- `get_job`. -/
def getJob (tenantId : String) (jobId : Uuid) : Database → Outcome Job :=
  tenantConnection tenantId fun db => (db.job tenantId jobId, db)

/-- `heartbeat`. -/
def heartbeat (jobId : Uuid) (body : HeartbeatRequest) (clientId : String) (checked now : Time) : Database → Outcome Job :=
  tenantConnection body.tenantId fun db =>
    match leaseRow db body.tenantId jobId body clientId checked with
    | .error e => (.error e, db)
    | .ok current =>
      let row := { current.run now with leaseExpiresAt := some (now + lease) }
      (.ok row, db.updateJob (body.tenantId, jobId) row)

/-- `record_step`. Its insertion takes an id even where it finds a conflict. -/
def recordStep (server : Server) (lib : Library) (jobId : Uuid) (body : StepRecord) (clientId : String) (checked now : Time) :
    Database → Outcome StepEvidence :=
  tenantConnection body.tenantId fun db =>
    let key : Key := (body.tenantId, jobId)
    match leaseRow db body.tenantId jobId body.toHeartbeatRequest clientId checked with
    | .error e => (.error e, db)
    | .ok current =>
      match server.holds body.stepKey, server.jsonb body.safeMetadata with
      | false, _ => (.error .dataError, db)
      | true, none => (.error .dataError, db)
      | true, some stored =>
        let db := { db with jobStepsId := db.jobStepsId + 1 }
        match db.jobSteps.get (key, body.idempotencyKey) with
        | some (existing, evidence) =>
          if existing ≠ body.digest lib then
            (.error (conflict "step idempotency key was reused with different content"), db)
          else (.ok { evidence with duplicate := true }, db.updateJob key (current.run now))
        | none =>
          let evidence : StepEvidence :=
            { evidenceId := db.jobStepsId
              jobId := jobId
              executionId := body.executionId
              stepKey := body.stepKey
              stepState := body.stepState
              safeMetadata := stored
              recordedAt := body.recordedAt }
          (.ok evidence,
            { db.updateJob key (current.run now) with
              jobSteps := db.jobSteps.set (key, body.idempotencyKey) (body.digest lib, evidence) })

/-- `_terminal_existing`. -/
def terminalExisting (current : Job) (idempotencyKey requestDigest : String) : Except Raised (Option Job) :=
  match current.terminalIdempotencyKey with
  | none => .ok none
  | some existing =>
    if existing = idempotencyKey ∧ current.terminalRequestSha256 = some requestDigest then .ok (some current)
    else .error (conflict "job already has a different terminal transition")

/-- `complete`. -/
def complete (server : Server) (jobId : Uuid) (body : TerminalResult) (clientId : String) (checked now : Time) :
    Database → Outcome Terminal :=
  tenantConnection body.tenantId fun db =>
    match db.job body.tenantId jobId with
    | .error e => (.error e, db)
    | .ok current =>
      match terminalExisting current body.idempotencyKey body.digest with
      | .error e => (.error e, db)
      | .ok (some replay) => (.ok (replay, true), db)
      | .ok none =>
        match leaseRow db body.tenantId jobId body.toHeartbeatRequest clientId checked with
        | .error e => (.error e, db)
        | .ok _ =>
          if (server.jsonb body.safeResult).isNone then (.error .dataError, db)
          else
            let row := current.terminal .completed (some body.resultCode) none body.idempotencyKey body.digest now
            (.ok (row, false), db.updateJob (body.tenantId, jobId) row)

/-- The row of a failed job, with the `CASE`s of the statement. -/
def failedRow (current : Job) (state : JobState) (body : FailureResult) (deliveryTokenSha256 : Option String) (now : Time) : Job :=
  { current with
    state := state
    resultCode := none
    errorCode := some body.errorCode
    terminalIdempotencyKey := if state = .retryScheduled then none else some body.idempotencyKey
    terminalRequestSha256 := if state = .retryScheduled then none else some body.digest
    deliveryTokenSha256 :=
      if state = .retryScheduled then deliveryTokenSha256.getD current.deliveryTokenSha256 else current.deliveryTokenSha256
    deliveryTokenUsedAt := if state = .retryScheduled then none else current.deliveryTokenUsedAt
    leaseTokenSha256 := none
    leaseClientId := if state = .retryScheduled then none else current.leaseClientId
    executionId := if state = .retryScheduled then none else current.executionId
    leaseExpiresAt := none
    resourceVersion := current.resourceVersion + 1
    updatedAt := now }

/-- The dead letter goes in, unless its id is taken; the job has no second one. -/
def insertDeadLetter (db : Database) (tenantId : String) (dead : DeadLetterRecord) : Except Raised Database :=
  -- `ON CONFLICT (tenant_id,dead_letter_id) DO NOTHING`
  if (db.deadLetters.get (tenantId, dead.deadLetterId)).isSome then .ok db
  else if db.deadLetters.any fun m => decide (m.1.1 = tenantId ∧ m.2.jobId = dead.jobId) then .error .uniqueViolation
  else .ok { db with deadLetters := db.deadLetters.set (tenantId, dead.deadLetterId) dead }

/-- `fail`, with the token it draws. -/
def fail (server : Server) (lib : Library) (jobId : Uuid) (body : FailureResult) (clientId deliveryToken : String)
    (checked now : Time) : Database → Outcome Terminal :=
  tenantConnection body.tenantId fun db =>
    let key : Key := (body.tenantId, jobId)
    match db.job body.tenantId jobId with
    | .error e => (.error e, db)
    | .ok current =>
      match terminalExisting current body.idempotencyKey body.digest with
      | .error e => (.error e, db)
      | .ok (some replay) => (.ok (replay, true), db)
      | .ok none =>
        match leaseRow db body.tenantId jobId body.toHeartbeatRequest clientId checked with
        | .error e => (.error e, db)
        | .ok _ =>
          if (server.jsonb body.safeError).isNone then (.error .dataError, db)
          else
            let state := current.failureState body
            let row := failedRow current state body
              (if state = .retryScheduled then some (tokenDigest deliveryToken) else none) now
            let updated := db.updateJob key row
            if state = .retryScheduled then
              (.ok (row, false), updated.dispatch key (updated.nextGeneration key) row deliveryToken)
            else if state = .deadLetter then
              match insertDeadLetter updated body.tenantId (current.deadLetter lib body.tenantId jobId body now) with
              | .error e => (.error e, db)
              | .ok inserted => (.ok (row, false), inserted)
            else (.ok (row, false), updated)

/-! ## Approvals and replays -/

/-- `request_approval`. -/
def requestApproval (server : Server) (lib : Library) (body : ApprovalRequest) (clientId requestedBy : String) (now : Time) :
    Database → Outcome ApprovalRecord :=
  tenantConnection body.tenantId fun db =>
    let key : Key := (body.tenantId, body.jobId)
    let approvalId := lib.uuid5 s!"codestra-approval:{body.tenantId}:{body.jobId}:{body.idempotencyKey}"
    match db.job body.tenantId body.jobId with
    | .error e => (.error e, db)
    | .ok job =>
      if job.expectedClientId ≠ clientId then
        (.error (authorizationDenied "client does not own the approval job family"), db)
      else if !List.all [body.summary, requestedBy] server.holds then (.error .dataError, db)
      else
        -- `ON CONFLICT (tenant_id,job_id,idempotency_key) DO NOTHING`
        match db.approvalUnder body.tenantId body.jobId body.idempotencyKey with
        | some row =>
          if row.requestSha256 ≠ body.digest lib then
            (.error (conflict "approval idempotency key was reused with different content"), db)
          else (.ok { row.record with duplicate := true }, db)
        | none =>
          if (db.approvals.get (body.tenantId, approvalId)).isSome then (.error .uniqueViolation, db)
          else
            let record : ApprovalRecord :=
              { approvalId := approvalId
                tenantId := body.tenantId
                jobId := body.jobId
                approvalType := body.approvalType
                summary := body.summary
                requestedBy := requestedBy
                expiresAt := body.expiresAt
                createdAt := now
                updatedAt := now }
            (.ok record,
              { db.updateJob key (job.await now) with
                approvals := db.approvals.set (body.tenantId, approvalId) ⟨record, body.idempotencyKey, body.digest lib⟩ })

/-- `get_approval`. -/
def getApproval (tenantId : String) (approvalId : Uuid) (checked now : Time) : Database → Outcome ApprovalRecord :=
  tenantConnection tenantId fun db =>
    match db.approvals.get (tenantId, approvalId) with
    | none => (.error (notFound "approval was not found"), db)
    | some row =>
      if row.record.state = .pending ∧ row.record.expiresAt ≤ checked then
        let record := { row.record with
          state := .expired
          resourceVersion := row.record.resourceVersion + 1
          updatedAt := now }
        (.ok record, { db with approvals := db.approvals.set (tenantId, approvalId) { row with record := record } })
      else (.ok row.record, db)

/-- The decision of an approver, which the approvals' service writes; `CHECK (decided_by <> requested_by)`. -/
def decideApproval (tenantId : String) (approvalId : Uuid) (state : ApprovalState) (decidedBy : String) (now : Time)
    (db : Database) : Outcome Unit :=
  match db.approvals.get (tenantId, approvalId) with
  | none => (.ok (), db)
  | some row =>
    if row.record.requestedBy = decidedBy then (.error .dataError, db)
    else
      let record := { row.record with
        state := state
        decidedBy := some decidedBy
        updatedAt := now
        resourceVersion := row.record.resourceVersion + 1 }
      (.ok (), { db with approvals := db.approvals.set (tenantId, approvalId) { row with record := record } })

/-- `DeadLetterReplayRequest`, with what the store digests of it. -/
structure ReplayRequest extends DeadLetterReplayRequest where
  correlationId : String
  idempotencyKey : String
  safeReplayClassification : String
  replayReason : String

/-- `_digest(body.model_dump(mode="json"))`. -/
def ReplayRequest.digest (body : ReplayRequest) : String :=
  Automation.digest (.obj [("tenant_id", .str body.tenantId), ("correlation_id", .str body.correlationId),
    ("idempotency_key", .str body.idempotencyKey), ("approval_id", .str body.approvalId),
    ("expected_version", .int body.expectedVersion),
    ("original_effect_fingerprint", .str body.originalEffectFingerprint),
    ("safe_replay_classification", .str body.safeReplayClassification), ("replay_reason", .str body.replayReason)])

/-- `replay_dead_letter`, with the token it draws. -/
def replayDeadLetter (deadLetterId : Uuid) (body : ReplayRequest) (clientId deliveryToken : String) (checked now : Time)
    (db : Database) : Outcome Terminal :=
  if clientId ≠ "n8n-operations-automation" then
    (.error (authorizationDenied "only operations automation may request replay"), db)
  else
    tenantConnection body.tenantId (fun db =>
      match db.replayRequests.get ((body.tenantId, deadLetterId), body.idempotencyKey) with
      | some (requestSha256, response) =>
        if requestSha256 ≠ body.digest then
          (.error (conflict "replay idempotency key was reused with different content"), db)
        else (.ok (response, true), db)
      | none =>
        match db.deadLetters.get (body.tenantId, deadLetterId) with
        | none => (.error (notFound "dead letter was not found"), db)
        | some dead =>
          match db.approvals.get (body.tenantId, body.approvalId) with
          | none => (.error (notFound "approval was not found"), db)
          | some approval =>
            if !approval.record.admits dead checked then
              (.error (authorizationDenied "protected non-self approval is required"), db)
            else if dead.resourceVersion ≠ body.expectedVersion then
              (.error (conflict "dead-letter expected_version is stale"), db)
            else if dead.originalEffectFingerprint ≠ body.originalEffectFingerprint then
              (.error (conflict "dead-letter effect fingerprint does not match"), db)
            else if dead.state ≠ .opened then (.error (conflict "dead letter is not open for replay"), db)
            else
              let key : Key := (body.tenantId, dead.jobId)
              match db.jobs.get key with
              | none => (.error (notFound "dead-letter job was not found"), db)
              | some current =>
                let row := current.replayed deliveryToken now
                let updated := db.updateJob key row
                let dispatched := updated.dispatch key (updated.nextGeneration key) { row with workflowKey := dead.workflowKey }
                  deliveryToken
                (.ok (row, false),
                  { dispatched with
                    deadLetters := db.deadLetters.set (body.tenantId, deadLetterId) (dead.requested now)
                    replayRequests := db.replayRequests.set ((body.tenantId, deadLetterId), body.idempotencyKey)
                      (body.digest, row) })) db

/-! ## Reconciliation -/

/-- The order of two jobs under `ORDER BY j.created_at,j.job_id`. -/
def inOrder (a b : Job) : Prop := a.createdAt < b.createdAt ∨ a.createdAt = b.createdAt ∧ a.jobId ≤ b.jobId

instance : DecidableRel inOrder := fun a b =>
  inferInstanceAs (Decidable (a.createdAt < b.createdAt ∨ a.createdAt = b.createdAt ∧ a.jobId ≤ b.jobId))

/-- The jobs of the tenant, all or those named. -/
def selected (jobs : OrderedDict Key Job) (body : ReconciliationRequest) : List Job :=
  (jobs.filter fun m => decide (m.1.1 = body.tenantId) && (body.jobIds.isEmpty || body.jobIds.contains m.1.2)).map (·.2)

/-- The plan's items of a row, in the order in which `reconcile` finds them. -/
def Database.plan (db : Database) (now : Time) (row : Job) : List Obj :=
  (if (row.leaseExpiresAt.any fun expires => decide (expires ≤ now)) = true then
    [[("job_id", .str row.jobId), ("action", .str "REQUEUE_EXPIRED_LEASE")]] else []) ++
  (if (row.state = .pending ∨ row.state = .retryScheduled) ∧ db.hasDispatch (row.tenantId, row.jobId) = false then
    [[("job_id", .str row.jobId), ("action", .str "RECREATE_DISPATCH")]] else [])

/-- `reconcile`. -/
def reconcile (server : Server) (lib : Library) (body : ReconciliationRequest) (requestedBy : String) (now : Time) :
    Database → Outcome ReconciliationRun :=
  tenantConnection body.tenantId fun db =>
    let requestDigest := digest (.obj [("mode", .str body.mode), ("job_ids", .arr (body.jobIds.map .str))])
    let key := (body.tenantId, body.idempotencyKey)
    let reconciliationId := lib.uuid5 s!"codestra-automation-reconcile:{body.tenantId}:{body.idempotencyKey}"
    match db.reconciliationRuns.get key with
    | some (requestSha256, run) =>
      if requestSha256 ≠ requestDigest then (.error (conflict "reconciliation idempotency key was reused"), db)
      else (.ok { run with duplicate := true }, db)
    | none =>
      let rows := (selected db.jobs body).insertionSort inOrder
      let expired := fun row : Job => row.leaseExpiresAt.any fun expires => decide (expires ≤ now)
      let missing := fun row : Job => decide ((row.state = .pending ∨ row.state = .retryScheduled) ∧
        db.hasDispatch (row.tenantId, row.jobId) = false)
      let run : ReconciliationRun :=
        { reconciliationId := reconciliationId
          tenantId := body.tenantId
          mode := body.mode
          requestedBy := requestedBy
          inspectedJobs := rows.length
          stateCounts := rows.foldl
            (fun counts row => OrderedDict.set counts row.state.value ((counts.get row.state.value).getD 0 + 1))
            ([] : OrderedDict String Nat)
          expiredLeases := (rows.filter expired).length
          missingDispatches := (rows.filter missing).length
          safePlan := if body.mode = "PLAN" then rows.flatMap (db.plan now) else []
          createdAt := now }
      if !server.holds requestedBy then (.error .dataError, db)
      else if db.reconciliationRuns.any fun m => decide (m.1.1 = body.tenantId ∧ m.2.2.reconciliationId = reconciliationId) then
        (.error .uniqueViolation, db)
      else (.ok run, { db with reconciliationRuns := db.reconciliationRuns.set key (requestDigest, run) })

/-! ## Calls -/

inductive Call where
  | enqueueEvent (envelope : EventEnvelope) (route : WorkflowRoute) (sourceClientId deliveryToken : String) (now : Time)
  | claim (body : JobClaimRequest) (clientId : String) (now : Time)
  | getJob (tenantId : String) (jobId : Uuid)
  | heartbeat (jobId : Uuid) (body : HeartbeatRequest) (clientId : String) (checked now : Time)
  | recordStep (jobId : Uuid) (body : StepRecord) (clientId : String) (checked now : Time)
  | complete (jobId : Uuid) (body : TerminalResult) (clientId : String) (checked now : Time)
  | fail (jobId : Uuid) (body : FailureResult) (clientId deliveryToken : String) (checked now : Time)
  | requestApproval (body : ApprovalRequest) (clientId requestedBy : String) (now : Time)
  | getApproval (tenantId : String) (approvalId : Uuid) (checked now : Time)
  | decideApproval (tenantId : String) (approvalId : Uuid) (state : ApprovalState) (decidedBy : String) (now : Time)
  | replayDeadLetter (deadLetterId : Uuid) (body : ReplayRequest) (clientId deliveryToken : String) (checked now : Time)
  | reconcile (body : ReconciliationRequest) (requestedBy : String) (now : Time)

def Outcome.as {α : Type} (f : α → Reply) (r : Outcome α) : Except Raised Reply × Database := (r.1.map f, r.2)

def perform (server : Server) (lib : Library) (c : Call) (db : Database) : Except Raised Reply × Database :=
  match c with
  | .enqueueEvent envelope route sourceClientId deliveryToken now =>
    (enqueueEvent server lib envelope route sourceClientId deliveryToken now db).as fun _ => .unit
  | .claim body clientId now => (claim lib body clientId now db).as .claimed
  | .getJob tenantId jobId => (getJob tenantId jobId db).as (.job · false)
  | .heartbeat jobId body clientId checked now => (heartbeat jobId body clientId checked now db).as (.job · false)
  | .recordStep jobId body clientId checked now => (recordStep server lib jobId body clientId checked now db).as .evidence
  | .complete jobId body clientId checked now => (complete server jobId body clientId checked now db).as fun x => .job x.1 x.2
  | .fail jobId body clientId deliveryToken checked now =>
    (fail server lib jobId body clientId deliveryToken checked now db).as fun x => .job x.1 x.2
  | .requestApproval body clientId requestedBy now => (requestApproval server lib body clientId requestedBy now db).as .approval
  | .getApproval tenantId approvalId checked now => (getApproval tenantId approvalId checked now db).as .approval
  | .decideApproval tenantId approvalId state decidedBy now =>
    (decideApproval tenantId approvalId state decidedBy now db).as fun _ => .unit
  | .replayDeadLetter deadLetterId body clientId deliveryToken checked now =>
    (replayDeadLetter deadLetterId body clientId deliveryToken checked now db).as fun x => .job x.1 x.2
  | .reconcile body requestedBy now => (reconcile server lib body requestedBy now db).as .reconciliation

def call (server : Server) (lib : Library) (c : Call) (db : Database) : Database := (perform server lib c db).2

end Middleware.Automation.Durable
