/-
The operations on the AI job tables: `app/core/ai_jobs.py`, the writes of `app/core/ai_orchestration.py` and the
cancellation of `app/api/v1/ai_console.py`. An operation is one transaction at one reading of the clock (`now()` of
PostgreSQL is the start of the transaction): it answers and leaves the tables it wrote, or raises and is rolled back.
`claim` skips the rows that other transactions have locked; which ones these are is input.
-/
import Middleware.Ai.Tables

namespace Middleware.Ai

open Ledger

def permissionError (message : String) : Exc := .other "PermissionError" message
def lookupError (message : String) : Exc := .other "LookupError" message
def overflowError (message : String) : Exc := .other "OverflowError" message
def integrityError (constraint : String) : Exc := .other "IntegrityError" constraint

/-! ## Claim -/

/-- The arguments of `claim`. -/
structure ClaimRequest where
  workerId : String
  leaseSeconds : Time
  organizationId : Option Uuid := none
  workspaceId : Option Uuid := none
  serviceId : Option String := none
  allowedModelProfiles : Option (List String) := none

/-- The profiles of the worker's leases that count against its limit. -/
def activeProfiles (db : Db) (c : ClaimRequest) (now : Time) : List (Option String) :=
  (db.jobs.filter fun j => j.leasedTo c.workerId now && j.inScope c.organizationId c.workspaceId).map (·.modelProfile)

/-- The checks of an authenticated worker: its registration and its free slots. -/
def admitWorker (db : Db) (c : ClaimRequest) (now : Time) : Except Exc (List (Option String)) :=
  match c.serviceId with
  | none => .ok []
  | some serviceId =>
    match db.registrations.lookup c.workerId with
    | none => .error (permissionError "worker_not_enabled")
    | some r =>
      if r.serviceId ≠ serviceId ∨ r.enabled = false then .error (permissionError "worker_not_enabled")
      else if min r.maxConcurrency workerHardSafetyCap ≤ (activeProfiles db c now).length then
        .error (overflowError "worker_concurrency_limit")
      else .ok (activeProfiles db c now)

/-- The profiles the candidate query is restricted to; callers without a service may claim any row. -/
def profileFilter (c : ClaimRequest) (effective : List String) : Option (List String) :=
  if c.serviceId.isSome ∨ c.allowedModelProfiles.isSome then some effective else none

def claimable (c : ClaimRequest) (profiles : Option (List String)) (now : Time) (j : Job) : Bool :=
  (j.state == .queued || j.state == .retryWait) && decide (j.nextAttemptAt ≤ now) &&
    j.modelProfile.all ((modelRuntimeClasses.map (·.1)).contains ·) &&
    profiles.all (fun ps => j.modelProfile.any ps.contains) && j.inScope c.organizationId c.workspaceId &&
    j.cancelRequestedAt.isNone && j.deadlineAt.all fun t => decide (now < t)

/-- `ORDER BY priority,created_at`. -/
def claimOrder (a b : Job) : Prop := a.priority < b.priority ∨ a.priority = b.priority ∧ a.createdAt ≤ b.createdAt

instance (a b : Job) : Decidable (claimOrder a b) := inferInstanceAs (Decidable (_ ∨ _ ∧ _))

/-- The row `SKIP LOCKED LIMIT 1` takes. -/
def candidate (db : Db) (c : ClaimRequest) (profiles : Option (List String)) (locked : List Uuid) (now : Time) :
    Option Job :=
  ((db.jobs.filter fun j => claimable c profiles now j && !locked.contains j.id).insertionSort claimOrder).head?

def claimRow (c : ClaimRequest) (now : Time) (j : Job) : Job :=
  { j with
    state := .leased, leaseOwner := some c.workerId, leaseExpiresAt := some (now + c.leaseSeconds)
    fencingToken := j.fencingToken + 1, attemptCount := j.attemptCount + 1 }

def claim (c : ClaimRequest) (locked : List Uuid) (now : Time) (db : Db) : Except Exc (Option Job × Db) :=
  if c.allowedModelProfiles.any fun ps => ps.isEmpty || ps.any fun p => (modelRuntimeClasses.lookup p).isNone then
    .error (.valueError "invalid_model_profile_filter")
  else
    match admitWorker db c now with
    | .error e => .error e
    | .ok active =>
      let effective := effectiveCompatibleProfiles active c.allowedModelProfiles
      if effective.isEmpty then .ok (none, db)
      else
        match candidate db c (profileFilter c effective) locked now with
        | none => .ok (none, db)
        | some j =>
          if db.attempts.any fun a => a.jobId == j.id && a.attemptNumber == j.attemptCount + 1 then
            .error (integrityError "ai_job_attempts_job_id_attempt_number_key")
          else
            let db := db.updateJob j.id (claimRow c now)
            .ok (some (claimRow c now j),
              { db with
                attempts := db.attempts ++ [⟨j.id, j.attemptCount + 1, j.fencingToken + 1, c.workerId, .leased, none, none⟩] })

/-! ## Leases -/

/-- Who calls about which job: the worker, the fencing token of its claim, and its tenant. -/
structure Lease where
  jobId : Uuid
  workerId : String
  fencingToken : Nat
  organizationId : Option Uuid := none
  workspaceId : Option Uuid := none

/-- The condition of `assert_lease`. -/
def Lease.holds (l : Lease) (allowCancelRequested : Bool) (now : Time) (j : Job) : Bool :=
  (j.state == .leased || allowCancelRequested && j.state == .cancelRequested) && j.leaseOwner == some l.workerId &&
    j.fencingToken == l.fencingToken && (j.leaseExpiresAt.any fun t => decide (now < t)) &&
    j.inScope l.organizationId l.workspaceId

def assertLease (l : Lease) (allowCancelRequested : Bool) (now : Time) (db : Db) : Except Exc Job :=
  match db.job l.jobId with
  | some j => if l.holds allowCancelRequested now j then .ok j else .error (permissionError "stale_or_invalid_lease")
  | none => .error (permissionError "stale_or_invalid_lease")

def heartbeat (l : Lease) (leaseSeconds now : Time) (db : Db) : Except Exc (Time × Db) := do
  let _ ← assertLease l true now db
  return (now + leaseSeconds, db.updateJob l.jobId fun j => { j with leaseExpiresAt := some (now + leaseSeconds) })

/-- `append_chunk`: whether the chunk was inserted; a sequence number is stored once. -/
def appendChunk (l : Lease) (sequence : Int) (content : String) (maxOutputBytes : Nat) (now : Time) (db : Db) :
    Except Exc (Bool × Db) := do
  let row ← assertLease l false now db
  if maxOutputBytes < row.outputBytes + content.utf8ByteSize then
    throw (overflowError "output_limit_exceeded")
  else if db.chunks.any fun c => c.jobId == l.jobId && c.sequence == sequence then
    return (false, db)
  else
    let db := db.updateJob l.jobId fun j => { j with outputBytes := j.outputBytes + content.utf8ByteSize }
    return (true,
      { db with
        chunks := db.chunks ++ [⟨l.jobId, row.organizationId, row.workspaceId, sequence, l.fencingToken, content⟩] })

/-! ## Finish -/

/-- How a worker ends an attempt. -/
structure Ending where
  failed : Bool
  errorCode : Option String := none
  retryable : Bool := false
  correlationId : String
  safeErrorDetails : Obj := []

/-- `[A-Za-z0-9._:/ -]{1,128}`. -/
def safeText (s : String) : Bool :=
  decide (1 ≤ s.length ∧ s.length ≤ 128) &&
    s.toList.all fun c => c.isAlphanum || ['.', '_', ':', '/', ' ', '-'].contains c

/-- `SAFE_ERROR_DETAIL_FIELDS`. -/
def safeErrorDetailFields : List String :=
  ["category", "component", "http_status", "model_profile", "operation", "provider", "timeout_seconds"]

/-- `sanitize_error_details`. -/
def sanitizeErrorDetails (details : Obj) : Obj :=
  details.foldl (fun safe m =>
    let normalized := String.ofList (lower m.1)
    if !safeErrorDetailFields.contains normalized then safe
    else
      match m.2 with
      | .str s => if safeText s then Obj.set safe normalized (.str s) else safe
      | .int n => Obj.set safe normalized (.int n)
      | .bool b => Obj.set safe normalized (.bool b)
      | _ => safe) []

/-- The state `finish` leads to. -/
def finishState (e : Ending) (completionState : JobState) (j : Job) : JobState :=
  if j.cancelRequestedAt.isSome then .cancelled
  else if !e.failed then completionState
  else if e.retryable ∧ j.attemptCount < j.maxAttempts then .retryWait
  else .deadLetter

def finishDelay (attemptCount : Nat) : Time := min 300 (2 ^ min attemptCount 8)

def finishRow (e : Ending) (state : JobState) (now : Time) (j : Job) : Job :=
  { j with
    state := state, leaseOwner := none, leaseExpiresAt := none
    nextAttemptAt := if state = .retryWait then now + finishDelay j.attemptCount else j.nextAttemptAt
    failureCode := e.errorCode
    completedAt :=
      if state ∈ [JobState.completed, .approvalRequired, .cancelled, .deadLetter, .failed] then some now else none }

/-- The dead letter `finish` writes. -/
def finishLetter (e : Ending) (now : Time) (j : Job) : DeadLetter :=
  let error := (orElse e.errorCode (some "attempts_exhausted")).getD ""
  let details := sanitizeErrorDetails e.safeErrorDetails
  { jobId := j.id, organizationId := j.organizationId, workspaceId := j.workspaceId, safeErrorCode := error,
    attemptCount := j.attemptCount, payloadSha256 := j.requestSha256, finalErrorCode := error,
    maxAttempts := j.maxAttempts, safeErrorDetails := details, failedAt := now, taskId := j.id,
    tenantId := j.organizationId, correlationId := e.correlationId,
    evidenceHash := Sha256.hexdigest
      (j.id ++ "\x00" ++ error ++ "\x00" ++ toString j.attemptCount ++ "\x00" ++ dumps true (.obj details)) }

/-- `DO UPDATE`: the evidence is replaced, the recovery status and the payload hash stay. -/
def replaceEvidence (d x : DeadLetter) : DeadLetter :=
  { x with
    safeErrorCode := d.safeErrorCode, finalErrorCode := d.finalErrorCode, attemptCount := d.attemptCount
    maxAttempts := d.maxAttempts, safeErrorDetails := d.safeErrorDetails, failedAt := d.failedAt
    correlationId := d.correlationId, evidenceHash := d.evidenceHash, manualRetryRequiresNewApproval := true }

/-- `ON CONFLICT(job_id) DO UPDATE`. -/
def upsertLetter (d : DeadLetter) (letters : List DeadLetter) : List DeadLetter :=
  if letters.any fun x => x.jobId == d.jobId then
    letters.map fun x => if x.jobId = d.jobId then replaceEvidence d x else x
  else letters ++ [d]

/-- `UPDATE ai_job_attempts SET ... WHERE job_id=:job AND fencing_token=:token`. -/
def updateAttempts (jobId : Uuid) (fencingToken : Nat) (f : Attempt → Attempt) (attempts : List Attempt) : List Attempt :=
  attempts.map fun a => if a.jobId = jobId ∧ a.fencingToken = fencingToken then f a else a

def finish (l : Lease) (e : Ending) (completionState : JobState) (now : Time) (db : Db) : Except Exc (JobState × Db) := do
  let row ← assertLease l true now db
  let state := finishState e completionState row
  let db := db.updateJob l.jobId (finishRow e state now)
  let attempts := updateAttempts l.jobId l.fencingToken
    (fun a => { a with state := state, safeErrorCode := e.errorCode, finishedAt := some now }) db.attempts
  let letters := if state = .deadLetter then upsertLetter (finishLetter e now row) db.deadLetters else db.deadLetters
  return (state, { db with attempts := attempts, deadLetters := letters })

/-! ## Results -/

/-- What the platform reads of an `AIResult`; `approvalId` is the id drawn for a new approval. -/
structure Result where
  jobId : Uuid
  commandId : Uuid
  output : Json
  approvalId : Uuid

def Result.sha256 (r : Result) : String := Sha256.hexdigest (dumps true r.output)

/-- `store_result`: keep the first result, and ask for an approval when the command requires one. -/
def Orchestration.storeResult (job : Job) (r : Result) (db : Db) : JobState × Db :=
  let results := if db.results.any (·.jobId == job.id) then db.results else db.results ++ [⟨job.id, r.output, r.sha256⟩]
  let approvals :=
    if job.approvalRequired && !db.approvals.any (fun a => a.jobId == job.id || a.id == r.approvalId) then
      db.approvals ++ [{ id := r.approvalId, jobId := job.id, organizationId := job.organizationId,
                         workspaceId := job.workspaceId }]
    else db.approvals
  (if job.approvalRequired then .approvalRequired else .completed, { db with results := results, approvals := approvals })

/-- `completed_result_status`: whether the submitted result is the stored one again. -/
def completedResultStatus (l : Lease) (r : Option Result) (db : Db) : Except Exc (Option JobState) :=
  match db.job l.jobId with
  | none => .ok none
  | some j =>
    if !j.inScope l.organizationId l.workspaceId || (j.state ≠ .completed && j.state ≠ .approvalRequired) then .ok none
    else
      match r, db.results.find? (·.jobId == l.jobId) with
      | some r, some stored =>
        if stored.outputSha256 = r.sha256 then .ok (some j.state) else .error (permissionError "duplicate_result_rejected")
      | _, _ => .error (permissionError "duplicate_result_rejected")

def Ending.success (correlationId : String) : Ending := { failed := false, correlationId := correlationId }

/-- `POST /worker/jobs/{job_id}/complete`. -/
def completeJob (l : Lease) (r : Option Result) (correlationId : String) (now : Time) (db : Db) :
    Except Exc (JobState × Db) := do
  match ← completedResultStatus l r db with
  | some state => return (state, db)
  | none =>
    match r with
    | none => finish l (.success correlationId) .completed now db
    | some r =>
      if r.jobId ≠ l.jobId ∨ r.commandId ≠ l.jobId then throw (.other "HTTPException" "result reference mismatch")
      else
        let job ← assertLease l false now db
        let (state, db) := Orchestration.storeResult job r db
        finish l (.success correlationId) state now db

/-- The tail of `process_job` of `app/workers/openai_jobs.py`: store the result, then finish. The columns it reads of
the claimed row never change. -/
def processJob (l : Lease) (r : Result) (correlationId : String) (now : Time) (db : Db) : Except Exc (JobState × Db) :=
  match db.job l.jobId with
  | none => .error (permissionError "stale_or_invalid_lease")
  | some job =>
    let (state, db) := Orchestration.storeResult job r db
    finish l (.success correlationId) state now db

/-! ## Cancellation -/

def finalStates : List JobState := [.completed, .failed, .cancelled, .deadLetter]

/-- `cancel` of `app/api/v1/ai_console.py`. -/
def Console.cancel (jobId organizationId workspaceId : Uuid) (now : Time) (db : Db) : Except Exc (JobState × Db) :=
  match db.job jobId with
  | none => .error (.other "HTTPException" "active job not found")
  | some j =>
    if !j.inScope (some organizationId) (some workspaceId) || finalStates.contains j.state then
      .error (.other "HTTPException" "active job not found")
    else
      let idle := j.state == .queued || j.state == .retryWait
      let row : Job :=
        { j with
          cancelRequestedAt := some (j.cancelRequestedAt.getD now)
          state := if idle then .cancelled else j.state
          completedAt := if idle then some now else j.completedAt }
      .ok (row.state, db.updateJob jobId fun _ => row)

/-- `cancel` of `app/core/ai_orchestration.py`. -/
def Orchestration.cancel (jobId tenantId workspaceId : Uuid) (now : Time) (db : Db) : Except Exc (JobState × Db) :=
  match db.job jobId with
  | none => .error (lookupError "active_command_not_found")
  | some j =>
    if !j.inScope (some tenantId) (some workspaceId) || (finalStates ++ [JobState.expired, JobState.rejected]).contains j.state then
      .error (lookupError "active_command_not_found")
    else
      let idle := [JobState.queued, .available, .retryWait, .approvalRequired].contains j.state
      let row : Job :=
        { j with
          cancelRequestedAt := some (j.cancelRequestedAt.getD now)
          state := if idle then .cancelled else .cancelRequested
          completedAt := if idle then some now else j.completedAt }
      .ok (row.state, db.updateJob jobId fun _ => row)

/-- `worker_cancel`: whether a cancellation was requested, and the state the job is in. -/
def workerCancel (l : Lease) (now : Time) (db : Db) : Except Exc ((Bool × JobState) × Db) :=
  match assertLease l true now db with
  | .error e =>
    let already := db.jobs.any fun j => j.id == l.jobId && j.inScope l.organizationId l.workspaceId &&
      j.state == .cancelled && j.fencingToken == l.fencingToken &&
      db.attempts.any fun a => a.jobId == j.id && a.fencingToken == l.fencingToken && a.workerId == l.workerId
    if already then .ok ((true, .cancelled), db) else .error e
  | .ok row =>
    if row.cancelRequestedAt.isNone then .ok ((false, row.state), db)
    else
      let db := db.updateJob l.jobId fun j =>
        { j with state := .cancelled, leaseOwner := none, leaseExpiresAt := none, completedAt := some now }
      .ok ((true, .cancelled),
        { db with
          attempts := db.attempts.map fun a =>
            if a.jobId = l.jobId ∧ a.fencingToken = l.fencingToken ∧ a.workerId = l.workerId then
              { a with state := .cancelled, finishedAt := some now }
            else a })

/-! ## Approvals -/

def ApprovalState.jobState : ApprovalState → JobState
  | .pending => .approvalRequired
  | .approved => .approved
  | .rejected => .rejected

/-- The approval `decide` decides. -/
def pendingApproval (db : Db) (jobId tenantId workspaceId : Uuid) : Option Approval :=
  db.approvals.find? fun a =>
    a.jobId == jobId && a.organizationId == tenantId && a.workspaceId == workspaceId && a.state == .pending

def Orchestration.decide (jobId tenantId workspaceId : Uuid) (actorId : String) (approved : Bool) (reason : String) (now : Time)
    (db : Db) : Except Exc (JobState × Db) :=
  match pendingApproval db jobId tenantId workspaceId with
  | none => .error (lookupError "pending_approval_not_found")
  | some approval =>
    let state : ApprovalState := if approved then .approved else .rejected
    let db := db.updateJob jobId fun j => { j with state := state.jobState }
    .ok (state.jobState,
      { db with
        approvals := db.approvals.map fun a =>
          if a.id = approval.id then
            { a with
              state := state, decidedByFingerprint := some (Sha256.hexdigest actorId), decisionReason := some reason
              decidedAt := some now }
          else a })

/-! ## Recovery -/

def leaseExpired (now : Time) (j : Job) : Bool := j.leaseExpiresAt.any fun t => decide (t ≤ now)

def beforeDeadline (now : Time) (j : Job) : Bool := j.deadlineAt.all fun t => decide (now < t)

/-- The first update of `recover_expired`: cancellations whose worker is gone. -/
def recoverCancelled (organizationId workspaceId : Option Uuid) (now : Time) (j : Job) : Job :=
  if j.state = .cancelRequested ∧ leaseExpired now j ∧ j.inScope organizationId workspaceId then
    { j with state := .cancelled, leaseOwner := none, leaseExpiresAt := none, completedAt := some now }
  else j

/-- The second one: expired leases with attempts left. -/
def recoverRetry (organizationId workspaceId : Option Uuid) (now : Time) (j : Job) : Job :=
  if j.state = .leased ∧ leaseExpired now j ∧ j.attemptCount < j.maxAttempts ∧ beforeDeadline now j ∧
      j.inScope organizationId workspaceId then
    { j with state := .retryWait, leaseOwner := none, leaseExpiresAt := none, nextAttemptAt := now }
  else j

/-- Expired leases with no attempts left. -/
def exhausted (organizationId workspaceId : Option Uuid) (now : Time) (j : Job) : Bool :=
  j.state == .leased && leaseExpired now j && decide (j.maxAttempts ≤ j.attemptCount) && beforeDeadline now j &&
    j.inScope organizationId workspaceId

def recoverDead (organizationId workspaceId : Option Uuid) (now : Time) (j : Job) : Job :=
  if exhausted organizationId workspaceId now j then
    { j with
      state := .deadLetter, leaseOwner := none, leaseExpiresAt := none, failureCode := some "lease_expired"
      completedAt := some now }
  else j

/-- The dead letter `recover_expired` writes. -/
def recoverLetter (now : Time) (j : Job) : DeadLetter :=
  { jobId := j.id, organizationId := j.organizationId, workspaceId := j.workspaceId, safeErrorCode := "lease_expired",
    attemptCount := j.attemptCount, payloadSha256 := j.requestSha256, finalErrorCode := "lease_expired",
    maxAttempts := j.maxAttempts, safeErrorDetails := [], failedAt := now, taskId := j.id,
    tenantId := j.organizationId, correlationId := (orElse j.correlationId (some "lease-recovery")).getD "",
    evidenceHash := Sha256.hexdigest (j.id ++ ":lease_expired:" ++ toString j.attemptCount) }

/-- `ON CONFLICT(job_id) DO NOTHING`. -/
def insertLetter (letters : List DeadLetter) (d : DeadLetter) : List DeadLetter :=
  if letters.any fun x => x.jobId == d.jobId then letters else letters ++ [d]

def recoverExpired (organizationId workspaceId : Option Uuid) (now : Time) (db : Db) : Db :=
  let cancelled := db.jobs.filter fun j =>
    j.state == .cancelRequested && leaseExpired now j && j.inScope organizationId workspaceId
  let jobs := (db.jobs.map (recoverCancelled organizationId workspaceId now)).map
    (recoverRetry organizationId workspaceId now)
  { db with
    jobs := jobs.map (recoverDead organizationId workspaceId now)
    attempts := cancelled.foldl (fun attempts j => updateAttempts j.id j.fencingToken
      (fun a => { a with state := .cancelled, finishedAt := some now }) attempts) db.attempts
    deadLetters := ((jobs.filter (exhausted organizationId workspaceId now)).map (recoverLetter now)).foldl insertLetter
      db.deadLetters }

/-- The update of `expire_deadlines` on one row. -/
def expireRow (organizationId workspaceId : Option Uuid) (now : Time) (j : Job) : Job :=
  if (j.state = .queued ∨ j.state = .retryWait ∨ j.state = .leased) ∧ (j.deadlineAt.any fun t => decide (t ≤ now)) ∧
      j.inScope organizationId workspaceId then
    { j with
      state := .expired, leaseOwner := none, leaseExpiresAt := none, failureCode := some "deadline_expired"
      completedAt := some now }
  else j

def expireDeadlines (organizationId workspaceId : Option Uuid) (now : Time) (db : Db) : Db :=
  { db with jobs := db.jobs.map (expireRow organizationId workspaceId now) }

/-- Whether an approval licenses a manual retry of a dead letter. -/
def licenses (d : DeadLetter) (approvalId : Uuid) (a : Approval) : Bool :=
  a.jobId == d.jobId && a.id == approvalId && a.state == .approved && a.decidedAt.any fun t => decide (d.failedAt < t)

/-- The row `retry_dead_letter` selects. -/
def retryLicensed (db : Db) (jobId approvalId organizationId workspaceId : Uuid) (d : DeadLetter) : Bool :=
  d.jobId == jobId && d.tenantId == organizationId && d.workspaceId == workspaceId &&
    d.manualRetryRequiresNewApproval && db.approvals.any (licenses d approvalId)

def retryDeadLetter (jobId approvalId organizationId workspaceId : Uuid) (now : Time) (db : Db) :
    Except Exc (JobState × Db) :=
  match db.deadLetters.find? (retryLicensed db jobId approvalId organizationId workspaceId) with
  | none => .error (permissionError "new_approval_required")
  | some _ =>
    match db.job jobId with
    | none => .error (lookupError "dead_letter_not_retryable")
    | some j =>
      if j.state ≠ .deadLetter ∨ 10 ≤ j.maxAttempts then .error (lookupError "dead_letter_not_retryable")
      else
        let db := db.updateJob jobId fun j =>
          { j with
            state := .retryWait, maxAttempts := j.maxAttempts + 1, nextAttemptAt := now, failureCode := none
            completedAt := none }
        .ok (.retryWait,
          { db with
            deadLetters := db.deadLetters.map fun d =>
              if d.jobId = jobId then
                { d with recoveryStatus := "approved_retry", manualRetryRequiresNewApproval := false }
              else d })

/-! ## New rows -/

/-- The INSERT of `create_message_job` and of `ai_orchestration.submit`; their own checks (quotas, the conversation, an
idempotent replay) only keep a row from being inserted, and the constraints of the table stay. -/
def insertJob (j : Job) (now : Time) (db : Db) : Except Exc Db :=
  if (db.job j.id).isSome then .error (integrityError "ai_generation_jobs_pkey")
  else if db.jobs.any fun x => x.organizationId == j.organizationId && x.workspaceId == j.workspaceId &&
      x.idempotencyKey == j.idempotencyKey then
    .error (integrityError "ai_generation_jobs_organization_id_workspace_id_idempotency_key_key")
  else if j.maxAttempts < 1 ∨ 10 < j.maxAttempts then .error (integrityError "ck_ai_job_attempts")
  else if 9 < j.priority then .error (integrityError "ck_ai_priority")
  else
    .ok { db with
      jobs := db.jobs ++ [{ j with
        state := .queued, attemptCount := 0, fencingToken := 0, leaseOwner := none, leaseExpiresAt := none
        nextAttemptAt := now, cancelRequestedAt := none, completedAt := none, failureCode := none, outputBytes := 0
        createdAt := now }] }

/-- An approval of a retry that an operator records as decided (the INSERT of `tests/test_ai_worker_queue_runtime.py`),
under the constraints of the table. -/
def insertApproval (a : Approval) (now : Time) (db : Db) : Except Exc Db :=
  if db.approvals.any fun x => x.id == a.id then .error (integrityError "ai_job_approvals_pkey")
  else if db.approvals.any fun x => x.jobId == a.jobId then .error (integrityError "ai_job_approvals_job_id_key")
  else .ok { db with approvals := db.approvals ++ [{ a with state := .approved, decidedAt := some now }] }

/-! ## Runs -/

inductive Op where
  | insertJob (j : Job)
  | claim (c : ClaimRequest) (locked : List Uuid)
  | heartbeat (l : Lease) (leaseSeconds : Time)
  | appendChunk (l : Lease) (sequence : Int) (content : String) (maxOutputBytes : Nat)
  | finish (l : Lease) (e : Ending)
  | completeJob (l : Lease) (r : Option Result) (correlationId : String)
  | processJob (l : Lease) (r : Result) (correlationId : String)
  | workerCancel (l : Lease)
  | recoverExpired (organizationId workspaceId : Option Uuid)
  | expireDeadlines (organizationId workspaceId : Option Uuid)
  | retryDeadLetter (jobId approvalId organizationId workspaceId : Uuid)
  | consoleCancel (jobId organizationId workspaceId : Uuid)
  | orchestrationCancel (jobId tenantId workspaceId : Uuid)
  | decide (jobId tenantId workspaceId : Uuid) (actorId : String) (approved : Bool) (reason : String)
  | insertApproval (a : Approval)

/-- One transaction, at its reading of the clock. -/
structure Step where
  op : Op
  now : Time

/-- What a transaction leaves when it commits. -/
def Step.effect (s : Step) (db : Db) : Except Exc Db :=
  match s.op with
  | .insertJob j => insertJob j s.now db
  | .claim c locked => return (← claim c locked s.now db).2
  | .heartbeat l leaseSeconds => return (← heartbeat l leaseSeconds s.now db).2
  | .appendChunk l sequence content maxOutputBytes => return (← appendChunk l sequence content maxOutputBytes s.now db).2
  | .finish l e => return (← finish l e .completed s.now db).2
  | .completeJob l r correlationId => return (← completeJob l r correlationId s.now db).2
  | .processJob l r correlationId => return (← processJob l r correlationId s.now db).2
  | .workerCancel l => return (← workerCancel l s.now db).2
  | .recoverExpired organizationId workspaceId => return recoverExpired organizationId workspaceId s.now db
  | .expireDeadlines organizationId workspaceId => return expireDeadlines organizationId workspaceId s.now db
  | .retryDeadLetter jobId approvalId organizationId workspaceId =>
    return (← retryDeadLetter jobId approvalId organizationId workspaceId s.now db).2
  | .consoleCancel jobId organizationId workspaceId => return (← Console.cancel jobId organizationId workspaceId s.now db).2
  | .orchestrationCancel jobId tenantId workspaceId =>
    return (← Orchestration.cancel jobId tenantId workspaceId s.now db).2
  | .decide jobId tenantId workspaceId actorId approved reason =>
    return (← Orchestration.decide jobId tenantId workspaceId actorId approved reason s.now db).2
  | .insertApproval a => insertApproval a s.now db

/-- The tables after a transaction, which is rolled back when it raises. -/
def Step.exec (s : Step) (db : Db) : Db :=
  match s.effect db with
  | .ok db => db
  | .error _ => db

/-- The tables after a list of transactions, from empty tables and the registered workers. -/
def run (registrations : Dict String Registration) (steps : List Step) : Db :=
  steps.foldl (fun db s => s.exec db) { registrations := registrations }

/-! ## The stream of the console -/

/-- `ORDER BY c.sequence`. -/
def chunkOrder (a b : Chunk) : Prop := a.sequence ≤ b.sequence

instance (a b : Chunk) : Decidable (chunkOrder a b) := inferInstanceAs (Decidable (_ ≤ _))

/-- The rows one poll of `stream` sends, after the sequence number it sent last. -/
def Console.stream (db : Db) (jobId organizationId workspaceId : Uuid) (last : Int) : List Chunk :=
  (db.chunks.filter fun c => c.jobId == jobId && c.organizationId == organizationId && c.workspaceId == workspaceId &&
    decide (last < c.sequence)).insertionSort chunkOrder

end Middleware.Ai
