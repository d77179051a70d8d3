/-
The rows of the AI job platform (migrations 0030 to 0032) and the runtime classes of `app/core/ai_jobs.py`: jobs
with their leases and fencing tokens, attempts, streamed chunks, results, approvals, dead letters and worker
registrations. A table is the list of its rows in the order they were inserted. Columns that are only written
(`updated_at`, `version`, payloads, audit and event rows) are left out.
-/
import Middleware.Ledger.Types

namespace Middleware.Ai

open Ledger

/-! ## Rows -/

/-- `ck_ai_job_state`. -/
inductive JobState where
  | queued
  | available
  | leased
  | running
  | retryWait
  | completed
  | failed
  | cancelRequested
  | cancelled
  | expired
  | deadLetter
  | approvalRequired
  | approved
  | rejected
deriving DecidableEq, Repr

/-- A row of `ai_generation_jobs`. -/
structure Job where
  id : Uuid
  organizationId : Uuid
  workspaceId : Uuid
  idempotencyKey : String
  requestSha256 : String
  state : JobState := .queued
  attemptCount : Nat := 0
  maxAttempts : Nat
  fencingToken : Nat := 0
  leaseOwner : Option String := none
  leaseExpiresAt : Option Time := none
  nextAttemptAt : Time
  cancelRequestedAt : Option Time := none
  completedAt : Option Time := none
  failureCode : Option String := none
  outputBytes : Nat := 0
  createdAt : Time
  priority : Nat := 5
  deadlineAt : Option Time := none
  modelProfile : Option String := none
  correlationId : Option String := none
  approvalRequired : Bool := false

/-- A row of `ai_job_attempts`. -/
structure Attempt where
  jobId : Uuid
  attemptNumber : Nat
  fencingToken : Nat
  workerId : String
  state : JobState
  safeErrorCode : Option String := none
  finishedAt : Option Time := none

/-- A row of `ai_job_chunks`. -/
structure Chunk where
  jobId : Uuid
  organizationId : Uuid
  workspaceId : Uuid
  sequence : Int
  fencingToken : Nat
  content : String
deriving DecidableEq, Repr

/-- A row of `ai_job_results`. -/
structure ResultRow where
  jobId : Uuid
  output : Json
  outputSha256 : String

inductive ApprovalState where
  | pending
  | approved
  | rejected
deriving DecidableEq, Repr

/-- A row of `ai_job_approvals`. -/
structure Approval where
  id : Uuid
  jobId : Uuid
  organizationId : Uuid
  workspaceId : Uuid
  state : ApprovalState := .pending
  decidedByFingerprint : Option String := none
  decisionReason : Option String := none
  decidedAt : Option Time := none

/-- A row of `ai_job_dead_letters`. -/
structure DeadLetter where
  jobId : Uuid
  organizationId : Uuid
  workspaceId : Uuid
  safeErrorCode : String
  attemptCount : Nat
  payloadSha256 : String
  finalErrorCode : String
  maxAttempts : Nat
  safeErrorDetails : Obj
  failedAt : Time
  taskId : Uuid
  tenantId : Uuid
  correlationId : String
  evidenceHash : String
  manualRetryRequiresNewApproval : Bool := true
  recoveryStatus : String := "pending"

/-- A row of `ai_worker_registrations`, under its worker id. -/
structure Registration where
  serviceId : String
  maxConcurrency : Nat
  enabled : Bool

structure Db where
  jobs : List Job := []
  attempts : List Attempt := []
  chunks : List Chunk := []
  results : List ResultRow := []
  approvals : List Approval := []
  deadLetters : List DeadLetter := []
  registrations : Dict String Registration := ∅

/-! ## Runtime classes -/

inductive RuntimeClass where
  | chatLight
  | codingFallback
  | singleAdmission
  | unavailable
deriving DecidableEq, Repr

/-- `MODEL_RUNTIME_CLASSES`. -/
def modelRuntimeClasses : List (String × RuntimeClass) :=
  [("fast-chat", .chatLight), ("crm-analysis", .chatLight), ("coding-default", .codingFallback),
    ("quality-chat", .singleAdmission), ("coding-large", .singleAdmission), ("voice-summary", .singleAdmission),
    ("embedding-default", .unavailable)]

/-- `RUNTIME_CLASS_COMPATIBILITY`. -/
def runtimeClassCompatibility : RuntimeClass → List RuntimeClass
  | .chatLight => [.chatLight]
  | .codingFallback => [.codingFallback]
  | .singleAdmission | .unavailable => []

/-- `compatible_profiles`: the profiles permitted beside active leases. -/
def compatibleProfiles (activeProfiles : List (Option String)) : List String :=
  match (activeProfiles.map fun profile => modelRuntimeClasses.lookup (profile.getD "")).dedup with
  | [] => modelRuntimeClasses.map (·.1)
  | [some activeClass] =>
    (modelRuntimeClasses.filter fun m => (runtimeClassCompatibility activeClass).contains m.2).map (·.1)
  | _ => []

/-- `effective_compatible_profiles`: the server's policy within what the worker asks for. -/
def effectiveCompatibleProfiles (activeProfiles : List (Option String)) (requestedProfiles : Option (List String)) :
    List String :=
  match requestedProfiles with
  | none => compatibleProfiles activeProfiles
  | some requested => (compatibleProfiles activeProfiles).filter requested.contains

/-- `WORKER_HARD_SAFETY_CAP`. -/
def workerHardSafetyCap : Nat := 2

/-! ## Reading and updating rows -/

/-- `SELECT * FROM ai_generation_jobs WHERE id=:job`. -/
def Db.job (db : Db) (id : Uuid) : Option Job := db.jobs.find? (·.id = id)

/-- `UPDATE ai_generation_jobs SET ... WHERE id=:job`. -/
def Db.updateJob (db : Db) (id : Uuid) (f : Job → Job) : Db :=
  { db with jobs := db.jobs.map fun j => if j.id = id then f j else j }

/-- `CAST(:org AS uuid) IS NULL OR organization_id=:org`, and the same for the workspace. -/
def Job.inScope (organizationId workspaceId : Option Uuid) (j : Job) : Bool :=
  organizationId.all (· == j.organizationId) && workspaceId.all (· == j.workspaceId)

/-- A lease of a worker that has not run out. -/
def Job.leasedTo (j : Job) (workerId : String) (now : Time) : Bool :=
  (j.state == .leased || j.state == .cancelRequested) && j.leaseOwner == some workerId &&
    j.leaseExpiresAt.any fun t => decide (now < t)

end Middleware.Ai
