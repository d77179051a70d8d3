/-
The TTS jobs (migration 0033) and the operations on them of `app/core/tts_jobs.py`, as coroutines over one table. An
operation is a statement in a transaction of its own; `exec` runs it at one reading of `now()`, and the database may
fail it, which rolls it back.

`recover_expired` runs two statements over many rows in one transaction. A statement looks at the rows of its snapshot
one after the other, each under its guard when its lock is got, so every row is a call of its own; the source keeps the
rows locked until its commit, which allows fewer runs than this.
-/
import Middleware.Lib.Pool
import Middleware.Lib.Updates
import Middleware.Ledger.Types

namespace Middleware.Tts

open Ledger Lib

/-! ## Rows -/

/-- `ck_tts_job_state`. -/
inductive JobState where
  | queued
  | claimed
  | providerStarting
  | streaming
  | completed
  | failed
  | cancelled
  | ambiguousProviderOutcome
deriving DecidableEq, Repr

/-- The arguments of `submit`. -/
structure Submission where
  organizationId : Uuid
  workspaceId : Uuid
  requestedBy : String
  projectKey : String
  voiceAlias : String
  modelAlias : String
  outputProfile : String
  idempotencyKey : String
  correlationId : String
  requestSha256 : String
  characterCount : Int

/-- A row of `tts_generation_jobs`; `max_attempts`, which no operation reads, and `updated_at` are left out. -/
structure Job extends Submission where
  id : Uuid
  state : JobState := .queued
  attemptCount : Nat := 0
  fencingToken : Nat := 0
  leaseOwner : Option String := none
  leaseExpiresAt : Option Time := none
  providerRequestStartedAt : Option Time := none
  firstChunkAt : Option Time := none
  completedAt : Option Time := none
  cancellationAt : Option Time := none
  chunkCount : Int := 0
  audioBytes : Int := 0
  failureClass : Option String := none
  createdAt : Time

abbrev Table := List Job

def Table.job (t : Table) (id : Uuid) : Option Job := rowAt Job.id id t

def integerMax : Nat := 2 ^ 31 - 1
def bigintMax : Nat := 2 ^ 63 - 1

/-- `ck_tts_counts` and the ranges of the integer columns. -/
def Job.valid (j : Job) : Bool :=
  decide (j.attemptCount ≤ integerMax ∧ j.fencingToken ≤ bigintMax ∧ 0 ≤ j.chunkCount ∧ j.chunkCount ≤ bigintMax ∧
    0 ≤ j.audioBytes ∧ j.audioBytes ≤ bigintMax)

/-! ## Submission -/

/-- `ck_tts_request_hash` and `ck_tts_counts`. -/
def Submission.valid (s : Submission) : Bool :=
  decide (s.requestSha256.length = 64) && s.requestSha256.toList.all (fun c => c.isDigit || ('a' ≤ c && c ≤ 'f')) &&
    decide (1 ≤ s.characterCount ∧ s.characterCount ≤ 1000)

def Submission.sameKey (s s' : Submission) : Bool :=
  s.organizationId == s'.organizationId && s.workspaceId == s'.workspaceId && s.projectKey == s'.projectKey &&
    s.requestedBy == s'.requestedBy && s.idempotencyKey == s'.idempotencyKey

/-- A statement that breaks a constraint of the table or the range of a column. -/
def rejected : Exc := .other "DBAPIError" "tts_generation_jobs"

/-- `INSERT ... ON CONFLICT DO UPDATE SET updated_at=updated_at RETURNING`: the row and whether it is new. -/
def insert (id : Uuid) (s : Submission) (now : Time) (t : Table) : Except Exc (Job × Bool) × Table :=
  if !s.valid then (.error rejected, t)
  else
    match t.find? fun j => j.toSubmission.sameKey s with
    | some j => (.ok (j, decide (j.id = id)), t)
    | none =>
      match t.job id with
      | some _ => (.error rejected, t)
      | none =>
        let j : Job := { s with id := id, createdAt := now }
        (.ok (j, true), t ++ [j])

/-! ## Updates -/

/-- Whose call it is: the job, the worker, and the fencing token of its claim. -/
structure Lease where
  jobId : Uuid
  workerId : String
  fencingToken : Nat

/-- `lease_owner=:worker AND fencing_token=:token`. -/
def Lease.owns (l : Lease) (j : Job) : Bool := j.leaseOwner == some l.workerId && j.fencingToken == l.fencingToken

def Job.unexpired (j : Job) (now : Time) : Bool := j.leaseExpiresAt.any fun t => decide (now < t)

def Job.expired (j : Job) (now : Time) : Bool := j.leaseExpiresAt.any fun t => decide (t ≤ now)

/-- `state IN ('provider_starting','streaming')`. -/
def Job.inProvider (j : Job) : Bool := [JobState.providerStarting, .streaming].contains j.state

/-- The `UPDATE` statements: those of the operations, and the two of `recover_expired` at one row. -/
inductive Statement where
  | claim (workerId : String) (leaseSeconds : Time)
  | claimExact (jobId : Uuid) (workerId : String) (leaseSeconds : Time)
  | markProviderStarted (l : Lease)
  | recordChunk (l : Lease) (size : Int)
  | complete (l : Lease)
  | markAmbiguous (l : Lease) (failureClass : String)
  | markCancelledStreaming (l : Lease)
  | cancel (jobId organizationId workspaceId : Uuid) (requestedBy : String)
  | requeue (jobId : Uuid) (now : Time)
  | giveUp (jobId : Uuid) (now : Time)

/-- `WHERE`, the id apart. -/
def Statement.guard (now : Time) : Statement → Job → Bool
  | .claim .., j | .claimExact .., j => j.state == .queued && j.cancellationAt.isNone
  | .markProviderStarted l, j => j.state == .claimed && l.owns j && j.unexpired now && j.cancellationAt.isNone
  | .recordChunk l _, j => j.inProvider && l.owns j && j.unexpired now && j.cancellationAt.isNone
  | .complete l, j => j.state == .streaming && l.owns j && j.firstChunkAt.isSome && j.cancellationAt.isNone
  | .markAmbiguous l _, j | .markCancelledStreaming l, j => j.inProvider && l.owns j
  | .cancel _ organizationId workspaceId requestedBy, j =>
    j.organizationId == organizationId && j.workspaceId == workspaceId && j.requestedBy == requestedBy &&
      !([JobState.completed, .failed, .cancelled, .ambiguousProviderOutcome].contains j.state)
  | .requeue _ now, j =>
    j.state == .claimed && j.expired now && j.providerRequestStartedAt.isNone && j.cancellationAt.isNone
  | .giveUp _ now, j => j.inProvider && j.expired now

def Job.unleased (j : Job) : Job := { j with leaseOwner := none, leaseExpiresAt := none }

/-- `SET`. -/
def Statement.set (now : Time) : Statement → Job → Job
  | .claim workerId leaseSeconds, j | .claimExact _ workerId leaseSeconds, j =>
    { j with
      state := .claimed, leaseOwner := some workerId, leaseExpiresAt := some (now + leaseSeconds)
      attemptCount := j.attemptCount + 1, fencingToken := j.fencingToken + 1 }
  | .markProviderStarted _, j => { j with state := .providerStarting, providerRequestStartedAt := some now }
  | .recordChunk _ size, j =>
    { j with
      state := .streaming, firstChunkAt := some (j.firstChunkAt.getD now), chunkCount := j.chunkCount + 1
      audioBytes := j.audioBytes + size, leaseExpiresAt := some (now + 60) }
  | .complete _, j => { j.unleased with state := .completed, completedAt := some now }
  | .markAmbiguous _ failureClass, j =>
    { j.unleased with state := .ambiguousProviderOutcome, failureClass := some (String.ofList (failureClass.toList.take 128)) }
  | .markCancelledStreaming _, j =>
    { j.unleased with state := .cancelled, cancellationAt := some (j.cancellationAt.getD now) }
  | .cancel .., j => { j.unleased with state := .cancelled, cancellationAt := some now }
  | .requeue .., j => { j.unleased with state := .queued }
  | .giveUp .., j =>
    { j.unleased with state := .ambiguousProviderOutcome, failureClass := some "TTS_AMBIGUOUS_PROVIDER_OUTCOME" }

/-- `ORDER BY created_at,id`. -/
def claimOrder (a b : Job) : Prop := a.createdAt < b.createdAt ∨ a.createdAt = b.createdAt ∧ a.id ≤ b.id

instance (a b : Job) : Decidable (claimOrder a b) := inferInstanceAs (Decidable (_ ∨ _ ∧ _))

/-- The row `FOR UPDATE SKIP LOCKED LIMIT 1` takes. -/
def candidate (s : Statement) (locked : List Uuid) (now : Time) (t : Table) : Option Job :=
  ((t.filter fun j => s.guard now j && !locked.contains j.id).insertionSort claimOrder).head?

def Statement.target (s : Statement) (locked : List Uuid) (now : Time) (t : Table) : Option Uuid :=
  match s with
  | .claim .. => (candidate s locked now t).map (·.id)
  | .claimExact jobId .. | .cancel jobId .. | .requeue jobId _ | .giveUp jobId _ => some jobId
  | .markProviderStarted l | .recordChunk l _ | .complete l | .markAmbiguous l _ | .markCancelledStreaming l =>
    some l.jobId

def Statement.run (s : Statement) (locked : List Uuid) (now : Time) (t : Table) : Except Exc (Option Job) × Table :=
  match s.target locked now t with
  | none => (.ok none, t)
  | some id => updateOne Job.id rejected Job.valid id (s.guard now) (s.set now) t

/-! ## Operations -/

inductive Call where
  | now
  -- the rows of a statement's snapshot
  | scan
  | submit (jobId : Uuid) (s : Submission)
  | update (s : Statement)

@[reducible] def Call.Answer : Call → Type
  | .now => Time
  | .scan => List Uuid
  | .submit .. => Job × Bool
  | .update _ => Option Job

abbrev Coro (α : Type) := Prog Call.Answer Exc α
abbrev Answered := Ev Call.Answer Exc
abbrev ask (c : Call) : Coro c.Answer := Prog.ask c

/-- What `submit` returns: the id, the state, the hash of the stored request, and whether it is new. -/
structure Submitted where
  id : Uuid
  state : JobState
  requestSha256 : String
  created : Bool

def submit (jobId : Uuid) (s : Submission) : Coro Submitted := do
  let (row, created) ← ask (.submit jobId s)
  if row.requestSha256 ≠ s.requestSha256 then throw (.valueError "tts_idempotency_conflict")
  else return ⟨row.id, row.state, row.requestSha256, created⟩

def claim (workerId : String) (leaseSeconds : Time) : Coro (Option Job) := ask (.update (.claim workerId leaseSeconds))

def claimExact (jobId : Uuid) (workerId : String) (leaseSeconds : Time) : Coro (Option Job) :=
  ask (.update (.claimExact jobId workerId leaseSeconds))

/-- A statement that has to find its row. -/
def required (s : Statement) (e : Exc) : Coro Job := do
  match ← ask (.update s) with
  | none => throw e
  | some row => return row

def staleLease : Exc := .other "PermissionError" "tts_stale_or_cancelled_lease"

def markProviderStarted (l : Lease) : Coro Unit := discard (required (.markProviderStarted l) staleLease)

def recordChunk (l : Lease) (size : Int) : Coro Unit := discard (required (.recordChunk l size) staleLease)

def complete (l : Lease) : Coro Bool := Option.isSome <$> ask (.update (.complete l))

def markAmbiguous (l : Lease) (failureClass : String) : Coro Bool :=
  Option.isSome <$> ask (.update (.markAmbiguous l failureClass))

def markCancelledStreaming (l : Lease) : Coro Bool := Option.isSome <$> ask (.update (.markCancelledStreaming l))

def cancel (jobId organizationId workspaceId : Uuid) (requestedBy : String) : Coro JobState :=
  Job.state <$> required (.cancel jobId organizationId workspaceId requestedBy)
    (.other "LookupError" "tts_job_not_found_or_terminal")

/-- One statement of `recover_expired` over the rows of its snapshot: how many it updated. -/
def sweep (s : Uuid → Statement) : Coro Nat := do
  let ids ← ask .scan
  let updated ← ids.filterM fun id => Option.isSome <$> ask (.update (s id))
  return updated.length

/-- What `recover_expired` returns. -/
structure Recovered where
  requeued : Nat
  ambiguous : Nat

def recoverExpired : Coro Recovered := do
  let now ← ask .now
  let requeued ← sweep (.requeue · now)
  let ambiguous ← sweep (.giveUp · now)
  return ⟨requeued, ambiguous⟩

/-! ## The pool -/

/-- The clock, the rows other transactions have locked, and whether the database fails the call. -/
structure Input where
  now : Time
  locked : List Uuid := []
  fault : Bool := false

/-- A statement that the database fails is rolled back. -/
def Input.transaction {α : Type} (i : Input) (tx : Table → Except Exc α × Table) (t : Table) : Except Exc α × Table :=
  if i.fault then (.error (.other "OperationalError" ""), t) else tx t

def exec (i : Input) : (c : Call) → Table → Except Exc c.Answer × Table
  | .now, t => (.ok i.now, t)
  | .scan, t => i.transaction (fun t => (.ok (t.map (·.id)), t)) t
  | .submit jobId s, t => i.transaction (insert jobId s i.now) t
  | .update s, t => i.transaction (s.run i.locked i.now) t

/-- What may run over the jobs. -/
inductive Task where
  | submit (jobId : Uuid) (s : Submission)
  | claim (workerId : String) (leaseSeconds : Time)
  | claimExact (jobId : Uuid) (workerId : String) (leaseSeconds : Time)
  | markProviderStarted (l : Lease)
  | recordChunk (l : Lease) (size : Int)
  | complete (l : Lease)
  | markAmbiguous (l : Lease) (failureClass : String)
  | markCancelledStreaming (l : Lease)
  | cancel (jobId organizationId workspaceId : Uuid) (requestedBy : String)
  | recoverExpired

def Task.coroutine : Task → Coro Unit
  | .submit jobId s => discard (Tts.submit jobId s)
  | .claim workerId leaseSeconds => discard (Tts.claim workerId leaseSeconds)
  | .claimExact jobId workerId leaseSeconds => discard (Tts.claimExact jobId workerId leaseSeconds)
  | .markProviderStarted l => Tts.markProviderStarted l
  | .recordChunk l size => Tts.recordChunk l size
  | .complete l => discard (Tts.complete l)
  | .markAmbiguous l failureClass => discard (Tts.markAmbiguous l failureClass)
  | .markCancelledStreaming l => discard (Tts.markCancelledStreaming l)
  | .cancel jobId organizationId workspaceId requestedBy => discard (Tts.cancel jobId organizationId workspaceId requestedBy)
  | .recoverExpired => discard Tts.recoverExpired

/-- The operations over one table; a process may be suspended before every statement. -/
def runtime : System Call.Answer Exc Unit Table Input Task where
  exec := exec
  sync _ := false
  prog := Task.coroutine

abbrev Run := Pool Call.Answer Exc Unit Table Task
abbrev Step := Action Input Task
abbrev LogEntry := Entry Call.Answer Exc Table

/-- The operations after a list of actions over an empty table. -/
def run (actions : List Step) : Run := runtime.run ⟨[], [], []⟩ actions

end Middleware.Tts
