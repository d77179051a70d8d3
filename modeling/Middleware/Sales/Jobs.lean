/-
The verification jobs of `SalesLeadService`: `create_job` with the loop of `run_job`, `cancel_job` and the calls of `resolve`, as
tasks of one event loop.

A task gives way at every `await`, whether that has to wait or not: for a lock, for Odoo, and before each candidate of a page. A
free lock goes to any of those that wait for it. The answers of Odoo are inputs, so is what cancels a task from outside. A job is
named by its identifier, which stands for the object.
-/
import Middleware.Sales.Service

namespace Middleware.Sales

open Lib

/-! ## The jobs -/

namespace VerificationJob

variable (job : VerificationJob)

/-- The job when its page cannot be read. -/
def dependencyUnavailable : VerificationJob :=
  { job with
    state := .completedWithWarnings
    warnings := 1
    results := job.results ++ [
      { classification := "DEPENDENCY_UNAVAILABLE", reasonCodes := ["ODOO_LOOKUP_UNAVAILABLE"] }] }

def withTotal (n : Nat) : VerificationJob := { job with total := n }

def classification : Decision → String
  | .exactDuplicate => "EXACT_DUPLICATE"
  | .possibleDuplicate => "POSSIBLE_DUPLICATE"
  | .suppressed => "DNC_BLOCKED"
  | .accepted => "VERIFIED_VALID"
  | .manualReview => "NEEDS_REVIEW"

/-- The job with the result of one more candidate. -/
def append (r : LeadResolution) : VerificationJob :=
  { job with
    results := job.results ++ [
      { candidateId := some r.candidateId, classification := classification r.decision, reasonCodes := r.rejectionReasons }]
    processed := job.processed + 1 }

def completed : VerificationJob := { job with state := .completed }

def candidateResults : List JobResult := job.results.filter (·.candidateId.isSome)

end VerificationJob

def Service.update (jobId : String) (f : VerificationJob → VerificationJob) (s : Service) : Service :=
  match s.jobs.get jobId with
  | some job => { s with jobs := s.jobs.set jobId (f job) }
  | none => s

/-- `cancel_job`. -/
def cancelJob (jobId tenantId : String) (s : Service) : Except Exc VerificationJob × Service :=
  match s.jobs.get jobId with
  | none => (.error (.salesError "verification job was not found"), s)
  | some job =>
    if job.request.tenantId ≠ tenantId then (.error (.salesError "verification job was not found"), s)
    else if job.state = .queued ∨ job.state = .running then
      let job := { job with state := .canceled }
      (.ok job, { s with jobs := s.jobs.set jobId job })
    else (.ok job, s)

/-- The arguments of `create_job`. -/
structure CreateJob where
  request : VerificationJobRequest
  idempotencyKey : String
  correlationId : String

namespace CreateJob

variable (lib : Library) (a : CreateJob)

def scope : Scope := scopeOf a.request.tenantId a.idempotencyKey

def payloadHash : String := canonicalHash (a.request.modelDump lib.jsonTime)

/-- What `create_job` does once it has the lock: it answers, or it has stored a job that runs and waits for its page. -/
def enter (s : Service) : (Except Exc (String × Bool) ⊕ String) × Service :=
  match s.jobEntries.get a.scope with
  | some prior =>
    if prior.payloadHash ≠ a.payloadHash lib then
      (.inl (.error (.salesConflict "idempotency key was already used for another job payload")), s)
    else
      match s.jobs.get prior.result with
      | none => (.inl (.error (.other "KeyError" prior.result)), s)
      | some _ => (.inl (.ok (prior.result, true)), s)
  | none =>
    let jobId := "LVJ-" ++ lib.uuid4 s.drawn
    let job : VerificationJob := { jobId, request := a.request, correlationId := a.correlationId, state := .running }
    (.inr jobId,
      { s with
        drawn := s.drawn + 1
        jobs := s.jobs.set jobId job
        jobEntries := s.jobEntries.set a.scope
          { payloadHash := a.payloadHash lib, result := jobId, correlationId := a.correlationId } })

/-- The call of `resolve` for a candidate of the job's page. -/
def call (jobId : String) (candidate : LeadCandidate) : Resolve where
  candidate
  idempotencyKey := "verification:" ++ jobId ++ ":" ++ candidate.source.requestId
  correlationId := a.correlationId

end CreateJob

/-! ## The tasks -/

/-- Where a call of `resolve` waits: for its lock, or for Odoo with the identifier that it has drawn. -/
inductive Phase where
  | entering
  | looking (candidateId : String)

/-- A call, by what it waits for, and once it is over by its answer. The answer of `create_job` has the job's identifier and whether it
is a repeat; `stored` is the job that the call itself has stored. -/
inductive Task where
  | resolve (a : Resolve) (phase : Phase)
  | resolved (a : Resolve) (answer : Except Exc (LeadResolution × Bool))
  | create (a : CreateJob)
  | reading (a : CreateJob) (jobId : String)
  | running (a : CreateJob) (jobId : String) (candidate : LeadCandidate) (phase : Phase) (rest : List LeadCandidate)
  | created (a : CreateJob) (stored : Option String) (answer : Except Exc (String × Bool))

inductive Operation where
  | resolve
  | createJob
  deriving DecidableEq

def Task.locks : Task → List (Operation × Scope)
  | resolve a (.looking _) => [(.resolve, a.scope)]
  | reading a _ => [(.createJob, a.scope)]
  | running a _ _ .entering _ => [(.createJob, a.scope)]
  | running a jobId candidate (.looking _) _ => [(.createJob, a.scope), (.resolve, (a.call jobId candidate).scope)]
  | _ => []

structure World where
  service : Service := {}
  tasks : List Task := []

inductive Action where
  | resolve (a : Resolve)
  | createJob (a : CreateJob)
  | cancelJob (jobId tenantId : String)
  /-- A task takes the lock it waits for, if that is free. -/
  | resume (pid : Nat)
  /-- What comes of `verification_page`. -/
  | page (pid : Nat) (reply : Except Exc (List LeadCandidate))
  /-- What comes of `lookup`. -/
  | lookup (pid : Nat) (reply : Except Exc OdooLookup)
  /-- A task that waits for a lock is cancelled. -/
  | interrupt (pid : Nat) (e : Exc)

/-- Whether an exception of Odoo says that it is unavailable. -/
def Exc.isUnavailable : Exc → Bool
  | odooReadUnavailable _ => true
  | timeoutError => true
  | _ => false

def outsideBounds : Exc := .salesError "idempotency key is outside bounded limits"

namespace World

variable (lib : Library) (policy : MatchPolicy) (w : World)

def locked (lock : Operation × Scope) : Bool := w.tasks.any fun task => decide (lock ∈ task.locks)

/-- The task goes on as `task`, with the service as `s`. -/
def put (pid : Nat) (task : Task) (s : Service) : World := ⟨s, w.tasks.set pid task⟩

/-- `run_job` before the candidates that are left. -/
def advance (pid : Nat) (a : CreateJob) (jobId : String) (s : Service) : List LeadCandidate → World
  | [] => w.put pid (.created a (some jobId) (.ok (jobId, false))) (s.update jobId (·.completed))
  | candidate :: rest =>
    if (a.call jobId candidate).bounded then w.put pid (.running a jobId candidate .entering rest) s
    else w.put pid (.created a (some jobId) (.error outsideBounds)) s

/-- `run_job` after the call of `resolve` for a candidate. -/
def proceed (pid : Nat) (a : CreateJob) (jobId : String) (rest : List LeadCandidate) (s : Service) :
    Except Exc (LeadResolution × Bool) → World
  | .ok (r, _) => w.advance pid a jobId (s.update jobId (·.append r)) rest
  | .error e => w.put pid (.created a (some jobId) (.error e)) s

def resume (pid : Nat) : World :=
  match w.tasks[pid]? with
  | some (.resolve a .entering) =>
    if w.locked (.resolve, a.scope) then w
    else
      match a.enter lib w.service with
      | (.inl answer, s) => w.put pid (.resolved a answer) s
      | (.inr candidateId, s) => w.put pid (.resolve a (.looking candidateId)) s
  | some (.create a) =>
    if w.locked (.createJob, a.scope) then w
    else
      match a.enter lib w.service with
      | (.inl answer, s) => w.put pid (.created a none answer) s
      | (.inr jobId, s) => w.put pid (.reading a jobId) s
  | some (.running a jobId candidate .entering rest) =>
    if w.locked (.resolve, (a.call jobId candidate).scope) then w
    else
      match (a.call jobId candidate).enter lib w.service with
      | (.inl answer, s) => w.proceed pid a jobId rest s answer
      | (.inr candidateId, s) => w.put pid (.running a jobId candidate (.looking candidateId) rest) s
  | _ => w

def page (pid : Nat) (reply : Except Exc (List LeadCandidate)) : World :=
  match w.tasks[pid]? with
  | some (.reading a jobId) =>
    match reply with
    | .ok candidates => w.advance pid a jobId (w.service.update jobId (·.withTotal candidates.length)) candidates
    | .error e =>
      if e.isUnavailable then
        w.put pid (.created a (some jobId) (.ok (jobId, false))) (w.service.update jobId (·.dependencyUnavailable))
      else w.put pid (.created a (some jobId) (.error e)) w.service
  | _ => w

def lookup (pid : Nat) (reply : Except Exc OdooLookup) : World :=
  match w.tasks[pid]? with
  | some (.resolve a (.looking candidateId)) =>
    let (answer, s) := a.finish lib policy candidateId reply w.service
    w.put pid (.resolved a answer) s
  | some (.running a jobId candidate (.looking candidateId) rest) =>
    let (answer, s) := (a.call jobId candidate).finish lib policy candidateId reply w.service
    w.proceed pid a jobId rest s answer
  | _ => w

def interrupt (pid : Nat) (e : Exc) : World :=
  match w.tasks[pid]? with
  | some (.resolve a .entering) => w.put pid (.resolved a (.error e)) w.service
  | some (.create a) => w.put pid (.created a none (.error e)) w.service
  | some (.running a jobId _ .entering _) => w.put pid (.created a (some jobId) (.error e)) w.service
  | _ => w

end World

def step (lib : Library) (policy : MatchPolicy) : Action → World → World
  | .resolve a, w =>
    { w with tasks := w.tasks ++ [if a.bounded then .resolve a .entering else .resolved a (.error outsideBounds)] }
  | .createJob a, w => { w with tasks := w.tasks ++ [.create a] }
  | .cancelJob jobId tenantId, w => { w with service := (cancelJob jobId tenantId w.service).2 }
  | .resume pid, w => w.resume lib pid
  | .page pid reply, w => w.page pid reply
  | .lookup pid reply, w => w.lookup lib policy pid reply
  | .interrupt pid e, w => w.interrupt pid e

end Middleware.Sales
