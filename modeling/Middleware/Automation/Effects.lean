/-
What one operation of the automation store does: it refuses and changes nothing, it answers without a change to the jobs, or
it moves one job.
-/
import Middleware.Automation.Store

namespace Middleware.Automation

open Lib

/-- A move of a job that leaves the dead letters. -/
inductive Moves (lib : Library) : Call → Key → Job → Job → Prop
  | claimed (body : JobClaimRequest) (clientId : String) (now : Time) (job : Job)
      (signed : job.deliveryTokenSha256 = tokenDigest body.deliveryToken) (unused : job.deliveryTokenUsedAt = none)
      (waiting : job.state = .pending ∨ job.state = .retryScheduled) :
      Moves lib (.claim body clientId now) (body.tenantId, body.jobId) job
        (job.claimed (tokenDigest (leaseToken lib body.deliveryToken body.jobId body.executionId clientId)) clientId
          body.executionId now)
  | beaten (jobId : Uuid) (body : HeartbeatRequest) (clientId : String) (checked now : Time) (job : Job)
      (held : job.held body clientId checked = true) :
      Moves lib (.heartbeat jobId body clientId checked now) (body.tenantId, jobId) job
        { job.run now with leaseExpiresAt := some (now + lease) }
  | stepped (jobId : Uuid) (body : StepRecord) (clientId : String) (checked now : Time) (job : Job)
      (held : job.held body.toHeartbeatRequest clientId checked = true) :
      Moves lib (.recordStep jobId body clientId checked now) (body.tenantId, jobId) job (job.run now)
  | completed (jobId : Uuid) (body : TerminalResult) (clientId : String) (checked now : Time) (job : Job)
      (held : job.held body.toHeartbeatRequest clientId checked = true) :
      Moves lib (.complete jobId body clientId checked now) (body.tenantId, jobId) job
        (job.terminal .completed (some body.resultCode) none body.idempotencyKey body.digest now)
  | retried (jobId : Uuid) (body : FailureResult) (clientId deliveryToken : String) (checked now : Time) (job : Job)
      (held : job.held body.toHeartbeatRequest clientId checked = true) (state : job.failureState body = .retryScheduled) :
      Moves lib (.fail jobId body clientId deliveryToken checked now) (body.tenantId, jobId) job
        ((job.terminal .retryScheduled none (some body.errorCode) body.idempotencyKey body.digest now).reopened deliveryToken)
  | failed (jobId : Uuid) (body : FailureResult) (clientId deliveryToken : String) (checked now : Time) (job : Job)
      (held : job.held body.toHeartbeatRequest clientId checked = true) (state : job.failureState body = .failedTerminal) :
      Moves lib (.fail jobId body clientId deliveryToken checked now) (body.tenantId, jobId) job
        (job.terminal .failedTerminal none (some body.errorCode) body.idempotencyKey body.digest now)
  | awaited (body : ApprovalRequest) (clientId requestedBy : String) (now : Time) (job : Job) :
      Moves lib (.requestApproval body clientId requestedBy now) (body.tenantId, body.jobId) job (job.await now)

structure Replayable (s : Store) (deadLetterId : Uuid) (body : DeadLetterReplayRequest) (clientId : String) (checked : Time)
    (dead : DeadLetterRecord) (job : Job) : Prop where
  operator : clientId = "n8n-operations-automation"
  found : s.deadLetters.get (body.tenantId, deadLetterId) = some dead
  approved : ∃ requestDigest approval, s.approvals.get (body.tenantId, body.approvalId) = some (requestDigest, approval) ∧
    approval.admits dead checked = true
  version : dead.resourceVersion = body.expectedVersion
  fingerprint : dead.originalEffectFingerprint = body.originalEffectFingerprint
  opened : dead.state = .opened
  job : s.jobs.get (body.tenantId, dead.jobId) = some job

def Dispatched (s s' : Store) : Prop := ∀ key, (s.dispatches.get key).isSome = true → (s'.dispatches.get key).isSome = true

def Call.isClaim : Call → Bool
  | .claim .. => true
  | _ => false

inductive Performs (lib : Library) (s : Store) : Call → Result Reply → Prop
  | refused (c : Call) (e : Error) : Performs lib s c (.error e, s)
  | broken (body : JobClaimRequest) (clientId : String) (now : Time) (s' : Store) (job : Job)
      (found : s.jobs.get (body.tenantId, body.jobId) = some job)
      (missing : s.dispatches.get (body.tenantId, body.jobId) = none) :
      Performs lib s (.claim body clientId now) (.error .keyError, s')
  | answered (c : Call) (reply : Reply) (s' : Store) (other : c.isClaim = false) (jobs : s'.jobs = s.jobs)
      (deadLetters : s'.deadLetters = s.deadLetters) (dispatches : s'.dispatches = s.dispatches) :
      Performs lib s c (.ok reply, s')
  | repeated (body : JobClaimRequest) (clientId : String) (now : Time) (response : JobClaimResponse) (job : Job)
      (found : s.jobs.get (body.tenantId, body.jobId) = some job)
      (signed : job.deliveryTokenSha256 = tokenDigest body.deliveryToken) (used : job.deliveryTokenUsedAt.isSome = true)
      (execution : job.executionId = some body.executionId) (client : job.leaseClientId = some clientId) :
      Performs lib s (.claim body clientId now) (.ok (.claimed response), s)
  | enqueued (envelope : EventEnvelope) (route : WorkflowRoute) (sourceClientId deliveryToken : String) (now : Time)
      (key : Key) (job : Job) (s' : Store) (new : s.jobs.get key = none) (signed : job.deliveryTokenSha256 = tokenDigest deliveryToken)
      (unused : job.deliveryTokenUsedAt = none) (pending : job.state = .pending) (count : job.attemptCount = 0)
      (bound : 1 ≤ job.maxAttempts) (jobs : s'.jobs = s.jobs.set key job) (deadLetters : s'.deadLetters = s.deadLetters)
      (dispatches : Dispatched s s') (dispatched : (s'.dispatches.get key).isSome = true) :
      Performs lib s (.enqueueEvent envelope route sourceClientId deliveryToken now) (.ok .unit, s')
  | moved (c : Call) (reply : Reply) (key : Key) (job job' : Job) (s' : Store) (found : s.jobs.get key = some job)
      (moves : Moves lib c key job job') (jobs : s'.jobs = s.jobs.set key job') (deadLetters : s'.deadLetters = s.deadLetters)
      (dispatches : Dispatched s s') : Performs lib s c (.ok reply, s')
  | buried (jobId : Uuid) (body : FailureResult) (clientId deliveryToken : String) (checked now : Time) (reply : Reply)
      (job job' : Job) (s' : Store) (found : s.jobs.get (body.tenantId, jobId) = some job)
      (held : job.held body.toHeartbeatRequest clientId checked = true) (state : job.failureState body = .deadLetter)
      (buried : job' = job.terminal .deadLetter none (some body.errorCode) body.idempotencyKey body.digest now)
      (jobs : s'.jobs = s.jobs.set (body.tenantId, jobId) job')
      (deadLetters : s'.deadLetters = s.deadLetters.set (body.tenantId, deadLetterIdOf lib body.tenantId jobId)
        (job'.deadLetter lib body.tenantId jobId body now))
      (dispatches : Dispatched s s') :
      Performs lib s (.fail jobId body clientId deliveryToken checked now) (.ok reply, s')
  | replayed (deadLetterId : Uuid) (body : DeadLetterReplayRequest) (clientId deliveryToken : String) (checked now : Time)
      (reply : Reply) (dead : DeadLetterRecord) (job : Job) (s' : Store)
      (replayable : Replayable s deadLetterId body clientId checked dead job)
      (jobs : s'.jobs = s.jobs.set (body.tenantId, dead.jobId) (job.replayed deliveryToken now))
      (deadLetters : s'.deadLetters = s.deadLetters.set (body.tenantId, deadLetterId) (dead.requested now))
      (dispatches : Dispatched s s') :
      Performs lib s (.replayDeadLetter deadLetterId body clientId deliveryToken checked now) (.ok reply, s')

section Calls

variable {lib : Library} {s : Store}

theorem raw_ok {tenantId : String} {jobId : Uuid} {job : Job} (h : s.raw tenantId jobId = .ok job) :
    s.jobs.get (tenantId, jobId) = some job := by
  unfold Store.raw at h
  split at h
  · rename_i job' hget
    cases h
    exact hget
  · cases h

theorem activeLease_ok {job : Job} {body : HeartbeatRequest} {clientId : String} {now : Time}
    (h : activeLease job body clientId now = .ok ()) : job.held body clientId now = true := by
  unfold activeLease at h
  split at h
  · assumption
  · cases h

theorem dispatched_refl (s : Store) : Dispatched s s := fun _ h => h

theorem dispatched_set {s' : Store} {key : Key} {dispatch : Dispatch} (h : s'.dispatches = s.dispatches.set key dispatch) :
    Dispatched s s' := by
  intro k hk
  rw [h, OrderedDict.get_set]
  split
  · rfl
  · exact hk

theorem claim_performs (body : JobClaimRequest) (clientId : String) (now : Time) :
    Performs lib s (.claim body clientId now) (perform lib (.claim body clientId now) s) := by
  unfold perform Result.as claim
  dsimp only
  split
  · exact .refused _ _
  rename_i job hraw
  have hfound := raw_ok hraw
  split
  · exact .refused _ _
  split
  · exact .refused _ _
  split
  · exact .refused _ _
  rename_i hsigned
  rw [not_ne_iff] at hsigned
  split
  · rename_i hused
    split
    · rename_i hsame
      exact .repeated body clientId now _ job hfound hsigned hused hsame.1 hsame.2.1
    · exact .refused _ _
  rename_i hused
  rw [Bool.not_eq_true, Option.isSome_eq_false_iff, Option.isNone_iff_eq_none] at hused
  split
  · exact .refused _ _
  rename_i hstate
  have hwaiting : job.state = .pending ∨ job.state = .retryScheduled := by
    by_contra hnot
    rw [not_or] at hnot
    exact hstate hnot
  split
  · rename_i hmissing
    exact .broken body clientId now _ job hfound hmissing
  · refine .moved _ _ _ job _ _ hfound (.claimed body clientId now job hsigned hused hwaiting) rfl rfl ?_
    exact dispatched_set rfl

theorem recordStep_performs (jobId : Uuid) (body : StepRecord) (clientId : String) (checked now : Time) :
    Performs lib s (.recordStep jobId body clientId checked now) (perform lib (.recordStep jobId body clientId checked now) s) := by
  unfold perform Result.as recordStep
  dsimp only
  split
  · exact .refused _ _
  rename_i job hraw
  have hfound := raw_ok hraw
  split
  · exact .refused _ _
  rename_i hlease
  split
  · split
    · exact .refused _ _
    · exact .answered _ _ _ rfl rfl rfl rfl
  · exact .moved _ _ _ job _ _ hfound (.stepped jobId body clientId checked now job (activeLease_ok hlease)) rfl rfl
      (dispatched_refl s)

theorem complete_performs (jobId : Uuid) (body : TerminalResult) (clientId : String) (checked now : Time) :
    Performs lib s (.complete jobId body clientId checked now) (perform lib (.complete jobId body clientId checked now) s) := by
  unfold perform Result.as complete
  dsimp only
  split
  · exact .refused _ _
  rename_i job hraw
  have hfound := raw_ok hraw
  split
  · exact .refused _ _
  · exact .answered _ _ _ rfl rfl rfl rfl
  · split
    · exact .refused _ _
    · rename_i hlease
      exact .moved _ _ _ job _ _ hfound (.completed jobId body clientId checked now job (activeLease_ok hlease)) rfl rfl
        (dispatched_refl s)

theorem failureState_cases (job : Job) (body : FailureResult) : job.failureState body = .retryScheduled ∨
    job.failureState body = .deadLetter ∨ job.failureState body = .failedTerminal := by
  unfold Job.failureState
  repeat' split
  all_goals simp

theorem fail_performs (jobId : Uuid) (body : FailureResult) (clientId deliveryToken : String) (checked now : Time) :
    Performs lib s (.fail jobId body clientId deliveryToken checked now)
      (perform lib (.fail jobId body clientId deliveryToken checked now) s) := by
  unfold perform Result.as fail
  dsimp only
  split
  · exact .refused _ _
  rename_i job hraw
  have hfound := raw_ok hraw
  split
  · exact .refused _ _
  · exact .answered _ _ _ rfl rfl rfl rfl
  split
  · exact .refused _ _
  rename_i hlease
  have hheld := activeLease_ok hlease
  rcases failureState_cases job body with hstate | hstate | hstate
  · rw [hstate, if_pos rfl]
    exact .moved _ _ _ job _ _ hfound (.retried jobId body clientId deliveryToken checked now job hheld hstate) rfl rfl
      (dispatched_set rfl)
  · rw [hstate, if_neg (by decide), if_pos rfl]
    exact .buried jobId body clientId deliveryToken checked now _ job _ _ hfound hheld hstate rfl rfl rfl (dispatched_refl s)
  · rw [hstate, if_neg (by decide), if_neg (by decide)]
    exact .moved _ _ _ job _ _ hfound (.failed jobId body clientId deliveryToken checked now job hheld hstate) rfl rfl
      (dispatched_refl s)

theorem replayDeadLetter_performs (deadLetterId : Uuid) (body : DeadLetterReplayRequest) (clientId deliveryToken : String)
    (checked now : Time) : Performs lib s (.replayDeadLetter deadLetterId body clientId deliveryToken checked now)
      (perform lib (.replayDeadLetter deadLetterId body clientId deliveryToken checked now) s) := by
  unfold perform Result.as replayDeadLetter
  dsimp only
  split
  · exact .refused _ _
  rename_i hoperator
  split
  · exact .refused _ _
  rename_i dead hdead
  split
  · exact .refused _ _
  rename_i requestDigest approval happroval
  split
  · exact .refused _ _
  rename_i hadmits
  split
  · exact .refused _ _
  rename_i hversion
  split
  · exact .refused _ _
  rename_i hfingerprint
  split
  · exact .refused _ _
  rename_i hopened
  split
  · exact .refused _ _
  rename_i job hraw
  rw [not_ne_iff] at hoperator hversion hfingerprint hopened
  rw [Bool.not_eq_true, Bool.not_eq_false'] at hadmits
  exact .replayed deadLetterId body clientId deliveryToken checked now _ dead job _
    ⟨hoperator, hdead, ⟨requestDigest, approval, happroval, hadmits⟩, hversion, hfingerprint, hopened, raw_ok hraw⟩ rfl rfl
    (dispatched_set rfl)

theorem requestApproval_performs (body : ApprovalRequest) (clientId requestedBy : String) (now : Time) :
    Performs lib s (.requestApproval body clientId requestedBy now)
      (perform lib (.requestApproval body clientId requestedBy now) s) := by
  unfold perform Result.as requestApproval
  dsimp only
  split
  · exact .refused _ _
  rename_i job hraw
  split
  · exact .refused _ _
  split
  · split
    · exact .refused _ _
    · split
      · exact .refused _ _
      · exact .answered _ _ _ rfl rfl rfl rfl
  · exact .moved _ _ _ job _ _ (raw_ok hraw) (.awaited body clientId requestedBy now job) rfl rfl (dispatched_refl s)

theorem perform_performs (lib : Library) (c : Call) (s : Store) : Performs lib s c (perform lib c s) := by
  cases c with
  | claim body clientId now => exact claim_performs body clientId now
  | recordStep jobId body clientId checked now => exact recordStep_performs jobId body clientId checked now
  | complete jobId body clientId checked now => exact complete_performs jobId body clientId checked now
  | fail jobId body clientId deliveryToken checked now => exact fail_performs jobId body clientId deliveryToken checked now
  | requestApproval body clientId requestedBy now => exact requestApproval_performs body clientId requestedBy now
  | replayDeadLetter deadLetterId body clientId deliveryToken checked now =>
    exact replayDeadLetter_performs deadLetterId body clientId deliveryToken checked now
  | getJob tenantId jobId =>
    show Performs lib s _ ((s.raw tenantId jobId).map _, s)
    cases s.raw tenantId jobId with
    | error e => exact .refused _ e
    | ok job => exact .answered _ _ _ rfl rfl rfl rfl
  | enqueueEvent envelope route sourceClientId deliveryToken now =>
    unfold perform Result.as enqueueEvent
    dsimp only
    split
    · exact .answered _ _ _ rfl rfl rfl rfl
    · rename_i hnew
      refine .enqueued envelope route sourceClientId deliveryToken now _ _ _ hnew rfl rfl rfl rfl route.attempts rfl rfl
        (dispatched_set rfl) ?_
      rw [OrderedDict.get_set_self]
      rfl
  | heartbeat jobId body clientId checked now =>
    unfold perform Result.as heartbeat
    dsimp only
    split
    · exact .refused _ _
    rename_i job hraw
    split
    · exact .refused _ _
    · rename_i hlease
      exact .moved _ _ _ job _ _ (raw_ok hraw) (.beaten jobId body clientId checked now job (activeLease_ok hlease)) rfl rfl
        (dispatched_refl s)
  | getApproval tenantId approvalId checked now =>
    unfold perform Result.as getApproval
    dsimp only
    split
    · exact .refused _ _
    · split
      · exact .answered _ _ _ rfl rfl rfl rfl
      · exact .answered _ _ _ rfl rfl rfl rfl
  | approveForTest tenantId approvalId decidedBy now =>
    unfold perform Result.as approveForTest
    dsimp only
    split
    · exact .refused _ _
    · split
      · exact .refused _ _
      · exact .answered _ _ _ rfl rfl rfl rfl
  | reconcile body requestedBy now =>
    unfold perform Result.as reconcile
    dsimp only
    split
    · split
      · exact .refused _ _
      · exact .answered _ _ _ rfl rfl rfl rfl
    · exact .answered _ _ _ rfl rfl rfl rfl

end Calls

end Middleware.Automation
