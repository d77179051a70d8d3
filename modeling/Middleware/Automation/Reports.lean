/-
The terminal reports of an executor, and what a second delivery of the same report finds.
-/
import Middleware.Automation.Safety

namespace Middleware.Automation

open Lib

/-- A terminal report: `complete` or `fail`. -/
inductive Report where
  | complete (body : TerminalResult)
  | fail (body : FailureResult)

namespace Report

def tenantId : Report → String
  | complete body => body.tenantId
  | fail body => body.tenantId

def idempotencyKey : Report → String
  | complete body => body.idempotencyKey
  | fail body => body.idempotencyKey

/-- The content of a report, as the store compares it. -/
def digest : Report → String
  | complete body => body.digest
  | fail body => body.digest

/-- The operation that takes the report. -/
def deliver (lib : Library) (jobId : Uuid) (r : Report) (clientId deliveryToken : String) (checked now : Time) (s : Store) :
    Result Terminal :=
  match r with
  | complete body => Automation.complete jobId body clientId checked now s
  | fail body => Automation.fail lib jobId body clientId deliveryToken checked now s

/-- The report schedules another attempt of a job. -/
def Reschedules (job : Job) : Report → Prop
  | complete _ => False
  | fail body => body.unknownOutcome = false ∧ body.retryable = true ∧ job.attemptCount < job.maxAttempts

end Report

/-- What a store that took a report should answer from now on. -/
structure Idempotent (lib : Library) (jobId : Uuid) (r : Report) (clientId : String) (s : Store) (recorded : Job) : Prop where
  repeated : ∀ deliveryToken checked now, r.deliver lib jobId clientId deliveryToken checked now s = (.ok (recorded, true), s)
  refused : ∀ (other : Report) clientId' deliveryToken checked now, other.tenantId = r.tenantId →
    other.idempotencyKey = r.idempotencyKey → other.digest ≠ r.digest →
    ∃ e, other.deliver lib jobId clientId' deliveryToken checked now s = (.error e, s)

section Reports

variable {lib : Library} {s s' : Store} {jobId : Uuid} {r : Report} {clientId deliveryToken : String} {checked now : Time}
  {job job' : Job} {duplicate : Bool}

theorem failureState_retry (body : FailureResult) :
    job.failureState body = .retryScheduled ↔ (Report.fail body).Reschedules job := by
  unfold Job.failureState Report.Reschedules
  constructor
  · intro h
    split at h
    · cases h
    rename_i hunknown
    split at h
    · rename_i hretry
      exact ⟨Bool.not_eq_true _ ▸ hunknown, hretry⟩
    split at h <;> cases h
  · rintro ⟨hunknown, hretry⟩
    rw [hunknown, if_neg Bool.false_ne_true, if_pos hretry]

/-- What an answered report found: it is on record, or the lease is presented and the job moves. -/
inductive Taken (jobId : Uuid) (r : Report) (s : Store) (job : Job) : Job → Bool → Store → Prop
  | recorded (replay : terminalReplay job r.idempotencyKey r.digest = .ok (some job)) : Taken jobId r s job job true s
  | rescheduled (job' : Job) (s' : Store) (first : job.terminalIdempotencyKey = none) (reschedules : r.Reschedules job)
      (opened : job'.terminalIdempotencyKey = none) (unleased : job'.leaseTokenSha256 = none)
      (get : s'.jobs.get (r.tenantId, jobId) = some job') : Taken jobId r s job job' false s'
  | settled (job' : Job) (s' : Store) (first : job.terminalIdempotencyKey = none) (settles : ¬ r.Reschedules job)
      (key : job'.terminalIdempotencyKey = some r.idempotencyKey) (content : job'.terminalRequestSha256 = some r.digest)
      (get : s'.jobs.get (r.tenantId, jobId) = some job') : Taken jobId r s job job' false s'

theorem terminalReplay_none {idempotencyKey requestDigest : String}
    (h : terminalReplay job idempotencyKey requestDigest = .ok none) : job.terminalIdempotencyKey = none := by
  unfold terminalReplay at h
  split at h
  · assumption
  · split at h <;> cases h

theorem terminalReplay_some {idempotencyKey requestDigest : String}
    (h : terminalReplay job idempotencyKey requestDigest = .ok (some job')) : job' = job ∧
      job.terminalIdempotencyKey = some idempotencyKey ∧ job.terminalRequestSha256 = some requestDigest := by
  unfold terminalReplay at h
  split at h
  · cases h
  · rename_i existing hkey
    split at h
    · rename_i hsame
      cases h
      exact ⟨rfl, by rw [hkey, hsame.1], hsame.2⟩
    · cases h

theorem complete_taken {body : TerminalResult}
    (h : (Report.complete body).deliver lib jobId clientId deliveryToken checked now s = (.ok (job', duplicate), s')) :
    ∃ job, s.jobs.get (body.tenantId, jobId) = some job ∧ Taken jobId (.complete body) s job job' duplicate s' := by
  unfold Report.deliver complete at h
  dsimp only at h
  split at h
  · cases h
  rename_i job hraw
  refine ⟨job, raw_ok hraw, ?_⟩
  split at h
  · cases h
  · rename_i job hreplay
    cases h
    obtain ⟨rfl, -⟩ := terminalReplay_some hreplay
    exact .recorded hreplay
  rename_i hreplay
  split at h
  · cases h
  cases h
  exact .settled _ _ (terminalReplay_none hreplay) id rfl rfl OrderedDict.get_set_self

theorem fail_taken {body : FailureResult}
    (h : (Report.fail body).deliver lib jobId clientId deliveryToken checked now s = (.ok (job', duplicate), s')) :
    ∃ job, s.jobs.get (body.tenantId, jobId) = some job ∧ Taken jobId (.fail body) s job job' duplicate s' := by
  unfold Report.deliver fail at h
  dsimp only at h
  split at h
  · cases h
  rename_i job hraw
  refine ⟨job, raw_ok hraw, ?_⟩
  split at h
  · cases h
  · rename_i job hreplay
    cases h
    obtain ⟨rfl, -⟩ := terminalReplay_some hreplay
    exact .recorded hreplay
  rename_i hreplay
  have hfirst := terminalReplay_none hreplay
  split at h
  · cases h
  split at h
  · rename_i hretry
    cases h
    exact .rescheduled _ _ hfirst ((failureState_retry body).1 hretry) rfl rfl OrderedDict.get_set_self
  rename_i hretry
  have hsettles := mt (failureState_retry body).2 hretry
  split at h
  · cases h
    exact .settled _ _ hfirst hsettles rfl rfl OrderedDict.get_set_self
  · cases h
    exact .settled _ _ hfirst hsettles rfl rfl OrderedDict.get_set_self

theorem deliver_taken (h : r.deliver lib jobId clientId deliveryToken checked now s = (.ok (job', duplicate), s')) :
    ∃ job, s.jobs.get (r.tenantId, jobId) = some job ∧ Taken jobId r s job job' duplicate s' := by
  cases r with
  | complete body => exact complete_taken h
  | fail body => exact fail_taken h

/-- A report that the store decides by what it has on record. -/
theorem deliver_replay {x : Except Error Job} (hget : s.jobs.get (r.tenantId, jobId) = some job)
    (h : terminalReplay job r.idempotencyKey r.digest = x.map some) :
    r.deliver lib jobId clientId deliveryToken checked now s = (x.map (·, true), s) := by
  have hraw : s.raw r.tenantId jobId = .ok job := by
    unfold Store.raw
    rw [hget]
  cases r with
  | complete body =>
    unfold Report.deliver complete
    dsimp only [Report.tenantId, Report.idempotencyKey, Report.digest] at hraw h ⊢
    rw [hraw]
    dsimp only
    rw [h]
    cases x <;> rfl
  | fail body =>
    unfold Report.deliver fail
    dsimp only [Report.tenantId, Report.idempotencyKey, Report.digest] at hraw h ⊢
    rw [hraw]
    dsimp only
    rw [h]
    cases x <;> rfl

/-- A job that has the report on record answers it, and refuses another under its key. -/
theorem recorded_idempotent (hget : s.jobs.get (r.tenantId, jobId) = some job)
    (hkey : job.terminalIdempotencyKey = some r.idempotencyKey) (hcontent : job.terminalRequestSha256 = some r.digest) :
    Idempotent lib jobId r clientId s job where
  repeated deliveryToken checked now := by
    refine deliver_replay (x := .ok job) hget ?_
    unfold terminalReplay
    rw [hkey, hcontent]
    exact if_pos ⟨rfl, rfl⟩
  refused other clientId' deliveryToken checked now htenant hsame hother := by
    refine ⟨.conflict "job already has a different terminal transition", ?_⟩
    refine deliver_replay (x := .error _) (by rw [htenant]; exact hget) ?_
    unfold terminalReplay
    rw [hkey, hcontent]
    exact if_neg fun h => hother (Option.some.inj h.2).symm

theorem unleased_refused (hget : s.jobs.get (r.tenantId, jobId) = some job) (hopen : job.terminalIdempotencyKey = none)
    (hunleased : job.leaseTokenSha256 = none) :
    r.deliver lib jobId clientId deliveryToken checked now s = (.error (.conflict "active automation lease is required"), s) := by
  have hraw : s.raw r.tenantId jobId = .ok job := by
    unfold Store.raw
    rw [hget]
  have hreplay : ∀ idempotencyKey requestDigest, terminalReplay job idempotencyKey requestDigest = .ok none := by
    intro idempotencyKey requestDigest
    unfold terminalReplay
    rw [hopen]
  have hlease : ∀ body, activeLease job body clientId checked = .error (.conflict "active automation lease is required") := by
    intro body
    unfold activeLease Job.held
    rw [hunleased]
    rfl
  cases r with
  | complete body =>
    unfold Report.deliver complete
    dsimp only [Report.tenantId] at hraw ⊢
    rw [hraw]
    dsimp only
    rw [hreplay]
    rw [hlease]
  | fail body =>
    unfold Report.deliver fail
    dsimp only [Report.tenantId] at hraw ⊢
    rw [hraw]
    dsimp only
    rw [hreplay]
    rw [hlease]

end Reports

/-- A report that was taken is idempotent, unless it scheduled another attempt of the job. -/
theorem report_idempotent_iff (lib : Library) (s s' : Store) (jobId : Uuid) (r : Report) (clientId deliveryToken : String)
    (checked now : Time) (recorded : Job) (duplicate : Bool)
    (h : r.deliver lib jobId clientId deliveryToken checked now s = (.ok (recorded, duplicate), s')) :
    Idempotent lib jobId r clientId s' recorded ↔
      ∀ job, s.jobs.get (r.tenantId, jobId) = some job → job.terminalIdempotencyKey = none → ¬ r.Reschedules job := by
  obtain ⟨job, hget, htaken⟩ := deliver_taken h
  cases htaken with
  | recorded replay =>
    obtain ⟨-, hkey, hcontent⟩ := terminalReplay_some replay
    constructor
    · intro _ job' hget' hfirst
      rw [hget] at hget'
      cases hget'
      rw [hkey] at hfirst
      cases hfirst
    · intro _
      exact recorded_idempotent hget hkey hcontent
  | rescheduled _ _ first reschedules opened unleased get =>
    constructor
    · intro hidempotent
      have hrepeat := hidempotent.repeated deliveryToken checked now
      rw [unleased_refused get opened unleased] at hrepeat
      cases hrepeat
    · intro hnever
      exact absurd reschedules (hnever job hget first)
  | settled _ _ first settles key content get =>
    constructor
    · intro _ job' hget' _
      rw [hget] at hget'
      cases hget'
      exact settles
    · intro _
      exact recorded_idempotent get key content

/-! ## A lost answer -/

def lostFailure (retryable : Bool) : FailureResult where
  tenantId := "a"
  leaseToken := "t1codestra-automation-job:a:e:w:1:x:n8n"
  executionId := "x"
  idempotencyKey := "failure-1"
  errorCode := "BUSY"
  retryable := retryable
  unknownOutcome := false
  safeError := []
  outcome := by simp

/-- The store in which the executor holds the lease of a job with two attempts. -/
def lostStore : Store := after sampleLibrary ((sampleRun 2 sample_attempts).take 2)

def lostDelivery (retryable : Bool) : Result Terminal :=
  (Report.fail (lostFailure retryable)).deliver sampleLibrary sampleJob "n8n" "t2" 2 2 lostStore

theorem lost_answered (retryable : Bool) : ∃ job, lostDelivery retryable = (.ok (job, false), (lostDelivery retryable).2) := by
  have h : ((lostDelivery retryable).1.toOption.map (·.2)) = some false := by
    cases retryable <;> decide +kernel
  generalize lostDelivery retryable = answer at h ⊢
  obtain ⟨e | ⟨job, duplicate⟩, s⟩ := answer
  · cases h
  · cases h
    exact ⟨job, rfl⟩

/-- A failure for good is idempotent. -/
theorem final_failure_idempotent : ∃ recorded, lostDelivery false = (.ok (recorded, false), (lostDelivery false).2) ∧
    Idempotent sampleLibrary sampleJob (.fail (lostFailure false)) "n8n" (lostDelivery false).2 recorded := by
  obtain ⟨job, hx⟩ := lost_answered false
  refine ⟨job, hx, (report_idempotent_iff sampleLibrary lostStore _ sampleJob _ "n8n" "t2" 2 2 job false hx).2 ?_⟩
  rintro _ _ _ ⟨_, hretryable, _⟩
  cases hretryable

/-- A retryable failure is not: its second delivery is refused. -/
theorem retryable_failure_refused : ∃ recorded, lostDelivery true = (.ok (recorded, false), (lostDelivery true).2) ∧
    ¬ Idempotent sampleLibrary sampleJob (.fail (lostFailure true)) "n8n" (lostDelivery true).2 recorded := by
  obtain ⟨job, hx⟩ := lost_answered true
  refine ⟨job, hx, fun hidempotent => ?_⟩
  have hrepeat := congrArg Prod.fst (hidempotent.repeated "t3" 3 3)
  have herror : ((Report.fail (lostFailure true)).deliver sampleLibrary sampleJob "n8n" "t3" 3 3 (lostDelivery true).2).1.toOption.isNone =
      true := by decide +kernel
  rw [hrepeat] at herror
  cases herror

end Middleware.Automation
