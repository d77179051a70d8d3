/-
Dead letters over whole runs of the durable automation store. A second dead letter of a job is not written, since its first
record stands under the same id: the job then waits in DEAD_LETTER with a record that is no longer open.
-/
import Middleware.Automation.Durable
import Middleware.Automation.Safety

namespace Middleware.Automation.Durable

open Lib Automation

/-- A failure that the store takes and that leads to DEAD_LETTER. -/
structure Buries (server : Server) (db : Database) (jobId : Uuid) (body : FailureResult) (clientId : String) (checked : Time)
    (job : Job) : Prop where
  tenant : ∃ value, canonicalTenantId body.tenantId = .ok value
  found : db.jobs.get (body.tenantId, jobId) = some job
  first : job.terminalIdempotencyKey = none
  held : job.held body.toHeartbeatRequest clientId checked = true
  stored : (server.jsonb body.safeError).isSome = true
  state : job.failureState body = .deadLetter

structure Replays (db : Database) (deadLetterId : Uuid) (body : ReplayRequest) (checked : Time) (dead : DeadLetterRecord)
    (approval : ApprovalRow) (job : Job) : Prop where
  found : db.deadLetters.get (body.tenantId, deadLetterId) = some dead
  approved : db.approvals.get (body.tenantId, body.approvalId) = some approval
  admits : approval.record.admits dead checked = true
  version : dead.resourceVersion = body.expectedVersion
  fingerprint : dead.originalEffectFingerprint = body.originalEffectFingerprint
  opened : dead.state = .opened
  job : db.jobs.get (body.tenantId, dead.jobId) = some job

def Call.isReplay : Call → Bool
  | .replayDeadLetter .. => true
  | _ => false

/-- What a call does to the jobs and the dead letters. -/
inductive Writes (server : Server) (lib : Library) (db : Database) : Call → Except Raised Reply × Database → Prop
  | kept (c : Call) (x : Except Raised Reply × Database) (jobs : x.2.jobs = db.jobs) (deadLetters : x.2.deadLetters = db.deadLetters)
      (quiet : c.isReplay = true → ∀ job, x.1 ≠ .ok (.job job false)) : Writes server lib db c x
  | added (c : Call) (x : Except Raised Reply × Database) (key : Key) (job : Job) (other : c.isReplay = false)
      (new : db.jobs.get key = none) (pending : job.state = .pending) (jobs : x.2.jobs = db.jobs.set key job)
      (deadLetters : x.2.deadLetters = db.deadLetters) : Writes server lib db c x
  | moved (c : Call) (x : Except Raised Reply × Database) (key : Key) (job job' : Job) (other : c.isReplay = false)
      (found : db.jobs.get key = some job) (alive : job.state ≠ .deadLetter) (alive' : job'.state ≠ .deadLetter)
      (jobs : x.2.jobs = db.jobs.set key job') (deadLetters : x.2.deadLetters = db.deadLetters) : Writes server lib db c x
  | buried (jobId : Uuid) (body : FailureResult) (clientId deliveryToken : String) (checked now : Time)
      (x : Except Raised Reply × Database) (job : Job) (buries : Buries server db jobId body clientId checked job)
      (jobs : x.2.jobs = db.jobs.set (body.tenantId, jobId) (failedRow job .deadLetter body none now))
      (deadLetters : x.2.deadLetters =
        if (db.deadLetters.get (body.tenantId, deadLetterIdOf lib body.tenantId jobId)).isSome then db.deadLetters
        else db.deadLetters.set (body.tenantId, deadLetterIdOf lib body.tenantId jobId)
          (job.deadLetter lib body.tenantId jobId body now)) :
      Writes server lib db (.fail jobId body clientId deliveryToken checked now) x
  | replayed (deadLetterId : Uuid) (body : ReplayRequest) (clientId deliveryToken : String) (checked now : Time)
      (x : Except Raised Reply × Database) (dead : DeadLetterRecord) (approval : ApprovalRow) (job : Job)
      (replays : Replays db deadLetterId body checked dead approval job)
      (jobs : x.2.jobs = db.jobs.set (body.tenantId, dead.jobId) (job.replayed deliveryToken now))
      (deadLetters : x.2.deadLetters = db.deadLetters.set (body.tenantId, deadLetterId) (dead.requested now))
      (approvals : x.2.approvals = db.approvals) :
      Writes server lib db (.replayDeadLetter deadLetterId body clientId deliveryToken checked now) x

section Writes

variable {server : Server} {lib : Library} {db : Database} {key : Key} {job job' : Job}

theorem job_ok {tenantId : String} {jobId : Uuid} (h : db.job tenantId jobId = .ok job) :
    db.jobs.get (tenantId, jobId) = some job := by
  unfold Database.job at h
  split at h
  · rename_i row hget
    cases h
    exact hget
  · cases h

theorem leaseRow_ok {tenantId : String} {jobId : Uuid} {body : HeartbeatRequest} {clientId : String} {checked : Time}
    (h : leaseRow db tenantId jobId body clientId checked = .ok job) :
    db.jobs.get (tenantId, jobId) = some job ∧ job.held body clientId checked = true := by
  unfold leaseRow at h
  split at h
  · cases h
  · rename_i row hrow
    split at h
    · rename_i hheld
      cases h
      exact ⟨job_ok hrow, hheld⟩
    · cases h

theorem held_alive {body : HeartbeatRequest} {clientId : String} {checked : Time} (h : job.held body clientId checked = true) :
    job.state ≠ .deadLetter := by
  intro hstate
  have hactive := held_active h
  rw [hstate] at hactive
  exact absurd hactive (by decide)

theorem terminalExisting_none {idempotencyKey requestDigest : String}
    (h : terminalExisting job idempotencyKey requestDigest = .ok none) : job.terminalIdempotencyKey = none := by
  unfold terminalExisting at h
  split at h
  · assumption
  · split at h <;> cases h

theorem writes_same {c : Call} {x : Except Raised Reply × Database} (other : c.isReplay = false) (jobs : x.2.jobs = db.jobs)
    (deadLetters : x.2.deadLetters = db.deadLetters) : Writes server lib db c x :=
  .kept c x jobs deadLetters fun h => by rw [other] at h; cases h

theorem writes_error (c : Call) (e : Raised) (db' : Database) (jobs : db'.jobs = db.jobs)
    (deadLetters : db'.deadLetters = db.deadLetters) : Writes server lib db c (.error e, db') :=
  .kept c _ jobs deadLetters fun _ _ h => by cases h

theorem connection_writes {α : Type} {c : Call} {f : α → Reply} {tenantId : String} {statements : Database → Outcome α}
    (h : (∃ value, canonicalTenantId tenantId = .ok value) → Writes server lib db c ((statements db).as f)) :
    Writes server lib db c ((tenantConnection tenantId statements db).as f) := by
  unfold tenantConnection
  split
  · exact writes_error c _ db rfl rfl
  · rename_i value hvalue
    exact h ⟨value, hvalue⟩

theorem enqueueEvent_writes (envelope : EventEnvelope) (route : WorkflowRoute) (sourceClientId deliveryToken : String) (now : Time) :
    Writes server lib db (.enqueueEvent envelope route sourceClientId deliveryToken now)
      (perform server lib (.enqueueEvent envelope route sourceClientId deliveryToken now) db) := by
  refine connection_writes fun _ => ?_
  dsimp only
  split
  · exact writes_error _ _ db rfl rfl
  split
  · exact writes_error _ _ db rfl rfl
  split
  · exact writes_same rfl rfl rfl
  split
  · exact writes_error _ _ db rfl rfl
  rename_i hnew
  rw [Bool.not_eq_true, Option.isSome_eq_false_iff, Option.isNone_iff_eq_none] at hnew
  split
  · exact .added _ _ _ _ rfl hnew rfl rfl rfl
  · exact .added _ _ _ _ rfl hnew rfl rfl rfl

theorem claim_writes (body : JobClaimRequest) (clientId : String) (now : Time) :
    Writes server lib db (.claim body clientId now) (perform server lib (.claim body clientId now) db) := by
  refine connection_writes fun _ => ?_
  dsimp only
  split
  · exact writes_error _ _ db rfl rfl
  rename_i job hjob
  split
  · exact writes_error _ _ db rfl rfl
  split
  · exact writes_error _ _ db rfl rfl
  split
  · exact writes_error _ _ db rfl rfl
  split
  · split
    · exact writes_same rfl rfl rfl
    · exact writes_error _ _ db rfl rfl
  split
  · exact writes_error _ _ db rfl rfl
  rename_i hstate
  refine .moved _ _ _ job _ rfl (job_ok hjob) (fun hdead => hstate ?_) ?_ rfl rfl
  · rw [hdead]
    decide
  · simp [Job.claimed]

theorem recordStep_writes (jobId : Uuid) (body : StepRecord) (clientId : String) (checked now : Time) :
    Writes server lib db (.recordStep jobId body clientId checked now)
      (perform server lib (.recordStep jobId body clientId checked now) db) := by
  refine connection_writes fun _ => ?_
  dsimp only
  split
  · exact writes_error _ _ db rfl rfl
  rename_i job hlease
  obtain ⟨hget, hheld⟩ := leaseRow_ok hlease
  split
  · exact writes_error _ _ db rfl rfl
  · exact writes_error _ _ db rfl rfl
  split
  · split
    · exact writes_error _ _ _ rfl rfl
    · exact .moved _ _ _ job (job.run now) rfl hget (held_alive hheld) (by simp [Job.run]) rfl rfl
  · exact .moved _ _ _ job (job.run now) rfl hget (held_alive hheld) (by simp [Job.run]) rfl rfl

theorem complete_writes (jobId : Uuid) (body : TerminalResult) (clientId : String) (checked now : Time) :
    Writes server lib db (.complete jobId body clientId checked now)
      (perform server lib (.complete jobId body clientId checked now) db) := by
  refine connection_writes fun _ => ?_
  split
  · exact writes_error _ _ db rfl rfl
  rename_i job hjob
  split
  · exact writes_error _ _ db rfl rfl
  · exact writes_same rfl rfl rfl
  split
  · exact writes_error _ _ db rfl rfl
  rename_i row hlease
  obtain ⟨hget, hheld⟩ := leaseRow_ok hlease
  rw [job_ok hjob] at hget
  cases hget
  split
  · exact writes_error _ _ db rfl rfl
  · exact .moved _ _ _ job _ rfl (job_ok hjob) (held_alive hheld) (by simp [Job.terminal]) rfl rfl

theorem fail_writes (jobId : Uuid) (body : FailureResult) (clientId deliveryToken : String) (checked now : Time) :
    Writes server lib db (.fail jobId body clientId deliveryToken checked now)
      (perform server lib (.fail jobId body clientId deliveryToken checked now) db) := by
  refine connection_writes fun htenant => ?_
  split
  · exact writes_error _ _ db rfl rfl
  rename_i job hjob
  split
  · exact writes_error _ _ db rfl rfl
  · exact writes_same rfl rfl rfl
  rename_i hfirst
  split
  · exact writes_error _ _ db rfl rfl
  rename_i row hlease
  obtain ⟨hget, hheld⟩ := leaseRow_ok hlease
  rw [job_ok hjob] at hget
  cases hget
  split
  · exact writes_error _ _ db rfl rfl
  rename_i hstored
  rcases failureState_cases job body with hstate | hstate | hstate
  · simp only [hstate, ↓reduceIte]
    exact .moved _ _ _ job _ rfl (job_ok hjob) (held_alive hheld) (by simp [failedRow]) rfl rfl
  · simp only [hstate, reduceCtorEq, ↓reduceIte]
    have hburies : Buries server db jobId body clientId checked job :=
      ⟨htenant, job_ok hjob, terminalExisting_none hfirst, hheld, by simpa [Option.isSome_iff_ne_none] using hstored, hstate⟩
    unfold insertDeadLetter
    split
    · exact writes_error _ _ db rfl rfl
    · rename_i inserted hinserted
      split at hinserted
      · rename_i hold
        cases hinserted
        exact .buried jobId body clientId deliveryToken checked now _ job hburies rfl (if_pos hold).symm
      · rename_i hnew
        split at hinserted
        · cases hinserted
        · cases hinserted
          exact .buried jobId body clientId deliveryToken checked now _ job hburies rfl (if_neg hnew).symm
  · simp only [hstate, reduceCtorEq, ↓reduceIte]
    exact .moved _ _ _ job _ rfl (job_ok hjob) (held_alive hheld) (by simp [failedRow]) rfl rfl

theorem requestApproval_writes (body : ApprovalRequest) (clientId requestedBy : String) (now : Time) :
    Writes server lib db (.requestApproval body clientId requestedBy now)
      (perform server lib (.requestApproval body clientId requestedBy now) db) := by
  refine connection_writes fun _ => ?_
  dsimp only
  split
  · exact writes_error _ _ db rfl rfl
  rename_i job hjob
  split
  · exact writes_error _ _ db rfl rfl
  split
  · exact writes_error _ _ db rfl rfl
  split
  · split
    · exact writes_error _ _ db rfl rfl
    · exact writes_same rfl rfl rfl
  split
  · exact writes_error _ _ db rfl rfl
  by_cases hdead : job.state = .deadLetter
  · have hsame : job.await now = job := by
      exact if_pos (by rw [hdead]; rfl)
    refine writes_same rfl ?_ rfl
    rw [hsame]
    exact OrderedDict.set_get (job_ok hjob)
  · refine .moved _ _ _ job (job.await now) rfl (job_ok hjob) hdead ?_ rfl rfl
    unfold Job.await
    split
    · exact hdead
    · simp

theorem replayDeadLetter_writes (deadLetterId : Uuid) (body : ReplayRequest) (clientId deliveryToken : String) (checked now : Time) :
    Writes server lib db (.replayDeadLetter deadLetterId body clientId deliveryToken checked now)
      (perform server lib (.replayDeadLetter deadLetterId body clientId deliveryToken checked now) db) := by
  unfold perform replayDeadLetter
  dsimp only
  split
  · exact writes_error _ _ db rfl rfl
  refine connection_writes fun _ => ?_
  split
  · split
    · exact writes_error _ _ db rfl rfl
    · exact .kept _ _ rfl rfl fun _ _ h => by cases h
  split
  · exact writes_error _ _ db rfl rfl
  rename_i dead hdead
  split
  · exact writes_error _ _ db rfl rfl
  rename_i approval happroval
  split
  · exact writes_error _ _ db rfl rfl
  rename_i hadmits
  split
  · exact writes_error _ _ db rfl rfl
  rename_i hversion
  split
  · exact writes_error _ _ db rfl rfl
  rename_i hfingerprint
  split
  · exact writes_error _ _ db rfl rfl
  rename_i hopened
  split
  · exact writes_error _ _ db rfl rfl
  rename_i job hjob
  rw [not_ne_iff] at hversion hfingerprint hopened
  rw [Bool.not_eq_true, Bool.not_eq_false'] at hadmits
  exact .replayed deadLetterId body clientId deliveryToken checked now _ dead approval job
    ⟨hdead, happroval, hadmits, hversion, hfingerprint, hopened, hjob⟩ rfl rfl rfl

theorem perform_writes (server : Server) (lib : Library) (c : Call) (db : Database) :
    Writes server lib db c (perform server lib c db) := by
  cases c with
  | enqueueEvent envelope route sourceClientId deliveryToken now =>
    exact enqueueEvent_writes envelope route sourceClientId deliveryToken now
  | claim body clientId now => exact claim_writes body clientId now
  | recordStep jobId body clientId checked now => exact recordStep_writes jobId body clientId checked now
  | complete jobId body clientId checked now => exact complete_writes jobId body clientId checked now
  | fail jobId body clientId deliveryToken checked now => exact fail_writes jobId body clientId deliveryToken checked now
  | requestApproval body clientId requestedBy now => exact requestApproval_writes body clientId requestedBy now
  | replayDeadLetter deadLetterId body clientId deliveryToken checked now =>
    exact replayDeadLetter_writes deadLetterId body clientId deliveryToken checked now
  | getJob tenantId jobId =>
    exact connection_writes fun _ => writes_same rfl rfl rfl
  | heartbeat jobId body clientId checked now =>
    refine connection_writes fun _ => ?_
    split
    · exact writes_error _ _ db rfl rfl
    · rename_i job hlease
      obtain ⟨hget, hheld⟩ := leaseRow_ok hlease
      exact .moved _ _ _ job _ rfl hget (held_alive hheld) (by simp [Job.run]) rfl rfl
  | getApproval tenantId approvalId checked now =>
    refine connection_writes fun _ => ?_
    split
    · exact writes_error _ _ db rfl rfl
    · split <;> exact writes_same rfl rfl rfl
  | decideApproval tenantId approvalId state decidedBy now =>
    unfold perform Outcome.as decideApproval
    dsimp only
    split
    · exact writes_same rfl rfl rfl
    · split
      · exact writes_error _ _ db rfl rfl
      · exact writes_same rfl rfl rfl
  | reconcile body requestedBy now =>
    refine connection_writes fun _ => ?_
    dsimp only
    split
    · split
      · exact writes_error _ _ db rfl rfl
      · exact writes_same rfl rfl rfl
    split
    · exact writes_error _ _ db rfl rfl
    split
    · exact writes_error _ _ db rfl rfl
    · exact writes_same rfl rfl rfl

end Writes

/-! ## Runs -/

/-- The tables after the calls of a run. -/
abbrev after (server : Server) (lib : Library) (calls : List Call) : Database := runFrom (call server lib) {} calls

/-- A dead letter names the failure of a job. -/
def Describes (dead : DeadLetterRecord) (key : Key) (job : Job) : Prop :=
  ∃ code, job.errorCode = some code ∧ dead.safePayload.lookup "error_code" = some (.str code) ∧
    dead.originalEffectFingerprint = digest (.obj [("tenant_id", .str key.1), ("job_id", .str key.2),
      ("workflow_key", .str job.workflowKey), ("error_code", .str code)])

/-- The dead letter of a job is open, and names its failure. -/
def OpenFor (db : Database) (key : Key) (job : Job) : Prop :=
  ∃ deadLetterId dead, db.deadLetters.get (key.1, deadLetterId) = some dead ∧ dead.jobId = key.2 ∧ dead.state = .opened ∧
    Describes dead key job

/-- A replay of the run that was answered, and not from the record of an earlier one. -/
def Replayed (server : Server) (lib : Library) (before : List Call) (deadLetterId : Uuid) (body : ReplayRequest)
    (clientId deliveryToken : String) (checked now : Time) : Prop :=
  ∃ job, (perform server lib (.replayDeadLetter deadLetterId body clientId deliveryToken checked now)
    (after server lib before)).1 = .ok (.job job false)

/-- What a run should keep of its dead letters. -/
structure StaysReplayable (server : Server) (lib : Library) (calls : List Call) : Prop where
  states : ∀ before, before <+: calls → ∀ key job, (after server lib before).jobs.get key = some job →
    (job.state = .deadLetter ↔ OpenFor (after server lib before) key job)
  versions : ∀ (before : List Call) c (rest : List Call) key dead,
    calls = before ++ c :: rest → (after server lib before).deadLetters.get key = some dead →
    ∃ dead', (after server lib (before ++ [c])).deadLetters.get key = some dead' ∧ dead.resourceVersion ≤ dead'.resourceVersion
  approvals : ∀ (before : List Call) deadLetterId body clientId deliveryToken checked now (rest : List Call),
    calls = before ++ Call.replayDeadLetter deadLetterId body clientId deliveryToken checked now :: rest →
    Replayed server lib before deadLetterId body clientId deliveryToken checked now →
    (∃ approval, (after server lib before).approvals.get (body.tenantId, body.approvalId) = some approval ∧
      approval.record.state = .approved ∧ approval.record.approvalType = "REPLAY") ∧
    ∀ (earlier : List Call) deadLetterId' body' clientId' deliveryToken' checked' now' (mid : List Call),
      before = earlier ++ Call.replayDeadLetter deadLetterId' body' clientId' deliveryToken' checked' now' :: mid →
      Replayed server lib earlier deadLetterId' body' clientId' deliveryToken' checked' now' →
      (body'.tenantId, body'.approvalId) ≠ (body.tenantId, body.approvalId)

/-- A failure that leads to DEAD_LETTER where a dead letter already stands under the job's id. -/
def Reburies (server : Server) (lib : Library) (db : Database) : Call → Prop
  | .fail jobId body clientId _ checked _ => (∃ job, Buries server db jobId body clientId checked job) ∧
      (db.deadLetters.get (body.tenantId, deadLetterIdOf lib body.tenantId jobId)).isSome = true
  | .enqueueEvent .. | .claim .. | .getJob .. | .heartbeat .. | .recordStep .. | .complete .. | .requestApproval ..
  | .getApproval .. | .decideApproval .. | .replayDeadLetter .. | .reconcile .. => False

structure Sound (lib : Library) (db : Database) : Prop where
  filed : ∀ tenantId deadLetterId dead, db.deadLetters.get (tenantId, deadLetterId) = some dead →
    deadLetterId = deadLetterIdOf lib tenantId dead.jobId
  opened : ∀ tenantId deadLetterId dead, db.deadLetters.get (tenantId, deadLetterId) = some dead → dead.state = .opened →
    ∃ job, db.jobs.get (tenantId, dead.jobId) = some job ∧ job.state = .deadLetter ∧ Describes dead (tenantId, dead.jobId) job

/-- Every job in DEAD_LETTER has its open dead letter. -/
def Covered (db : Database) : Prop := ∀ key job, db.jobs.get key = some job → job.state = .deadLetter → OpenFor db key job

section Steps

variable {server : Server} {lib : Library} {db db' : Database} {c : Call} {key : Key} {job job' : Job} {dead : DeadLetterRecord}

theorem describes_failure (job : Job) (tenantId : String) (jobId : Uuid) (body : FailureResult) (now : Time) :
    Describes (job.deadLetter lib tenantId jobId body now) (tenantId, jobId) (failedRow job .deadLetter body none now) :=
  ⟨body.errorCode, rfl, rfl, rfl⟩

theorem opened_kept (h : Sound lib db) {tenantId : String} {deadLetterId : Uuid}
    (hget : db.deadLetters.get (tenantId, deadLetterId) = some dead) (hopened : dead.state = .opened)
    (hjobs : ∀ key job, job.state = .deadLetter → db.jobs.get key = some job → db'.jobs.get key = some job) :
    ∃ job, db'.jobs.get (tenantId, dead.jobId) = some job ∧ job.state = .deadLetter ∧
      Describes dead (tenantId, dead.jobId) job := by
  obtain ⟨job, hjob, hstate, hdescribes⟩ := h.opened tenantId deadLetterId dead hget hopened
  exact ⟨job, hjobs _ job hstate hjob, hstate, hdescribes⟩

theorem dead_kept (hfound : ∀ old, db.jobs.get key = some old → old.state ≠ .deadLetter)
    (hjobs : db'.jobs = db.jobs.set key job') : ∀ k job, job.state = .deadLetter → db.jobs.get k = some job →
      db'.jobs.get k = some job := by
  intro k job hstate hget
  rw [hjobs, OrderedDict.get_set]
  split
  · rename_i hk
    subst hk
    exact absurd hstate (hfound job hget)
  · exact hget

theorem sound_step (server : Server) (h : Sound lib db) (c : Call) : Sound lib (call server lib c db) := by
  unfold call
  have hwrites := perform_writes server lib c db
  generalize perform server lib c db = x at hwrites ⊢
  -- the dead letters stay, and so do the jobs in DEAD_LETTER
  have hkept : x.2.deadLetters = db.deadLetters →
      (∀ key job, job.state = .deadLetter → db.jobs.get key = some job → x.2.jobs.get key = some job) → Sound lib x.2 := by
    intro hdead hjobs
    constructor
    · intro tenantId deadLetterId dead hget
      rw [hdead] at hget
      exact h.filed tenantId deadLetterId dead hget
    · intro tenantId deadLetterId dead hget hopened
      rw [hdead] at hget
      exact opened_kept h hget hopened hjobs
  cases hwrites with
  | kept _ _ jobs deadLetters quiet => exact hkept deadLetters fun key job _ hget => by rw [jobs]; exact hget
  | added _ _ key job other new pending jobs deadLetters =>
    refine hkept deadLetters (dead_kept ?_ jobs)
    intro old hold
    rw [new] at hold
    cases hold
  | moved _ _ key job job' other found alive alive' jobs deadLetters =>
    refine hkept deadLetters (dead_kept ?_ jobs)
    intro old hold
    rw [found] at hold
    cases hold
    exact alive
  | buried jobId body clientId deliveryToken checked now _ job buries jobs deadLetters =>
    have halive : ∀ old, db.jobs.get (body.tenantId, jobId) = some old → old.state ≠ .deadLetter := by
      intro old hold
      rw [buries.found] at hold
      cases hold
      exact held_alive buries.held
    split at deadLetters
    · exact hkept deadLetters (dead_kept halive jobs)
    · constructor
      · intro tenantId deadLetterId dead hget
        rw [deadLetters, OrderedDict.get_set] at hget
        split at hget
        · rename_i hkey
          cases hget
          cases hkey
          rfl
        · exact h.filed tenantId deadLetterId dead hget
      · intro tenantId deadLetterId dead hget hopened
        rw [deadLetters, OrderedDict.get_set] at hget
        split at hget
        · rename_i hkey
          cases hget
          cases hkey
          refine ⟨failedRow job .deadLetter body none now, ?_, rfl, describes_failure job body.tenantId jobId body now⟩
          rw [jobs]
          exact OrderedDict.get_set_self
        · exact opened_kept h hget hopened (dead_kept halive jobs)
  | replayed replayId body clientId deliveryToken checked now _ replay approval job replays jobs deadLetters =>
    constructor
    · intro tenantId deadLetterId dead hget
      rw [deadLetters, OrderedDict.get_set] at hget
      split at hget
      · rename_i hkey
        cases hget
        cases hkey
        exact h.filed _ _ replay replays.found
      · exact h.filed tenantId deadLetterId dead hget
    · intro tenantId deadLetterId dead hget hopened
      rw [deadLetters, OrderedDict.get_set] at hget
      split at hget
      · cases hget
        cases hopened
      · rename_i hkey
        obtain ⟨old, hold, hstate, hdescribes⟩ := h.opened tenantId deadLetterId dead hget hopened
        refine ⟨old, ?_, hstate, hdescribes⟩
        rw [jobs, OrderedDict.get_set, if_neg, hold]
        -- a second dead letter of the job would stand under the same id
        intro heq
        obtain ⟨htenant, hjob⟩ := Prod.mk.inj heq
        refine hkey ?_
        rw [h.filed tenantId deadLetterId dead hget, htenant, hjob, h.filed _ _ replay replays.found]

theorem sound_after (server : Server) (lib : Library) (calls : List Call) : Sound lib (after server lib calls) :=
  runFrom_invariant ⟨fun _ _ _ h => (by cases h), fun _ _ _ h => (by cases h)⟩ fun _ c h => sound_step server h c

theorem dead_step (server : Server) (lib : Library) (hget : db.deadLetters.get key = some dead) (c : Call) : ∃ dead',
    (call server lib c db).deadLetters.get key = some dead' ∧ dead.resourceVersion ≤ dead'.resourceVersion ∧
      dead'.jobId = dead.jobId ∧ (dead.state ≠ .opened → dead'.state ≠ .opened) := by
  unfold call
  have hwrites := perform_writes server lib c db
  generalize perform server lib c db = x at hwrites ⊢
  have hkept : x.2.deadLetters = db.deadLetters → ∃ dead', x.2.deadLetters.get key = some dead' ∧
      dead.resourceVersion ≤ dead'.resourceVersion ∧ dead'.jobId = dead.jobId ∧
      (dead.state ≠ .opened → dead'.state ≠ .opened) := by
    intro hdead
    exact ⟨dead, by rw [hdead]; exact hget, le_refl _, rfl, id⟩
  cases hwrites with
  | kept _ _ jobs deadLetters quiet => exact hkept deadLetters
  | added _ _ _ _ other new pending jobs deadLetters => exact hkept deadLetters
  | moved _ _ _ _ _ other found alive alive' jobs deadLetters => exact hkept deadLetters
  | buried jobId body clientId deliveryToken checked now _ job buries jobs deadLetters =>
    split at deadLetters
    · exact hkept deadLetters
    · rename_i hnew
      refine ⟨dead, ?_, le_refl _, rfl, id⟩
      rw [deadLetters, OrderedDict.get_set, if_neg, hget]
      intro hkey
      rw [← hkey, hget] at hnew
      exact hnew rfl
  | replayed deadLetterId body clientId deliveryToken checked now _ replay approval job replays jobs deadLetters =>
    rw [deadLetters, OrderedDict.get_set]
    by_cases hkey : key = (body.tenantId, deadLetterId)
    · subst hkey
      have hsame := replays.found
      rw [hget] at hsame
      cases hsame
      exact ⟨dead.requested now, if_pos rfl, Nat.le_succ _, rfl, fun _ h => by cases h⟩
    · exact ⟨dead, by rw [if_neg hkey, hget], le_refl _, rfl, id⟩

theorem covered_step (h : Covered db) (hc : ¬ Reburies server lib db c) : Covered (call server lib c db) := by
  unfold call
  have hwrites := perform_writes server lib c db
  generalize perform server lib c db = x at hwrites ⊢
  -- a job that is written and is not in DEAD_LETTER, with the dead letters kept
  have hset : ∀ {k : Key} {new : Job}, x.2.deadLetters = db.deadLetters → x.2.jobs = db.jobs.set k new →
      new.state ≠ .deadLetter → Covered x.2 := by
    intro k new hdead hjobs hnew key job hget hstate
    rw [hjobs, OrderedDict.get_set] at hget
    split at hget
    · cases hget
      exact absurd hstate hnew
    · obtain ⟨deadLetterId, dead, hfound, hrest⟩ := h key job hget hstate
      exact ⟨deadLetterId, dead, by rw [hdead]; exact hfound, hrest⟩
  cases hwrites with
  | kept _ _ jobs deadLetters quiet =>
    intro key job hget hstate
    rw [jobs] at hget
    obtain ⟨deadLetterId, dead, hfound, hrest⟩ := h key job hget hstate
    exact ⟨deadLetterId, dead, by rw [deadLetters]; exact hfound, hrest⟩
  | added _ _ key job other new pending jobs deadLetters => exact hset deadLetters jobs (by rw [pending]; decide)
  | moved _ _ key job job' other found alive alive' jobs deadLetters => exact hset deadLetters jobs alive'
  | buried jobId body clientId deliveryToken checked now _ job buries jobs deadLetters =>
    split at deadLetters
    · rename_i hold
      exact absurd ⟨⟨job, buries⟩, hold⟩ hc
    rename_i hnew
    intro key new hget hstate
    rw [jobs, OrderedDict.get_set] at hget
    split at hget
    · rename_i hkey
      cases hget
      refine ⟨deadLetterIdOf lib body.tenantId jobId, job.deadLetter lib body.tenantId jobId body now, ?_, ?_, rfl, ?_⟩
      · rw [deadLetters, hkey]
        exact OrderedDict.get_set_self
      · rw [hkey]
        rfl
      · rw [hkey]
        exact describes_failure job body.tenantId jobId body now
    · obtain ⟨deadLetterId, dead, hfound, hrest⟩ := h key new hget hstate
      refine ⟨deadLetterId, dead, ?_, hrest⟩
      rw [deadLetters, OrderedDict.get_set, if_neg, hfound]
      intro hkey
      rw [← hkey, hfound] at hnew
      exact hnew rfl
  | replayed replayId body clientId deliveryToken checked now _ replay approval job replays jobs deadLetters =>
    intro key new hget hstate
    rw [jobs, OrderedDict.get_set] at hget
    split at hget
    · cases hget
      cases hstate
    · rename_i hkey
      obtain ⟨deadLetterId, dead, hfound, hjob, hrest⟩ := h key new hget hstate
      refine ⟨deadLetterId, dead, ?_, hjob, hrest⟩
      rw [deadLetters, OrderedDict.get_set, if_neg, hfound]
      intro hid
      rw [hid, replays.found] at hfound
      cases hfound
      have htenant := congrArg Prod.fst hid
      exact hkey (Prod.ext htenant hjob.symm)

theorem buries_row {jobId : Uuid} {body : FailureResult} {clientId : String} {checked : Time}
    (h : Buries server db jobId body clientId checked job) : db.job body.tenantId jobId = .ok job ∧
      terminalExisting job body.idempotencyKey body.digest = .ok none ∧
      leaseRow db body.tenantId jobId body.toHeartbeatRequest clientId checked = .ok job := by
  have hjob : db.job body.tenantId jobId = .ok job := by
    unfold Database.job
    rw [h.found]
  refine ⟨hjob, ?_, ?_⟩
  · unfold terminalExisting
    rw [h.first]
  · unfold leaseRow
    rw [hjob]
    exact if_pos h.held

/-- A job that is buried again waits without an open dead letter. -/
theorem reburied_uncovered (h : Sound lib db) (hc : Reburies server lib db c) :
    ∃ key job, (call server lib c db).jobs.get key = some job ∧ job.state = .deadLetter ∧ ¬ OpenFor (call server lib c db) key job := by
  cases c with
  | fail jobId body clientId deliveryToken checked now =>
    obtain ⟨⟨job, hburies⟩, hold⟩ := hc
    obtain ⟨value, htenant⟩ := hburies.tenant
    obtain ⟨hjob, hfirst, hlease⟩ := buries_row hburies
    have hcall : call server lib (.fail jobId body clientId deliveryToken checked now) db =
        db.updateJob (body.tenantId, jobId) (failedRow job .deadLetter body none now) := by
      unfold call perform Outcome.as fail tenantConnection
      dsimp only
      rw [htenant]
      rw [hjob]
      dsimp only
      rw [hfirst]
      rw [hlease]
      rw [if_neg (by simpa [Option.isSome_iff_ne_none] using hburies.stored)]
      simp only [hburies.state, reduceCtorEq, ↓reduceIte]
      unfold insertDeadLetter
      rw [if_pos]
      exact hold
    rw [hcall]
    refine ⟨(body.tenantId, jobId), failedRow job .deadLetter body none now, OrderedDict.get_set_self, rfl, ?_⟩
    rintro ⟨deadLetterId, dead, hget, hsame, hopened, -⟩
    obtain ⟨old, hfound, hstate, -⟩ := h.opened body.tenantId deadLetterId dead hget hopened
    rw [hsame, hburies.found] at hfound
    cases hfound
    exact held_alive hburies.held hstate
  | enqueueEvent => exact hc.elim
  | claim => exact hc.elim
  | getJob => exact hc.elim
  | heartbeat => exact hc.elim
  | recordStep => exact hc.elim
  | complete => exact hc.elim
  | requestApproval => exact hc.elim
  | getApproval => exact hc.elim
  | decideApproval => exact hc.elim
  | replayDeadLetter => exact hc.elim
  | reconcile => exact hc.elim

/-! ### Approvals -/

/-- An approval stays, and stays that of its job. -/
def ApprovalsKept (db db' : Database) : Prop := ∀ key row, db.approvals.get key = some row →
  ∃ row', db'.approvals.get key = some row' ∧ row'.record.jobId = row.record.jobId

theorem approvalsKept_refl (h : db'.approvals = db.approvals) : ApprovalsKept db db' := by
  intro key row hget
  exact ⟨row, by rw [h]; exact hget, rfl⟩

theorem approvalsKept_set {row : ApprovalRow} (hjob : ∀ old, db.approvals.get key = some old → row.record.jobId = old.record.jobId)
    (h : db'.approvals = db.approvals.set key row) : ApprovalsKept db db' := by
  intro k old hget
  rw [h, OrderedDict.get_set]
  by_cases hk : k = key
  · subst hk
    exact ⟨row, if_pos rfl, hjob old hget⟩
  · exact ⟨old, by rw [if_neg hk, hget], rfl⟩

theorem connection_kept {α : Type} {tenantId : String} {statements : Database → Outcome α}
    (h : ApprovalsKept db (statements db).2) : ApprovalsKept db (tenantConnection tenantId statements db).2 := by
  unfold tenantConnection
  split
  · exact approvalsKept_refl rfl
  · exact h

theorem requestApproval_keeps (body : ApprovalRequest) (clientId requestedBy : String) (now : Time) :
    ApprovalsKept db (requestApproval server lib body clientId requestedBy now db).2 := by
  refine connection_kept ?_
  dsimp only
  split
  · exact approvalsKept_refl rfl
  split
  · exact approvalsKept_refl rfl
  split
  · exact approvalsKept_refl rfl
  split
  · split <;> exact approvalsKept_refl rfl
  split
  · exact approvalsKept_refl rfl
  · rename_i hnew
    refine approvalsKept_set (fun old hold => ?_) rfl
    rw [hold] at hnew
    exact absurd rfl hnew

theorem enqueueEvent_keeps (envelope : EventEnvelope) (route : WorkflowRoute) (sourceClientId deliveryToken : String) (now : Time) :
    ApprovalsKept db (enqueueEvent server lib envelope route sourceClientId deliveryToken now db).2 := by
  refine connection_kept ?_
  dsimp only
  split
  · exact approvalsKept_refl rfl
  split
  · exact approvalsKept_refl rfl
  split
  · exact approvalsKept_refl rfl
  split
  · exact approvalsKept_refl rfl
  split <;> exact approvalsKept_refl rfl

theorem claim_keeps (body : JobClaimRequest) (clientId : String) (now : Time) :
    ApprovalsKept db (claim lib body clientId now db).2 := by
  refine connection_kept ?_
  dsimp only
  split
  · exact approvalsKept_refl rfl
  iterate 3
    split
    · exact approvalsKept_refl rfl
  split
  · split <;> exact approvalsKept_refl rfl
  · split <;> exact approvalsKept_refl rfl

theorem recordStep_keeps (jobId : Uuid) (body : StepRecord) (clientId : String) (checked now : Time) :
    ApprovalsKept db (recordStep server lib jobId body clientId checked now db).2 := by
  refine connection_kept ?_
  dsimp only
  split
  · exact approvalsKept_refl rfl
  split
  · exact approvalsKept_refl rfl
  · exact approvalsKept_refl rfl
  split
  · split <;> exact approvalsKept_refl rfl
  · exact approvalsKept_refl rfl

theorem complete_keeps (jobId : Uuid) (body : TerminalResult) (clientId : String) (checked now : Time) :
    ApprovalsKept db (complete server jobId body clientId checked now db).2 := by
  refine connection_kept ?_
  split
  · exact approvalsKept_refl rfl
  split
  · exact approvalsKept_refl rfl
  · exact approvalsKept_refl rfl
  split
  · exact approvalsKept_refl rfl
  split <;> exact approvalsKept_refl rfl

theorem fail_keeps (jobId : Uuid) (body : FailureResult) (clientId deliveryToken : String) (checked now : Time) :
    ApprovalsKept db (fail server lib jobId body clientId deliveryToken checked now db).2 := by
  refine connection_kept ?_
  dsimp only
  split
  · exact approvalsKept_refl rfl
  split
  · exact approvalsKept_refl rfl
  · exact approvalsKept_refl rfl
  split
  · exact approvalsKept_refl rfl
  split
  · exact approvalsKept_refl rfl
  split
  · exact approvalsKept_refl rfl
  split
  · unfold insertDeadLetter
    split
    · exact approvalsKept_refl rfl
    · rename_i inserted hinserted
      refine approvalsKept_refl ?_
      split at hinserted
      · cases hinserted
        rfl
      · split at hinserted
        · cases hinserted
        · cases hinserted
          rfl
  · exact approvalsKept_refl rfl

theorem replayDeadLetter_keeps (deadLetterId : Uuid) (body : ReplayRequest) (clientId deliveryToken : String) (checked now : Time) :
    ApprovalsKept db (replayDeadLetter deadLetterId body clientId deliveryToken checked now db).2 := by
  unfold replayDeadLetter
  split
  · exact approvalsKept_refl rfl
  refine connection_kept ?_
  split
  · split <;> exact approvalsKept_refl rfl
  split
  · exact approvalsKept_refl rfl
  split
  · exact approvalsKept_refl rfl
  iterate 4
    split
    · exact approvalsKept_refl rfl
  dsimp only
  split <;> exact approvalsKept_refl rfl

theorem reconcile_keeps (body : ReconciliationRequest) (requestedBy : String) (now : Time) :
    ApprovalsKept db (reconcile server lib body requestedBy now db).2 := by
  refine connection_kept ?_
  dsimp only
  split
  · split <;> exact approvalsKept_refl rfl
  split
  · exact approvalsKept_refl rfl
  split <;> exact approvalsKept_refl rfl

theorem approvals_step (server : Server) (lib : Library) (c : Call) (db : Database) :
    ApprovalsKept db (call server lib c db) := by
  cases c with
  | decideApproval tenantId approvalId state decidedBy now =>
    unfold call perform Outcome.as decideApproval
    dsimp only
    split
    · exact approvalsKept_refl rfl
    rename_i row hrow
    split
    · exact approvalsKept_refl rfl
    · refine approvalsKept_set (fun old hold => ?_) rfl
      rw [hrow] at hold
      cases hold
      rfl
  | getApproval tenantId approvalId checked now =>
    unfold call perform Outcome.as
    dsimp only
    refine connection_kept ?_
    split
    · exact approvalsKept_refl rfl
    rename_i row hrow
    split
    · refine approvalsKept_set (fun old hold => ?_) rfl
      rw [hrow] at hold
      cases hold
      rfl
    · exact approvalsKept_refl rfl
  | requestApproval body clientId requestedBy now =>
    unfold call perform Outcome.as
    dsimp only
    exact requestApproval_keeps body clientId requestedBy now
  | enqueueEvent envelope route sourceClientId deliveryToken now =>
    unfold call perform Outcome.as
    dsimp only
    exact enqueueEvent_keeps envelope route sourceClientId deliveryToken now
  | claim body clientId now =>
    unfold call perform Outcome.as
    dsimp only
    exact claim_keeps body clientId now
  | getJob tenantId jobId =>
    unfold call perform Outcome.as
    dsimp only
    exact connection_kept (approvalsKept_refl rfl)
  | heartbeat jobId body clientId checked now =>
    unfold call perform Outcome.as
    dsimp only
    refine connection_kept ?_
    split <;> exact approvalsKept_refl rfl
  | recordStep jobId body clientId checked now =>
    unfold call perform Outcome.as
    dsimp only
    exact recordStep_keeps jobId body clientId checked now
  | complete jobId body clientId checked now =>
    unfold call perform Outcome.as
    dsimp only
    exact complete_keeps jobId body clientId checked now
  | fail jobId body clientId deliveryToken checked now =>
    unfold call perform Outcome.as
    dsimp only
    exact fail_keeps jobId body clientId deliveryToken checked now
  | replayDeadLetter deadLetterId body clientId deliveryToken checked now =>
    unfold call perform Outcome.as
    dsimp only
    exact replayDeadLetter_keeps deadLetterId body clientId deliveryToken checked now
  | reconcile body requestedBy now =>
    unfold call perform Outcome.as
    dsimp only
    exact reconcile_keeps body requestedBy now

end Steps

section Runs

variable {server : Server} {lib : Library} {before rest : List Call} {c : Call} {key : Key} {dead : DeadLetterRecord}
  {deadLetterId : Uuid} {body : ReplayRequest} {clientId deliveryToken : String} {checked now : Time}

theorem after_concat (server : Server) (lib : Library) (calls : List Call) (c : Call) :
    after server lib (calls ++ [c]) = call server lib c (after server lib calls) := runFrom_concat

theorem replayed_replays (h : Replayed server lib before deadLetterId body clientId deliveryToken checked now) :
    ∃ dead approval job, Replays (after server lib before) deadLetterId body checked dead approval job ∧
      (after server lib (before ++ [Call.replayDeadLetter deadLetterId body clientId deliveryToken checked now])).deadLetters =
        (after server lib before).deadLetters.set (body.tenantId, deadLetterId) (dead.requested now) ∧
      (after server lib (before ++ [Call.replayDeadLetter deadLetterId body clientId deliveryToken checked now])).approvals =
        (after server lib before).approvals := by
  obtain ⟨job, hreply⟩ := h
  rw [after_concat]
  unfold call
  have hwrites := perform_writes server lib (.replayDeadLetter deadLetterId body clientId deliveryToken checked now)
    (after server lib before)
  generalize perform server lib (.replayDeadLetter deadLetterId body clientId deliveryToken checked now)
    (after server lib before) = x at hwrites hreply ⊢
  cases hwrites with
  | kept _ _ jobs deadLetters quiet => exact absurd hreply (quiet rfl job)
  | added _ _ _ _ other => cases other
  | moved _ _ _ _ _ other => cases other
  | replayed _ _ _ _ _ _ _ dead approval job replays jobs deadLetters approvals =>
    exact ⟨dead, approval, job, replays, deadLetters, approvals⟩

theorem dead_run (server : Server) (lib : Library) {db : Database} (hget : db.deadLetters.get key = some dead) (rest : List Call) : ∃ dead',
    (runFrom (call server lib) db rest).deadLetters.get key = some dead' ∧ dead'.jobId = dead.jobId ∧
      (dead.state ≠ .opened → dead'.state ≠ .opened) := by
  induction rest generalizing db dead with
  | nil => exact ⟨dead, hget, rfl, id⟩
  | cons c rest ih =>
    obtain ⟨dead', hget', -, hjob, hstate⟩ := dead_step server lib hget c
    obtain ⟨dead'', hget'', hjob', hstate'⟩ := ih hget'
    exact ⟨dead'', hget'', hjob'.trans hjob, fun h => hstate' (hstate h)⟩

theorem approval_run (server : Server) (lib : Library) {db : Database} {row : ApprovalRow} (hget : db.approvals.get key = some row) (rest : List Call) :
    ∃ row', (runFrom (call server lib) db rest).approvals.get key = some row' ∧ row'.record.jobId = row.record.jobId := by
  induction rest generalizing db row with
  | nil => exact ⟨row, hget, rfl⟩
  | cons c rest ih =>
    obtain ⟨row', hget', hjob⟩ := approvals_step server lib c db key row hget
    obtain ⟨row'', hget'', hjob'⟩ := ih hget'
    exact ⟨row'', hget'', hjob'.trans hjob⟩

theorem admits_approved {approval : ApprovalRecord} {time : Time} (h : approval.admits dead time = true) :
    approval.jobId = dead.jobId ∧ approval.state = .approved ∧ approval.approvalType = "REPLAY" := by
  unfold ApprovalRecord.admits at h
  simp only [Bool.and_eq_true, decide_eq_true_eq] at h
  exact ⟨h.1.1.1.1, h.1.1.2, h.1.1.1.2⟩

theorem approvals_once {deadLetterId' : Uuid} {body' : ReplayRequest} {clientId' deliveryToken' : String}
    {checked' now' : Time} {mid : List Call}
    (h : Replayed server lib before deadLetterId body clientId deliveryToken checked now)
    (h' : Replayed server lib (before ++ Call.replayDeadLetter deadLetterId body clientId deliveryToken checked now :: mid)
      deadLetterId' body' clientId' deliveryToken' checked' now') :
    (body.tenantId, body.approvalId) ≠ (body'.tenantId, body'.approvalId) := by
  intro hsame
  have htenant : body'.tenantId = body.tenantId := (congrArg Prod.fst hsame).symm
  obtain ⟨dead, approval, job, hreplays, hdead, happrovals⟩ := replayed_replays h
  obtain ⟨dead', approval', job', hreplays', -, -⟩ := replayed_replays h'
  have hsplit : before ++ Call.replayDeadLetter deadLetterId body clientId deliveryToken checked now :: mid =
      (before ++ [Call.replayDeadLetter deadLetterId body clientId deliveryToken checked now]) ++ mid := by simp
  have hafter : after server lib (before ++ Call.replayDeadLetter deadLetterId body clientId deliveryToken checked now :: mid) =
      runFrom (call server lib) (after server lib (before ++
        [.replayDeadLetter deadLetterId body clientId deliveryToken checked now])) mid := by
    rw [hsplit]
    exact runFrom_append
  rw [hafter] at hreplays'
  -- the approval is of one job, so both replays are of its dead letter
  have hget : (after server lib (before ++ [Call.replayDeadLetter deadLetterId body clientId deliveryToken checked now])).approvals.get
      (body.tenantId, body.approvalId) = some approval := by
    rw [happrovals]
    exact hreplays.approved
  obtain ⟨approval'', hget'', hjob⟩ := approval_run server lib hget mid
  rw [hsame, hreplays'.approved] at hget''
  cases hget''
  have hjobs : dead'.jobId = dead.jobId := by
    rw [← (admits_approved hreplays'.admits).1, hjob, (admits_approved hreplays.admits).1]
  have hid : deadLetterId' = deadLetterId := by
    have hsound := sound_after server lib (before ++ Call.replayDeadLetter deadLetterId body clientId deliveryToken checked now :: mid)
    rw [hafter] at hsound
    rw [hsound.filed _ _ dead' hreplays'.found, (sound_after server lib before).filed _ _ dead hreplays.found, hjobs,
      htenant]
  -- and that one is not open any more
  have hrequested : (after server lib (before ++ [Call.replayDeadLetter deadLetterId body clientId deliveryToken checked now])).deadLetters.get
      (body.tenantId, deadLetterId) = some (dead.requested now) := by
    rw [hdead]
    exact OrderedDict.get_set_self
  obtain ⟨dead'', hget'', -, hstate⟩ := dead_run server lib hrequested mid
  have hfound := hreplays'.found
  rw [hid, htenant, hget''] at hfound
  cases hfound
  exact hstate (fun h => by cases h) hreplays'.opened

end Runs

/-- The dead letters of a run stay replayable exactly if no job is buried where a dead letter already stands. -/
theorem replayable_iff (server : Server) (lib : Library) (calls : List Call) : StaysReplayable server lib calls ↔
    Always (call server lib) (fun db c => ¬ Reburies server lib db c) {} calls := by
  constructor
  · intro hkeeps
    rw [always_iff]
    rintro before c rest rfl hreburies
    obtain ⟨key, job, hget, hstate, huncovered⟩ := reburied_uncovered (sound_after server lib before) hreburies
    have hupto : before ++ [c] <+: before ++ c :: rest := ⟨rest, by simp⟩
    rw [← after_concat] at hget huncovered
    exact huncovered ((hkeeps.states _ hupto key job hget).1 hstate)
  · intro halways
    refine ⟨?_, ?_, ?_⟩
    · intro before hbefore key job hget
      have hcovered : Covered (after server lib before) :=
        (halways.take hbefore).invariant (fun _ _ h => by cases h) fun db c hdb hc => covered_step hdb hc
      constructor
      · exact hcovered key job hget
      · rintro ⟨deadLetterId, dead, hdead, hjob, hopened, -⟩
        obtain ⟨job', hget', hstate, -⟩ := (sound_after server lib before).opened _ _ dead hdead hopened
        rw [hjob, hget] at hget'
        cases hget'
        exact hstate
    · rintro before c rest key dead rfl hget
      obtain ⟨dead', hget', hversion, -, -⟩ := dead_step server lib hget c
      rw [← after_concat] at hget'
      exact ⟨dead', hget', hversion⟩
    · rintro before deadLetterId body clientId deliveryToken checked now rest rfl hreplayed
      obtain ⟨dead, approval, job, hreplays, -, -⟩ := replayed_replays hreplayed
      obtain ⟨-, hstate, htype⟩ := admits_approved hreplays.admits
      refine ⟨⟨approval, hreplays.approved, hstate, htype⟩, ?_⟩
      rintro earlier deadLetterId' body' clientId' deliveryToken' checked' now' mid rfl hreplayed'
      exact approvals_once hreplayed' hreplayed

/-! ## A job that is buried twice -/

def sampleServer : Server where
  jsonb document := some document
  holds _ := true

def secondFailure : FailureResult :=
  { sampleFailure with leaseToken := "t3codestra-automation-job:a:e:w:1:x:n8n", idempotencyKey := "failure-2" }

/-- A job fails with an unknown outcome, its dead letter is replayed under an approval, and it fails so again. -/
def buriedTwice : List Call :=
  [.enqueueEvent sampleEnvelope (sampleRoute 2 sample_attempts) "crm" "t1" 0, .claim (sampleClaim "t1") "n8n" 1,
    .fail sampleJob sampleFailure "n8n" "t2" 2 2, .requestApproval sampleApproval "n8n" "alice" 3,
    .decideApproval "a" "codestra-approval:a:codestra-automation-job:a:e:w:1:approval-1" .approved "bob" 4,
    .replayDeadLetter "codestra-dead-letter:a:codestra-automation-job:a:e:w:1" ⟨sampleReplay, "r", "replay-1", "NO_EFFECT", "again"⟩
      "n8n-operations-automation" "t3" 5 5,
    .claim (sampleClaim "t3") "n8n" 6, .fail sampleJob secondFailure "n8n" "t4" 7 7]

theorem buried_twice_states :
    let db := after sampleServer sampleLibrary buriedTwice
    ((db.jobs.get ("a", sampleJob)).map (·.state), db.deadLetters.map (·.2.state)) = (some .deadLetter, [.replayRequested]) := by
  decide +kernel

/-- The job waits in DEAD_LETTER, and no dead letter is open. -/
theorem second_failure_unreplayable : ¬ StaysReplayable sampleServer sampleLibrary buriedTwice := by
  intro h
  obtain ⟨hjob, hdead⟩ := Prod.mk.inj buried_twice_states
  obtain ⟨job, hget, hstate⟩ := Option.map_eq_some_iff.1 hjob
  obtain ⟨deadLetterId, dead, hfound, -, hopened, -⟩ := (h.states _ (List.prefix_refl _) _ job hget).1 hstate
  have hmem : dead.state ∈ (after sampleServer sampleLibrary buriedTwice).deadLetters.map (·.2.state) :=
    List.mem_map.2 ⟨_, OrderedDict.mem_of_get hfound, rfl⟩
  rw [hdead, List.mem_singleton, hopened] at hmem
  cases hmem

end Middleware.Automation.Durable
