/-
Jobs that no operation of the automation store can bring back. A job whose lease expires keeps its used delivery token, and
`reconcile` only reports it; an approval that is requested before the claim takes the job out of the states that are
claimed.
-/
import Middleware.Automation.Safety

namespace Middleware.Automation

open Lib

/-! ## What every run keeps -/

def Job.Waits (job : Job) : Prop := job.state = .pending ∨ job.state = .retryScheduled

/-- The job was claimed and goes on. -/
def Job.Ongoing (job : Job) : Prop := job.state = .claimed ∨ job.state = .running ∨ job.state = .waitingApproval

def Job.Over (job : Job) : Prop := job.state = .completed ∨ job.state = .failedTerminal ∨ job.state = .deadLetter

/-- What holds of every job in every run. -/
structure Job.Shaped (job : Job) : Prop where
  state : job.Waits ∨ job.Ongoing ∨ job.Over
  unused : job.Waits → job.deliveryTokenUsedAt = none
  leased : job.leaseExpiresAt.isSome = true → job.Ongoing

/-- The latest dispatch of every job has the job's token. -/
def Signed (s : Store) : Prop := ∀ key job, s.jobs.get key = some job →
  ∃ dispatch, s.dispatches.get key = some dispatch ∧ job.deliveryTokenSha256 = tokenDigest dispatch.deliveryToken

structure Kept (lib : Library) (s : Store) : Prop where
  signed : Signed s
  buried : Buried lib s
  shaped : ∀ key job, s.jobs.get key = some job → job.Shaped

section Kept

variable {lib : Library} {s s' : Store} {c : Call} {key : Key} {job job' : Job} {dispatch : Dispatch}

theorem Signed.dispatched (h : Signed s) : AllDispatched s := by
  intro key job hget
  obtain ⟨dispatch, hdispatch, -⟩ := h key job hget
  rw [hdispatch]
  rfl

theorem Signed.put (h : Signed s) (hget : s.jobs.get key = some job) (htoken : job'.deliveryTokenSha256 = job.deliveryTokenSha256)
    (hjobs : s'.jobs = s.jobs.set key job') (hdispatches : s'.dispatches = s.dispatches) : Signed s' := by
  intro k new hnew
  rw [hjobs, OrderedDict.get_set] at hnew
  rw [hdispatches]
  split at hnew
  · rename_i hk
    cases hnew
    rw [hk, htoken]
    exact h key job hget
  · exact h k new hnew

theorem Signed.redispatch (h : Signed s) (htoken : job'.deliveryTokenSha256 = tokenDigest dispatch.deliveryToken)
    (hjobs : s'.jobs = s.jobs.set key job') (hdispatches : s'.dispatches = s.dispatches.set key dispatch) : Signed s' := by
  intro k new hnew
  rw [hjobs, OrderedDict.get_set] at hnew
  rw [hdispatches, OrderedDict.get_set]
  split at hnew
  · rename_i hk
    cases hnew
    exact ⟨dispatch, if_pos hk, htoken⟩
  · rename_i hk
    rw [if_neg hk]
    exact h k new hnew

theorem claim_signed (h : Signed s) (body : JobClaimRequest) (clientId : String) (now : Time) :
    Signed (claim lib body clientId now s).2 := by
  unfold claim
  split
  · exact h
  rename_i job hraw
  have hget := raw_ok hraw
  obtain ⟨dispatch, hdispatch, htoken⟩ := h _ job hget
  dsimp only
  iterate 3
    split
    · exact h
  split
  · split <;> exact h
  split
  · exact h
  have hput : ∀ new : Job, (s.put (body.tenantId, body.jobId) new).dispatches = s.dispatches := fun _ => rfl
  rw [hput, hdispatch]
  refine h.redispatch ?_ rfl rfl
  exact htoken

theorem fail_signed (h : Signed s) (jobId : Uuid) (body : FailureResult) (clientId deliveryToken : String) (checked now : Time) :
    Signed (fail lib jobId body clientId deliveryToken checked now s).2 := by
  unfold fail
  split
  · exact h
  rename_i job hraw
  have hget := raw_ok hraw
  split
  · exact h
  · exact h
  split
  · exact h
  dsimp only
  split
  · exact h.redispatch rfl rfl rfl
  split
  · refine h.put hget ?_ rfl rfl
    rfl
  · refine h.put hget ?_ rfl rfl
    rfl

theorem replayDeadLetter_signed (h : Signed s) (deadLetterId : Uuid) (body : DeadLetterReplayRequest)
    (clientId deliveryToken : String) (checked now : Time) :
    Signed (replayDeadLetter deadLetterId body clientId deliveryToken checked now s).2 := by
  unfold replayDeadLetter
  split
  · exact h
  split
  · exact h
  split
  · exact h
  iterate 4
    split
    · exact h
  split
  · exact h
  exact h.redispatch rfl rfl rfl

theorem recordStep_signed (h : Signed s) (jobId : Uuid) (body : StepRecord) (clientId : String) (checked now : Time) :
    Signed (recordStep lib jobId body clientId checked now s).2 := by
  unfold recordStep
  split
  · exact h
  rename_i job hraw
  split
  · exact h
  dsimp only
  split
  · split <;> exact h
  · refine h.put (raw_ok hraw) ?_ rfl rfl
    rfl

/-- What `request_approval` leaves: the store as it was, or the job waiting under a new approval. -/
theorem requestApproval_cases (lib : Library) (s : Store) (body : ApprovalRequest) (clientId requestedBy : String) (now : Time) :
    (requestApproval lib body clientId requestedBy now s).2 = s ∨ ∃ job, s.jobs.get (body.tenantId, body.jobId) = some job ∧
      job.expectedClientId = clientId ∧ s.approvalIdempotency.get ((body.tenantId, body.jobId), body.idempotencyKey) = none ∧
      (requestApproval lib body clientId requestedBy now s).2.jobs = s.jobs.set (body.tenantId, body.jobId) (job.await now) ∧
      (requestApproval lib body clientId requestedBy now s).2.dispatches = s.dispatches := by
  unfold requestApproval
  split
  · exact .inl rfl
  rename_i job hraw
  split
  · exact .inl rfl
  rename_i hclient
  dsimp only
  split
  · split
    · exact .inl rfl
    · split <;> exact .inl rfl
  · rename_i hnew
    exact .inr ⟨job, raw_ok hraw, not_ne_iff.1 hclient, hnew, rfl, rfl⟩

theorem await_token (job : Job) (now : Time) : (job.await now).deliveryTokenSha256 = job.deliveryTokenSha256 := by
  unfold Job.await
  split <;> rfl

theorem signed_step (lib : Library) (h : Signed s) (c : Call) : Signed (call lib c s) := by
  cases c with
  | enqueueEvent envelope route sourceClientId deliveryToken now =>
    show Signed (enqueueEvent lib envelope route sourceClientId deliveryToken now s).2
    unfold enqueueEvent
    dsimp only
    split
    · exact h
    · exact h.redispatch rfl rfl rfl
  | claim body clientId now => exact claim_signed h body clientId now
  | getJob => exact h
  | heartbeat jobId body clientId checked now =>
    show Signed (heartbeat jobId body clientId checked now s).2
    unfold heartbeat
    split
    · exact h
    rename_i job hraw
    split
    · exact h
    · refine h.put (raw_ok hraw) ?_ rfl rfl
      rfl
  | recordStep jobId body clientId checked now => exact recordStep_signed h jobId body clientId checked now
  | complete jobId body clientId checked now =>
    show Signed (complete jobId body clientId checked now s).2
    unfold complete
    split
    · exact h
    rename_i job hraw
    split
    · exact h
    · exact h
    split
    · exact h
    · refine h.put (raw_ok hraw) ?_ rfl rfl
      rfl
  | fail jobId body clientId deliveryToken checked now => exact fail_signed h jobId body clientId deliveryToken checked now
  | requestApproval body clientId requestedBy now =>
    show Signed (requestApproval lib body clientId requestedBy now s).2
    rcases requestApproval_cases lib s body clientId requestedBy now with hsame | ⟨job, hget, -, -, hjobs, hdisp⟩
    · rw [hsame]
      exact h
    · exact h.put hget (await_token job now) hjobs hdisp
  | getApproval tenantId approvalId checked now =>
    show Signed (getApproval tenantId approvalId checked now s).2
    unfold getApproval
    split
    · exact h
    · split <;> exact h
  | approveForTest tenantId approvalId decidedBy now =>
    show Signed (approveForTest tenantId approvalId decidedBy now s).2
    unfold approveForTest
    split
    · exact h
    · split <;> exact h
  | replayDeadLetter deadLetterId body clientId deliveryToken checked now =>
    exact replayDeadLetter_signed h deadLetterId body clientId deliveryToken checked now
  | reconcile body requestedBy now =>
    show Signed (reconcile lib body requestedBy now s).2
    unfold reconcile
    dsimp only
    split
    · split <;> exact h
    · exact h

theorem held_leased {body : HeartbeatRequest} {clientId : String} {now : Time} (h : job.held body clientId now = true) :
    ∃ expires, job.leaseExpiresAt = some expires ∧ now < expires := by
  unfold Job.held at h
  simp only [Bool.and_eq_true, Option.any_eq_true, decide_eq_true_eq] at h
  obtain ⟨⟨-, expires, hlease, hnow⟩, -⟩ := h
  exact ⟨expires, hlease, hnow⟩

theorem Turns.shaped (h : Turns lib s c key job job') (hjob : job.Shaped) : job'.Shaped := by
  cases h with
  | buried => exact ⟨.inr (.inr (.inr (.inr rfl))), (by rintro (h | h) <;> cases h), nofun⟩
  | replayed => exact ⟨.inl (.inr rfl), fun _ => rfl, nofun⟩
  | moved c key job job' moves =>
    cases moves with
    | claimed => exact ⟨.inr (.inl (.inl rfl)), (by rintro (h | h) <;> cases h), fun _ => .inl rfl⟩
    | beaten => exact ⟨.inr (.inl (.inr (.inl rfl))), (by rintro (h | h) <;> cases h), fun _ => .inr (.inl rfl)⟩
    | stepped => exact ⟨.inr (.inl (.inr (.inl rfl))), (by rintro (h | h) <;> cases h), fun _ => .inr (.inl rfl)⟩
    | completed => exact ⟨.inr (.inr (.inl rfl)), (by rintro (h | h) <;> cases h), nofun⟩
    | retried => exact ⟨.inl (.inr rfl), fun _ => rfl, nofun⟩
    | failed => exact ⟨.inr (.inr (.inr (.inl rfl))), (by rintro (h | h) <;> cases h), nofun⟩
    | awaited body clientId requestedBy now job =>
      unfold Job.await
      split
      · exact hjob
      · exact ⟨.inr (.inl (.inr (.inr rfl))), (by rintro (h | h) <;> cases h), fun _ => .inr (.inr rfl)⟩

theorem enqueue_shaped (lib : Library) (h : ∀ key job, s.jobs.get key = some job → job.Shaped) (envelope : EventEnvelope) (route : WorkflowRoute)
    (sourceClientId deliveryToken : String) (now : Time) : ∀ key job,
    (enqueueEvent lib envelope route sourceClientId deliveryToken now s).2.jobs.get key = some job → job.Shaped := by
  intro key job hget
  unfold enqueueEvent at hget
  dsimp only at hget
  split at hget
  · exact h key job hget
  · dsimp only [Store.put] at hget
    rw [OrderedDict.get_set] at hget
    split at hget
    · cases hget
      exact ⟨.inl (.inl rfl), fun _ => rfl, fun h => by cases h⟩
    · exact h key job hget

theorem shaped_step (lib : Library) (h : Kept lib s) (c : Call) :
    ∀ key job, (call lib c s).jobs.get key = some job → job.Shaped := by
  have hset : ∀ {s' : Store} {k : Key} {new : Job}, s'.jobs = s.jobs.set k new → new.Shaped →
      ∀ key job, s'.jobs.get key = some job → job.Shaped := by
    intro s' k new hjobs hnew key job hget
    rw [hjobs, OrderedDict.get_set] at hget
    split at hget
    · cases hget
      exact hnew
    · exact h.shaped key job hget
  unfold call
  have hperforms := perform_performs lib c s
  generalize hx : perform lib c s = x at hperforms ⊢
  cases hperforms with
  | refused => exact h.shaped
  | broken body clientId now s' job found missing =>
    obtain ⟨dispatch, hdispatch, -⟩ := h.signed _ job found
    rw [missing] at hdispatch
    cases hdispatch
  | answered _ _ s' other jobs =>
    intro key job hget
    rw [jobs] at hget
    exact h.shaped key job hget
  | repeated => exact h.shaped
  | enqueued envelope route sourceClientId deliveryToken now k new s' =>
    have hsame : (perform lib (.enqueueEvent envelope route sourceClientId deliveryToken now) s).2 = s' := congrArg Prod.snd hx
    intro key job hget
    refine enqueue_shaped lib h.shaped envelope route sourceClientId deliveryToken now key job ?_
    rw [← hget, ← hsame]
    rfl
  | moved _ reply key job job' s' found moves jobs =>
    have hturns : Turns lib s _ key job job' := .moved _ key job job' moves
    exact hset jobs (hturns.shaped (h.shaped key job found))
  | buried jobId body clientId deliveryToken checked now reply job job' s' found held state buried jobs =>
    subst buried
    have hturns : Turns lib s _ _ job _ := .buried jobId body clientId deliveryToken checked now job held
    exact hset jobs (hturns.shaped (h.shaped _ job found))
  | replayed deadLetterId body clientId deliveryToken checked now reply dead job s' replayable jobs =>
    have hturns : Turns lib s _ _ job _ := .replayed deadLetterId body clientId deliveryToken checked now dead job replayable
    exact hset jobs (hturns.shaped (h.shaped _ job replayable.job))

theorem kept_step (lib : Library) (h : Kept lib s) (c : Call) : Kept lib (call lib c s) :=
  ⟨signed_step lib h.signed c, buried_step h.signed.dispatched h.buried c, shaped_step lib h c⟩

theorem kept_after (lib : Library) (calls : List Call) : Kept lib (after lib calls) :=
  runFrom_invariant ⟨fun _ _ h => (by cases h), fun _ _ _ h => (by cases h), fun _ _ h => (by cases h)⟩
    fun _ c h => kept_step lib h c

end Kept

/-! ## Recovery -/

def Call.readings : Call → List Time
  | .enqueueEvent _ _ _ _ now => [now]
  | .claim _ _ now => [now]
  | .getJob .. => []
  | .heartbeat _ _ _ checked now => [checked, now]
  | .recordStep _ _ _ checked now => [checked, now]
  | .complete _ _ _ checked now => [checked, now]
  | .fail _ _ _ _ checked now => [checked, now]
  | .requestApproval _ _ _ now => [now]
  | .getApproval _ _ checked now => [checked, now]
  | .approveForTest _ _ _ now => [now]
  | .replayDeadLetter _ _ _ _ checked now => [checked, now]
  | .reconcile _ _ now => [now]

/-- The operations that may bring a job back: claims, reconciliations, approvals and replays. -/
def Call.recovers : Call → Bool
  | .claim .. | .requestApproval .. | .getApproval .. | .approveForTest .. | .replayDeadLetter .. | .reconcile .. => true
  | .enqueueEvent .. | .getJob .. | .heartbeat .. | .recordStep .. | .complete .. | .fail .. => false

/-- Some operations from a time on bring the job to CLAIMED, by a new claim. -/
def Recoverable (lib : Library) (s : Store) (now : Time) (key : Key) : Prop :=
  ∃ more job job', (∀ c ∈ more, c.recovers = true ∧ ∀ t ∈ c.readings, now ≤ t) ∧ s.jobs.get key = some job ∧
    (runFrom (call lib) s more).jobs.get key = some job' ∧ job'.state = .claimed ∧ job.attemptCount < job'.attemptCount

def NoneStranded (lib : Library) (s : Store) (now : Time) : Prop :=
  ∀ key job, s.jobs.get key = some job → job.state ≠ .completed → job.state ≠ .failedTerminal → job.state ≠ .deadLetter →
    (∃ expires, job.leaseExpiresAt = some expires ∧ now < expires) ∨ Recoverable lib s now key

/-- An approval that the store takes for a job that waits for its claim. -/
def Diverts (s : Store) : Call → Prop
  | .requestApproval body clientId _ _ => ∃ job, s.jobs.get (body.tenantId, body.jobId) = some job ∧
      job.expectedClientId = clientId ∧ s.approvalIdempotency.get ((body.tenantId, body.jobId), body.idempotencyKey) = none ∧
      job.Waits
  | .enqueueEvent .. | .claim .. | .getJob .. | .heartbeat .. | .recordStep .. | .complete .. | .fail .. | .getApproval ..
  | .approveForTest .. | .replayDeadLetter .. | .reconcile .. => False

/-- The job is under way and has no lease that a call at the time could present. -/
structure Job.Stuck (job : Job) (now : Time) : Prop where
  ongoing : job.Ongoing
  expired : ∀ expires, job.leaseExpiresAt = some expires → expires ≤ now

section Stuck

variable {lib : Library} {s : Store} {c : Call} {key : Key} {job job' : Job} {now : Time}

theorem Job.Ongoing.not_waits (h : job.Ongoing) : ¬ job.Waits := by
  rintro (hw | hw) <;> rcases h with h | h | h <;> rw [hw] at h <;> cases h

theorem Job.Ongoing.not_over (h : job.Ongoing) : ¬ job.Over := by
  rintro (ho | ho | ho) <;> rcases h with h | h | h <;> rw [ho] at h <;> cases h

theorem Job.Stuck.unheld (h : job.Stuck now) {body : HeartbeatRequest} {clientId : String} {checked : Time} (hnow : now ≤ checked) :
    job.held body clientId checked = false := by
  by_contra hheld
  rw [Bool.not_eq_false] at hheld
  obtain ⟨expires, hlease, hlt⟩ := held_leased hheld
  have hle := h.expired expires hlease
  exact absurd (lt_of_lt_of_le hlt hle) (not_lt.2 hnow)

theorem Turns.stuck (hb : Buried lib s) (hget : s.jobs.get key = some job) (h : Turns lib s c key job job') (hjob : job.Stuck now)
    (hreadings : ∀ t ∈ c.readings, now ≤ t) : job'.Stuck now ∧ job'.attemptCount = job.attemptCount := by
  have hidle : ∀ {body : HeartbeatRequest} {clientId : String} {checked : Time}, checked ∈ c.readings →
      job.held body clientId checked = true → False := by
    intro body clientId checked hmem hheld
    rw [hjob.unheld (hreadings checked hmem)] at hheld
    cases hheld
  cases h with
  | buried jobId body clientId deliveryToken checked now' job held => exact (hidle (by simp [Call.readings]) held).elim
  | replayed deadLetterId body clientId deliveryToken checked now' dead job replayable =>
    obtain ⟨old, hold, hdead⟩ := (hb _ _ dead replayable.found).2 replayable.opened
    rw [hget] at hold
    cases hold
    exact (hjob.ongoing.not_over (.inr (.inr hdead))).elim
  | moved c key job job' moves =>
    cases moves with
    | claimed body clientId now' job signed unused waiting => exact (hjob.ongoing.not_waits waiting).elim
    | beaten jobId body clientId checked now' job held => exact (hidle (by simp [Call.readings]) held).elim
    | stepped jobId body clientId checked now' job held => exact (hidle (by simp [Call.readings]) held).elim
    | completed jobId body clientId checked now' job held => exact (hidle (by simp [Call.readings]) held).elim
    | retried jobId body clientId deliveryToken checked now' job held => exact (hidle (by simp [Call.readings]) held).elim
    | failed jobId body clientId deliveryToken checked now' job held => exact (hidle (by simp [Call.readings]) held).elim
    | awaited body clientId requestedBy now' job =>
      unfold Job.await
      split
      · exact ⟨hjob, rfl⟩
      · exact ⟨⟨.inr (.inr rfl), hjob.expired⟩, rfl⟩

theorem stuck_step (h : Kept lib s) (hget : s.jobs.get key = some job) (hjob : job.Stuck now) (c : Call)
    (hreadings : ∀ t ∈ c.readings, now ≤ t) :
    ∃ job', (call lib c s).jobs.get key = some job' ∧ job'.Stuck now ∧ job'.attemptCount = job.attemptCount := by
  obtain ⟨hchanges, -, -⟩ := call_changes lib h.signed.dispatched c
  cases hchanges with
  | kept jobs => exact ⟨job, by rw [jobs]; exact hget, hjob, rfl⟩
  | turned k old new found turns jobs =>
    rw [jobs, OrderedDict.get_set]
    by_cases hk : key = k
    · subst hk
      rw [hget] at found
      cases found
      obtain ⟨hstuck, hcount⟩ := turns.stuck h.buried hget hjob hreadings
      exact ⟨new, if_pos rfl, hstuck, hcount⟩
    · exact ⟨job, by rw [if_neg hk]; exact hget, hjob, rfl⟩
  | added k new hnone enqueued jobs =>
    rw [jobs, OrderedDict.get_set]
    by_cases hk : key = k
    · rw [hk, hnone] at hget
      cases hget
    · exact ⟨job, by rw [if_neg hk]; exact hget, hjob, rfl⟩

theorem stuck_run {calls : List Call} (h : Kept lib s) (hget : s.jobs.get key = some job) (hjob : job.Stuck now)
    (hreadings : ∀ c ∈ calls, ∀ t ∈ c.readings, now ≤ t) :
    ∃ job', (runFrom (call lib) s calls).jobs.get key = some job' ∧ job'.Stuck now ∧ job'.attemptCount = job.attemptCount := by
  induction calls generalizing s job with
  | nil => exact ⟨job, hget, hjob, rfl⟩
  | cons c calls ih =>
    obtain ⟨job', hget', hstuck, hcount⟩ := stuck_step h hget hjob c (hreadings c List.mem_cons_self)
    obtain ⟨job'', hget'', hstuck', hcount'⟩ := ih (kept_step lib h c) hget' hstuck
      fun d hd => hreadings d (List.mem_cons_of_mem c hd)
    exact ⟨job'', hget'', hstuck', hcount'.trans hcount⟩

/-- No operation brings back a job that is stuck. -/
theorem stuck_unrecoverable (h : Kept lib s) (hget : s.jobs.get key = some job) (hjob : job.Stuck now) :
    ¬ Recoverable lib s now key := by
  rintro ⟨more, old, new, hmore, hold, hnew, -, hcount⟩
  rw [hget] at hold
  cases hold
  obtain ⟨job', hget', -, hsame⟩ := stuck_run h hget hjob fun c hc => (hmore c hc).2
  rw [hnew] at hget'
  cases hget'
  omega

/-- A job that waits is claimed with the token of its latest dispatch. -/
theorem waiting_recoverable (h : Kept lib s) {tenantId : String} {jobId : Uuid} (hget : s.jobs.get (tenantId, jobId) = some job)
    (hwaits : job.Waits) (now : Time) : Recoverable lib s now (tenantId, jobId) := by
  obtain ⟨dispatch, hdispatch, htoken⟩ := h.signed _ job hget
  have hunused := (h.shaped _ job hget).unused hwaits
  have hraw : s.raw tenantId jobId = .ok job := by
    unfold Store.raw
    rw [hget]
  have hput : ∀ new : Job, (s.put (tenantId, jobId) new).dispatches = s.dispatches := fun _ => rfl
  have hstate : ¬ (job.state ≠ .pending ∧ job.state ≠ .retryScheduled) := by
    rintro ⟨hp, hr⟩
    rcases hwaits with hw | hw
    · exact hp hw
    · exact hr hw
  refine ⟨[.claim ⟨tenantId, jobId, dispatch.deliveryToken, job.workflowKey, job.workflowVersion, jobId⟩ job.expectedClientId now],
    job, job.claimed (tokenDigest (leaseToken lib dispatch.deliveryToken jobId jobId job.expectedClientId)) job.expectedClientId
      jobId now, ?_, hget, ?_, rfl, Nat.lt_succ_self _⟩
  · intro c hc
    rw [List.mem_singleton.1 hc]
    exact ⟨rfl, fun t ht => by rw [List.mem_singleton.1 ht]⟩
  · show (claim lib _ job.expectedClientId now s).2.jobs.get (tenantId, jobId) = _
    unfold claim
    rw [hraw]
    dsimp only
    rw [if_neg (by simp), if_neg (by simp), if_neg (by simp [htoken]), if_neg (by simp [hunused]), if_neg hstate, hput, hdispatch]
    exact OrderedDict.get_set_self

end Stuck

/-! ## Runs -/

section Runs

variable {lib : Library} {s : Store} {calls : List Call} {c : Call} {key : Key} {job : Job} {now : Time}

/-- Every job that is under way has a lease. -/
def Undiverted (s : Store) : Prop := ∀ key job, s.jobs.get key = some job → job.Ongoing → job.leaseExpiresAt.isSome = true

theorem Turns.undiverted {job' : Job} (h : Turns lib s c key job job')
    (hc : ∀ body clientId requestedBy now, c ≠ .requestApproval body clientId requestedBy now) :
    job'.Ongoing → job'.leaseExpiresAt.isSome = true := by
  cases h with
  | buried => rintro (h | h | h) <;> cases h
  | replayed => rintro (h | h | h) <;> cases h
  | moved c key job job' moves =>
    cases moves with
    | claimed => exact fun _ => rfl
    | beaten => exact fun _ => rfl
    | stepped jobId body clientId checked now job held =>
      obtain ⟨expires, hlease, -⟩ := held_leased held
      intro _
      show job.leaseExpiresAt.isSome = true
      rw [hlease]
      rfl
    | completed => rintro (h | h | h) <;> cases h
    | retried => rintro (h | h | h) <;> cases h
    | failed => rintro (h | h | h) <;> cases h
    | awaited body clientId requestedBy now job => exact absurd rfl (hc body clientId requestedBy now)

theorem undiverted_step (h : Kept lib s) (hu : Undiverted s) (c : Call) (hc : ¬ Diverts s c) : Undiverted (call lib c s) := by
  have hset : ∀ {s' : Store} {k : Key} {new : Job}, s'.jobs = s.jobs.set k new →
      (new.Ongoing → new.leaseExpiresAt.isSome = true) → Undiverted s' := by
    intro s' k new hjobs hnew key job hget
    rw [hjobs, OrderedDict.get_set] at hget
    split at hget
    · cases hget
      exact hnew
    · exact hu key job hget
  by_cases happroval : ∃ body clientId requestedBy now, c = .requestApproval body clientId requestedBy now
  · obtain ⟨body, clientId, requestedBy, now, rfl⟩ := happroval
    show Undiverted (requestApproval lib body clientId requestedBy now s).2
    rcases requestApproval_cases lib s body clientId requestedBy now with hsame | ⟨job, hget, hclient, hnew, hjobs, -⟩
    · rw [hsame]
      exact hu
    · refine hset hjobs ?_
      unfold Job.await
      split
      · exact hu _ job hget
      · -- the job is not settled, and does not wait for its claim
        rename_i hsettled
        rcases (h.shaped _ job hget).state with hwaits | hongoing | hover
        · exact absurd ⟨job, hget, hclient, hnew, hwaits⟩ hc
        · exact fun _ => hu _ job hget hongoing
        · refine absurd ?_ hsettled
          rcases hover with ho | ho | ho <;> rw [ho] <;> rfl
  · obtain ⟨hchanges, -, -⟩ := call_changes lib h.signed.dispatched c
    cases hchanges with
    | kept jobs =>
      intro key job hget
      rw [jobs] at hget
      exact hu key job hget
    | turned k old new found turns jobs =>
      exact hset jobs (turns.undiverted fun body clientId requestedBy now heq =>
        happroval ⟨body, clientId, requestedBy, now, heq⟩)
    | added k new hnone enqueued jobs =>
      refine hset jobs fun hongoing => ?_
      exact absurd (.inl enqueued.pending) hongoing.not_waits

theorem undiverted_run (h : Always (call lib) (fun s c => ¬ Diverts s c) {} calls) : Undiverted (after lib calls) := by
  have hboth : Kept lib (after lib calls) ∧ Undiverted (after lib calls) := by
    refine h.invariant (I := fun s => Kept lib s ∧ Undiverted s) ⟨kept_after lib [], fun _ _ h => (by cases h)⟩ ?_
    rintro s c ⟨hk, hu⟩ hc
    exact ⟨kept_step lib hk c, undiverted_step hk hu c hc⟩
  exact hboth.2

theorem diverted_stuck (h : Kept lib s) (hc : Diverts s c) (now : Time) :
    ∃ key job, (call lib c s).jobs.get key = some job ∧ job.Stuck now ∧ job.leaseExpiresAt = none := by
  cases c with
  | requestApproval body clientId requestedBy t =>
    obtain ⟨job, hget, hclient, hnew, hwaits⟩ := hc
    have hlease : job.leaseExpiresAt = none := by
      rw [← Option.not_isSome_iff_eq_none]
      exact fun hsome => ((h.shaped _ job hget).leased hsome).not_waits hwaits
    have hawait : job.await t = { job with
        state := .waitingApproval
        resourceVersion := job.resourceVersion + 1
        updatedAt := t } := by
      exact if_neg (by rcases hwaits with hw | hw <;> rw [hw] <;> decide)
    have hraw : s.raw body.tenantId body.jobId = .ok job := by
      unfold Store.raw
      rw [hget]
    refine ⟨(body.tenantId, body.jobId), job.await t, ?_, ?_, ?_⟩
    · show (requestApproval lib body clientId requestedBy t s).2.jobs.get _ = _
      unfold requestApproval
      rw [hraw]
      dsimp only
      rw [if_neg (not_not.2 hclient), hnew]
      exact OrderedDict.get_set_self
    · rw [hawait]
      refine ⟨.inr (.inr rfl), fun expires hexpires => ?_⟩
      have hsome : job.leaseExpiresAt = some expires := hexpires
      rw [hlease] at hsome
      cases hsome
    · rw [hawait]
      exact hlease
  | enqueueEvent => exact hc.elim
  | claim => exact hc.elim
  | getJob => exact hc.elim
  | heartbeat => exact hc.elim
  | recordStep => exact hc.elim
  | complete => exact hc.elim
  | fail => exact hc.elim
  | getApproval => exact hc.elim
  | approveForTest => exact hc.elim
  | replayDeadLetter => exact hc.elim
  | reconcile => exact hc.elim

theorem stuck_stranded (h : Kept lib s) (hget : s.jobs.get key = some job) (hjob : job.Stuck now) : ¬ NoneStranded lib s now := by
  intro hnone
  have hover := hjob.ongoing.not_over
  rcases hnone key job hget (fun h => hover (.inl h)) (fun h => hover (.inr (.inl h))) (fun h => hover (.inr (.inr h))) with
    ⟨expires, hlease, hlt⟩ | hrecoverable
  · exact absurd hlt (not_lt.2 (hjob.expired expires hlease))
  · exact stuck_unrecoverable h hget hjob hrecoverable

end Runs

/-- No job is stranded after a run exactly if no approval was requested for a job before its claim, and no lease has
expired. -/
theorem stranded_iff (lib : Library) (calls : List Call) (now : Time) : NoneStranded lib (after lib calls) now ↔
    Always (call lib) (fun s c => ¬ Diverts s c) {} calls ∧
      ∀ key job expires, (after lib calls).jobs.get key = some job → job.leaseExpiresAt = some expires → now < expires := by
  constructor
  · intro hnone
    constructor
    · rw [always_iff]
      rintro before c rest rfl hdiverts
      -- the job is stuck at every time, so also at one before all readings
      obtain ⟨first, hfirst⟩ := (List.finite_toSet (now :: rest.flatMap Call.readings)).bddBelow
      obtain ⟨key, job, hget, hstuck, -⟩ := diverted_stuck (kept_after lib before) hdiverts first
      obtain ⟨job', hget', hstuck', -⟩ := stuck_run (kept_step lib (kept_after lib before) c) hget hstuck fun d hd t ht =>
        hfirst (List.mem_cons_of_mem _ (List.mem_flatMap.2 ⟨d, hd, ht⟩))
      have hafter : after lib (before ++ c :: rest) = runFrom (call lib) (call lib c (after lib before)) rest := runFrom_append
      rw [← hafter] at hget'
      refine stuck_stranded (kept_after lib _) hget' ⟨hstuck'.ongoing, fun expires hlease => ?_⟩ hnone
      exact le_trans (hstuck'.expired expires hlease) (hfirst List.mem_cons_self)
    · intro key job expires hget hlease
      by_contra hexpired
      refine stuck_stranded (kept_after lib calls) hget ⟨?_, fun e he => ?_⟩ hnone
      · exact ((kept_after lib calls).shaped key job hget).leased (by rw [hlease]; rfl)
      · rw [hlease] at he
        cases he
        exact not_lt.1 hexpired
  · rintro ⟨hundiverted, hunexpired⟩ ⟨tenantId, jobId⟩ job hget hcompleted hfailed hdead
    rcases ((kept_after lib calls).shaped _ job hget).state with hwaits | hongoing | hover
    · exact .inr (waiting_recoverable (kept_after lib calls) hget hwaits now)
    · obtain ⟨expires, hlease⟩ := Option.isSome_iff_exists.1 (undiverted_run hundiverted _ job hget hongoing)
      exact .inl ⟨expires, hlease, hunexpired _ job expires hget hlease⟩
    · rcases hover with ho | ho | ho
      · exact absurd ho hcompleted
      · exact absurd ho hfailed
      · exact absurd ho hdead

/-! ## An executor that stops -/

/-- A job is claimed at instant 1, and its executor stops: a minute later the job is stranded. -/
theorem expired_job_stranded : ¬ NoneStranded sampleLibrary (after sampleLibrary ((sampleRun 2 (by decide)).take 2)) 60000001 := by
  intro hnone
  have hlease : ((after sampleLibrary ((sampleRun 2 (by decide)).take 2)).jobs.get ("a", sampleJob)).map
      (fun job => (job.state, job.leaseExpiresAt)) = some (.claimed, some 60000001) := by decide +kernel
  rcases hget : (after sampleLibrary ((sampleRun 2 (by decide)).take 2)).jobs.get ("a", sampleJob) with _ | job
  · rw [hget] at hlease
    cases hlease
  · rw [hget, Option.map_some, Option.some.injEq, Prod.mk.injEq] at hlease
    refine stuck_stranded (kept_after sampleLibrary _) hget ⟨.inl hlease.1, fun expires he => ?_⟩ hnone
    rw [hlease.2] at he
    cases he
    exact le_refl _

end Middleware.Automation
