/-
Leases over whole runs of the automation store. A delivery token is handed to one client for one execution; what is done
under a lease needs the lease; a job that is settled stays so, but for the replay of its dead letter. The replay does not
reset the attempts, so a job that has used them all is claimed once too often.
-/
import Middleware.Automation.Effects

namespace Middleware.Automation

open Lib

abbrev after (lib : Library) (calls : List Call) : Store := runFrom (call lib) {} calls

def Call.draws : Call → List String
  | .enqueueEvent _ _ _ deliveryToken _ => [deliveryToken]
  | .fail _ _ _ deliveryToken _ _ => [deliveryToken]
  | .replayDeadLetter _ _ _ deliveryToken _ _ => [deliveryToken]
  | .claim .. | .getJob .. | .heartbeat .. | .recordStep .. | .complete .. | .requestApproval .. | .getApproval ..
  | .approveForTest .. | .reconcile .. => []

def draws (calls : List Call) : List String := calls.flatMap Call.draws

/-- No token is drawn twice, and the tokens have different digests. -/
structure Fresh (calls : List Call) : Prop where
  nodup : (draws calls).Nodup
  collisionFree : Set.InjOn tokenDigest {token | token ∈ draws calls}

inductive Turns (lib : Library) (s : Store) : Call → Key → Job → Job → Prop
  | moved (c : Call) (key : Key) (job job' : Job) (moves : Moves lib c key job job') : Turns lib s c key job job'
  | buried (jobId : Uuid) (body : FailureResult) (clientId deliveryToken : String) (checked now : Time) (job : Job)
      (held : job.held body.toHeartbeatRequest clientId checked = true) :
      Turns lib s (.fail jobId body clientId deliveryToken checked now) (body.tenantId, jobId) job
        (job.terminal .deadLetter none (some body.errorCode) body.idempotencyKey body.digest now)
  | replayed (deadLetterId : Uuid) (body : DeadLetterReplayRequest) (clientId deliveryToken : String) (checked now : Time)
      (dead : DeadLetterRecord) (job : Job) (replayable : Replayable s deadLetterId body clientId checked dead job) :
      Turns lib s (.replayDeadLetter deadLetterId body clientId deliveryToken checked now) (body.tenantId, dead.jobId) job
        (job.replayed deliveryToken now)

structure Enqueued (c : Call) (job : Job) : Prop where
  signed : ∃ token ∈ c.draws, job.deliveryTokenSha256 = tokenDigest token
  unused : job.deliveryTokenUsedAt = none
  pending : job.state = .pending
  count : job.attemptCount = 0
  bound : 1 ≤ job.maxAttempts

inductive Changes (lib : Library) (s : Store) (c : Call) (s' : Store) : Prop
  | kept (jobs : s'.jobs = s.jobs)
  | turned (key : Key) (job job' : Job) (found : s.jobs.get key = some job) (turns : Turns lib s c key job job')
      (jobs : s'.jobs = s.jobs.set key job')
  | added (key : Key) (job : Job) (new : s.jobs.get key = none) (enqueued : Enqueued c job) (jobs : s'.jobs = s.jobs.set key job)

structure Standing (lib : Library) (calls : List Call) (s : Store) : Prop where
  dispatched : ∀ key job, s.jobs.get key = some job → (s.dispatches.get key).isSome = true
  signed : ∀ key job, s.jobs.get key = some job → ∃ token ∈ draws calls, job.deliveryTokenSha256 = tokenDigest token
  distinct : ∀ key key' job job', s.jobs.get key = some job → s.jobs.get key' = some job' →
    job.deliveryTokenSha256 = job'.deliveryTokenSha256 → key = key'
  buried : ∀ tenantId deadLetterId dead, s.deadLetters.get (tenantId, deadLetterId) = some dead →
    deadLetterId = deadLetterIdOf lib tenantId dead.jobId ∧
    (dead.state = .opened → ∃ job, s.jobs.get (tenantId, dead.jobId) = some job ∧ job.state = .deadLetter)

section Draws

variable {calls more : List Call} {c : Call}

theorem draws_append (calls more : List Call) : draws (calls ++ more) = draws calls ++ draws more := by
  simp [draws, List.flatMap_append]

theorem Fresh.left (h : Fresh (calls ++ more)) : Fresh calls := by
  obtain ⟨hn, hfree⟩ := h
  refine ⟨?_, hfree.mono fun token htoken => ?_⟩
  · rw [draws_append] at hn
    exact (List.nodup_append.1 hn).1
  · rw [draws_append]
    exact List.mem_append_left _ htoken

theorem Fresh.new (h : Fresh (calls ++ [c])) {token token' : String} (hc : token ∈ c.draws) (htoken' : token' ∈ draws calls) :
    tokenDigest token ≠ tokenDigest token' := by
  have hdraws : draws (calls ++ [c]) = draws calls ++ c.draws := by simp [draws]
  intro heq
  have hsame : token = token' := by
    refine h.collisionFree ?_ ?_ heq
    · rw [hdraws]
      exact List.mem_append_right _ hc
    · rw [hdraws]
      exact List.mem_append_left _ htoken'
  have hn := h.nodup
  rw [hdraws] at hn
  exact (List.nodup_append.1 hn).2.2 token' htoken' token hc hsame.symm

end Draws

/-! ## One step -/

variable {clientId : String}

section Steps

variable {lib : Library} {s : Store} {c : Call} {key : Key} {job job' : Job} {calls : List Call}

theorem held_active {body : HeartbeatRequest} {now : Time} (h : job.held body clientId now = true) :
    job.state ∈ activeStates := by
  unfold Job.held at h
  simp only [Bool.and_eq_true, List.contains_eq_mem, decide_eq_true_eq] at h
  exact h.2

theorem Moves.settled (h : Moves lib c key job job') (hs : job.state ∈ settledStates) : job' = job := by
  have hidle : ∀ {body : HeartbeatRequest} {clientId : String} {now : Time}, job.held body clientId now = true → False := by
    intro body clientId now hheld
    have hactive := held_active hheld
    cases hstate : job.state <;> simp [hstate, settledStates, activeStates] at hs hactive
  cases h with
  | claimed body clientId now job signed unused waiting =>
    rcases waiting with hw | hw <;> simp [hw, settledStates] at hs
  | beaten jobId body clientId checked now job held => exact (hidle held).elim
  | stepped jobId body clientId checked now job held => exact (hidle held).elim
  | completed jobId body clientId checked now job held => exact (hidle held).elim
  | retried jobId body clientId deliveryToken checked now job held => exact (hidle held).elim
  | failed jobId body clientId deliveryToken checked now job held => exact (hidle held).elim
  | awaited body clientId requestedBy now job =>
    unfold Job.await
    rw [if_pos (by simpa using hs)]

theorem Turns.settled (h : Turns lib s c key job job') (hs : job.state ∈ settledStates) : job' = job ∨
    ∃ deadLetterId body clientId deliveryToken checked now dead,
      c = .replayDeadLetter deadLetterId body clientId deliveryToken checked now ∧ key = (body.tenantId, dead.jobId) ∧
      Replayable s deadLetterId body clientId checked dead job := by
  cases h with
  | moved c key job job' moves => exact .inl (moves.settled hs)
  | buried jobId body clientId deliveryToken checked now job held =>
    have hactive := held_active held
    cases hstate : job.state <;> simp [hstate, settledStates, activeStates] at hs hactive
  | replayed deadLetterId body clientId deliveryToken checked now dead job replayable =>
    exact .inr ⟨deadLetterId, body, clientId, deliveryToken, checked, now, dead, rfl, rfl, replayable⟩

/-- A job keeps the token it was claimed with, or gets a new one. -/
theorem Turns.token (h : Turns lib s c key job job') :
    (job'.deliveryTokenSha256 = job.deliveryTokenSha256 ∧ (job.deliveryTokenUsedAt.isSome = true →
      job'.deliveryTokenUsedAt.isSome = true ∧ job'.executionId = job.executionId ∧ job'.leaseClientId = job.leaseClientId)) ∨
    ∃ token ∈ c.draws, job'.deliveryTokenSha256 = tokenDigest token := by
  cases h with
  | buried => exact .inl ⟨rfl, fun hused => ⟨hused, rfl, rfl⟩⟩
  | replayed => exact .inr ⟨_, List.mem_cons_self, rfl⟩
  | moved c key job job' moves =>
    cases moves with
    | claimed body clientId now job signed unused =>
      refine .inl ⟨rfl, fun hused => ?_⟩
      rw [unused] at hused
      cases hused
    | retried => exact .inr ⟨_, List.mem_cons_self, rfl⟩
    | awaited body clientId requestedBy now job =>
      refine .inl ?_
      unfold Job.await
      split <;> exact ⟨rfl, fun hused => ⟨hused, rfl, rfl⟩⟩
    | beaten => exact .inl ⟨rfl, fun hused => ⟨hused, rfl, rfl⟩⟩
    | stepped => exact .inl ⟨rfl, fun hused => ⟨hused, rfl, rfl⟩⟩
    | completed => exact .inl ⟨rfl, fun hused => ⟨hused, rfl, rfl⟩⟩
    | failed => exact .inl ⟨rfl, fun hused => ⟨hused, rfl, rfl⟩⟩

def AllDispatched (s : Store) : Prop := ∀ key job, s.jobs.get key = some job → (s.dispatches.get key).isSome = true

theorem call_changes (lib : Library) (h : AllDispatched s) (c : Call) : Changes lib s c (call lib c s) ∧
    Dispatched s (call lib c s) ∧ (∀ key job, (call lib c s).jobs.get key = some job → s.jobs.get key = none →
      ((call lib c s).dispatches.get key).isSome = true) := by
  have hkept : ∀ {s' : Store}, s'.jobs = s.jobs → ∀ key job, s'.jobs.get key = some job → s.jobs.get key = none →
      (s'.dispatches.get key).isSome = true := by
    intro s' hjobs key job hget hnone
    rw [hjobs, hnone] at hget
    cases hget
  have hset : ∀ {s' : Store} {k : Key} {old new : Job}, s.jobs.get k = some old → s'.jobs = s.jobs.set k new →
      ∀ key job, s'.jobs.get key = some job → s.jobs.get key = none → (s'.dispatches.get key).isSome = true := by
    intro s' k old new hold hjobs key job hget hnone
    rw [hjobs, OrderedDict.get_set] at hget
    split at hget
    · rename_i hk
      rw [hk, hold] at hnone
      cases hnone
    · rw [hnone] at hget
      cases hget
  unfold call
  have hperforms := perform_performs lib c s
  generalize perform lib c s = x at hperforms ⊢
  cases hperforms with
  | refused => exact ⟨.kept rfl, dispatched_refl s, hkept rfl⟩
  | broken body clientId now s' job found missing =>
    have hdispatched := h _ job found
    rw [missing] at hdispatched
    cases hdispatched
  | answered _ _ s' other jobs deadLetters dispatches =>
    exact ⟨.kept jobs, fun key hkey => by rw [dispatches]; exact hkey, hkept jobs⟩
  | repeated => exact ⟨.kept rfl, dispatched_refl s, hkept rfl⟩
  | enqueued envelope route sourceClientId deliveryToken now key job s' new signed unused pending count bound jobs deadLetters
      dispatches dispatched =>
    refine ⟨.added key job new ⟨⟨deliveryToken, List.mem_cons_self, signed⟩, unused, pending, count, bound⟩ jobs, dispatches, ?_⟩
    intro key' job' hget hnone
    rw [jobs, OrderedDict.get_set] at hget
    split at hget
    · rename_i hk
      rw [hk]
      exact dispatched
    · rw [hnone] at hget
      cases hget
  | moved _ reply key job job' s' found moves jobs deadLetters dispatches =>
    exact ⟨.turned key job job' found (.moved _ key job job' moves) jobs, dispatches, hset found jobs⟩
  | buried jobId body clientId deliveryToken checked now reply job job' s' found held state buried jobs deadLetters dispatches =>
    subst buried
    exact ⟨.turned _ job _ found (.buried jobId body clientId deliveryToken checked now job held) jobs, dispatches,
      hset found jobs⟩
  | replayed deadLetterId body clientId deliveryToken checked now reply dead job s' replayable jobs deadLetters dispatches =>
    exact ⟨.turned _ job _ replayable.job
      (.replayed deadLetterId body clientId deliveryToken checked now dead job replayable) jobs, dispatches,
      hset replayable.job jobs⟩

/-- A dead letter that is open is that of a job in DEAD_LETTER. -/
def Buried (lib : Library) (s : Store) : Prop :=
  ∀ tenantId deadLetterId dead, s.deadLetters.get (tenantId, deadLetterId) = some dead →
    deadLetterId = deadLetterIdOf lib tenantId dead.jobId ∧
    (dead.state = .opened → ∃ job, s.jobs.get (tenantId, dead.jobId) = some job ∧ job.state = .deadLetter)

theorem stays_dead {jobs : OrderedDict Key Job} {key k : Key} {new : Job} (h : ∃ job, jobs.get k = some job ∧ job.state = .deadLetter)
    (hnew : k = key → new.state = .deadLetter) : ∃ job, (jobs.set key new).get k = some job ∧ job.state = .deadLetter := by
  obtain ⟨job, hget, hstate⟩ := h
  rw [OrderedDict.get_set]
  by_cases hk : k = key
  · exact ⟨new, if_pos hk, hnew hk⟩
  · exact ⟨job, by rw [if_neg hk, hget], hstate⟩

theorem buried_step (h : AllDispatched s) (hburied : Buried lib s) (c : Call) : Buried lib (call lib c s) := by
  -- where the dead letters stay, so do the jobs in DEAD_LETTER
  have hkept : ∀ {s' : Store}, s'.deadLetters = s.deadLetters →
      (∀ k, (∃ job, s.jobs.get k = some job ∧ job.state = .deadLetter) →
        ∃ job, s'.jobs.get k = some job ∧ job.state = .deadLetter) → Buried lib s' := by
    intro s' hdead hjobs tenantId deadLetterId dead hget
    rw [hdead] at hget
    obtain ⟨hid, hopened⟩ := hburied tenantId deadLetterId dead hget
    exact ⟨hid, fun hstate => hjobs _ (hopened hstate)⟩
  unfold call
  have hperforms := perform_performs lib c s
  generalize perform lib c s = x at hperforms ⊢
  cases hperforms with
  | refused => exact hburied
  | broken body clientId now s' job found missing =>
    have hdispatched := h _ job found
    rw [missing] at hdispatched
    cases hdispatched
  | answered _ _ s' other jobs deadLetters dispatches =>
    exact hkept deadLetters fun k hk => by rw [jobs]; exact hk
  | repeated => exact hburied
  | enqueued envelope route sourceClientId deliveryToken now key job s' new signed unused pending count bound jobs deadLetters =>
    refine hkept deadLetters fun k hk => ?_
    rw [jobs]
    refine stays_dead hk fun heq => ?_
    obtain ⟨job', hget, -⟩ := hk
    rw [heq, new] at hget
    cases hget
  | moved _ reply key job job' s' found moves jobs deadLetters =>
    refine hkept deadLetters fun k hk => ?_
    rw [jobs]
    refine stays_dead hk fun heq => ?_
    obtain ⟨job'', hget, hstate⟩ := hk
    rw [heq, found] at hget
    cases hget
    rw [moves.settled (by rw [hstate]; decide)]
    exact hstate
  | buried jobId body clientId deliveryToken checked now reply job job' s' found held state buried jobs deadLetters =>
    intro tenantId deadLetterId dead hget
    rw [deadLetters, OrderedDict.get_set] at hget
    rw [jobs]
    split at hget
    · rename_i hkey
      cases hget
      cases hkey
      exact ⟨rfl, fun _ => ⟨job', OrderedDict.get_set_self, by rw [buried]; rfl⟩⟩
    · obtain ⟨hid, hopened⟩ := hburied tenantId deadLetterId dead hget
      exact ⟨hid, fun hstate => stays_dead (hopened hstate) fun _ => by rw [buried]; rfl⟩
  | replayed replayId body clientId deliveryToken checked now reply replay job s' replayable jobs deadLetters =>
    intro tenantId deadLetterId dead hget
    rw [deadLetters, OrderedDict.get_set] at hget
    rw [jobs]
    split at hget
    · rename_i hkey
      cases hget
      cases hkey
      exact ⟨(hburied _ _ replay replayable.found).1, fun h => by cases h⟩
    · rename_i hkey
      obtain ⟨hid, hopened⟩ := hburied tenantId deadLetterId dead hget
      refine ⟨hid, fun hstate => stays_dead (hopened hstate) fun heq => ?_⟩
      -- a second dead letter of the job would stand under the same id
      obtain ⟨htenant, hjob⟩ := Prod.mk.inj heq
      refine absurd ?_ hkey
      rw [hid, htenant, hjob, (hburied _ _ replay replayable.found).1]

theorem standing_step (hfresh : Fresh (calls ++ [c])) (h : Standing lib calls s) :
    Standing lib (calls ++ [c]) (call lib c s) := by
  obtain ⟨hchanges, hdispatched, hadded⟩ := call_changes lib h.dispatched c
  have hlater : ∀ {token : String}, token ∈ draws calls → token ∈ draws (calls ++ [c]) := by
    intro token htoken
    rw [draws_append]
    exact List.mem_append_left _ htoken
  have hdrawn : ∀ {token : String}, token ∈ c.draws → token ∈ draws (calls ++ [c]) := by
    intro token htoken
    rw [draws_append]
    exact List.mem_append_right _ (by simpa [draws] using htoken)
  -- a job whose token was just drawn differs from the others
  have hnew : ∀ {key : Key} {job job' : Job}, s.jobs.get key = some job → (∃ token ∈ c.draws,
      job'.deliveryTokenSha256 = tokenDigest token) → job'.deliveryTokenSha256 ≠ job.deliveryTokenSha256 := by
    intro key job job' hget ⟨token, htoken, hdigest⟩ heq
    obtain ⟨token', htoken', hdigest'⟩ := h.signed key job hget
    rw [hdigest, hdigest'] at heq
    exact hfresh.new htoken htoken' heq
  refine ⟨fun key job hget => ?_, ?_, ?_, buried_step h.dispatched h.buried c⟩
  · cases hold : s.jobs.get key with
    | some job' => exact hdispatched key (h.dispatched key job' hold)
    | none => exact hadded key job hget hold
  · intro key job hget
    cases hchanges with
    | kept jobs =>
      rw [jobs] at hget
      obtain ⟨token, htoken, hdigest⟩ := h.signed key job hget
      exact ⟨token, hlater htoken, hdigest⟩
    | turned k old new found turns jobs =>
      rw [jobs, OrderedDict.get_set] at hget
      split at hget
      · cases hget
        rcases turns.token with ⟨hsame, -⟩ | ⟨token, htoken, hdigest⟩
        · obtain ⟨token, htoken, hdigest⟩ := h.signed k old found
          exact ⟨token, hlater htoken, hsame.trans hdigest⟩
        · exact ⟨token, hdrawn htoken, hdigest⟩
      · obtain ⟨token, htoken, hdigest⟩ := h.signed key job hget
        exact ⟨token, hlater htoken, hdigest⟩
    | added k new hnone enqueued jobs =>
      rw [jobs, OrderedDict.get_set] at hget
      split at hget
      · cases hget
        obtain ⟨token, htoken, hdigest⟩ := enqueued.signed
        exact ⟨token, hdrawn htoken, hdigest⟩
      · obtain ⟨token, htoken, hdigest⟩ := h.signed key job hget
        exact ⟨token, hlater htoken, hdigest⟩
  · -- two jobs of which at most one is new
    have hset : ∀ {k : Key} {new : Job}, (∀ key job, key ≠ k → s.jobs.get key = some job →
        new.deliveryTokenSha256 ≠ job.deliveryTokenSha256) → ∀ key key' job job', (s.jobs.set k new).get key = some job →
        (s.jobs.set k new).get key' = some job' → job.deliveryTokenSha256 = job'.deliveryTokenSha256 → key = key' := by
      intro k new hne key key' job job' hget hget' heq
      rw [OrderedDict.get_set] at hget hget'
      split at hget
      · rename_i hk
        cases hget
        split at hget'
        · rename_i hk'
          rw [hk, hk']
        · rename_i hk'
          exact absurd heq (hne key' job' hk' hget')
      · rename_i hk
        split at hget'
        · cases hget'
          exact absurd heq.symm (hne key job hk hget)
        · exact h.distinct key key' job job' hget hget' heq
    cases hchanges with
    | kept jobs =>
      intro key key' job job' hget hget' heq
      rw [jobs] at hget hget'
      exact h.distinct key key' job job' hget hget' heq
    | turned k old new found turns jobs =>
      rw [jobs]
      refine hset fun key job hk hget => ?_
      rcases turns.token with ⟨hsame, -⟩ | hdrawn
      · rw [hsame]
        exact fun heq => hk (h.distinct k key old job found hget heq).symm
      · exact hnew hget hdrawn
    | added k new hnone enqueued jobs =>
      rw [jobs]
      exact hset fun key job hk hget => hnew hget enqueued.signed

end Steps

/-! ## Runs -/

section Runs

variable {lib : Library} {calls before : List Call} {c : Call} {key : Key} {job job' : Job}

theorem after_concat (lib : Library) (calls : List Call) (c : Call) :
    after lib (calls ++ [c]) = call lib c (after lib calls) := runFrom_concat

theorem standing (lib : Library) (hfresh : Fresh calls) : Standing lib calls (after lib calls) := by
  induction calls using List.reverseRecOn with
  | nil => exact ⟨fun _ _ h => (by cases h), fun _ _ h => (by cases h), fun _ _ _ _ h => (by cases h), fun _ _ _ h => (by cases h)⟩
  | append_singleton calls c ih =>
    rw [after_concat]
    exact standing_step hfresh (ih hfresh.left)

theorem job_after (hfresh : Fresh calls) (c : Call) (h : (after lib calls).jobs.get key = some job) :
    ∃ job', (after lib (calls ++ [c])).jobs.get key = some job' ∧ (job' = job ∨ Turns lib (after lib calls) c key job job') := by
  rw [after_concat]
  obtain ⟨hchanges, -, -⟩ := call_changes lib (standing lib hfresh).dispatched c
  cases hchanges with
  | kept jobs => exact ⟨job, by rw [jobs]; exact h, .inl rfl⟩
  | turned k old new found turns jobs =>
    rw [jobs, OrderedDict.get_set]
    by_cases hk : key = k
    · subst hk
      rw [h] at found
      cases found
      exact ⟨new, if_pos rfl, .inr turns⟩
    · exact ⟨job, by rw [if_neg hk]; exact h, .inl rfl⟩
  | added k new hnone enqueued jobs =>
    rw [jobs, OrderedDict.get_set]
    by_cases hk : key = k
    · rw [hk, hnone] at h
      cases h
    · exact ⟨job, by rw [if_neg hk]; exact h, .inl rfl⟩

theorem Replayable.dead {deadLetterId : Uuid} {body : DeadLetterReplayRequest} {checked : Time}
    {dead : DeadLetterRecord} (hfresh : Fresh calls)
    (h : Replayable (after lib calls) deadLetterId body clientId checked dead job) : job.state = .deadLetter := by
  obtain ⟨job', hget, hstate⟩ := ((standing lib hfresh).buried _ _ dead h.found).2 h.opened
  rw [h.job] at hget
  cases hget
  exact hstate

/-! ### Delivery tokens -/

/-- A claim that was answered: the token, the job, and the execution and client that got the lease. -/
def Granted (lib : Library) (calls : List Call) (token : String) (key : Key) (executionId : Uuid) (clientId : String) : Prop :=
  ∃ before body now rest response, calls = before ++ Call.claim body clientId now :: rest ∧
    (perform lib (.claim body clientId now) (after lib before)).1 = .ok response ∧ body.deliveryToken = token ∧
    (body.tenantId, body.jobId) = key ∧ body.executionId = executionId

theorem claim_answered {body : JobClaimRequest} {now : Time} {response : Reply} {s : Store}
    (hdispatched : ∀ key job, s.jobs.get key = some job → (s.dispatches.get key).isSome = true)
    (h : (perform lib (.claim body clientId now) s).1 = .ok response) : ∃ job, s.jobs.get (body.tenantId, body.jobId) = some job ∧
      job.deliveryTokenSha256 = tokenDigest body.deliveryToken ∧
      (job.deliveryTokenUsedAt.isSome = true → job.executionId = some body.executionId ∧ job.leaseClientId = some clientId) ∧
      ∃ job', (call lib (.claim body clientId now) s).jobs.get (body.tenantId, body.jobId) = some job' ∧
        job'.deliveryTokenSha256 = tokenDigest body.deliveryToken ∧ job'.deliveryTokenUsedAt.isSome = true ∧
        job'.executionId = some body.executionId ∧ job'.leaseClientId = some clientId := by
  unfold call
  have hperforms := perform_performs lib (.claim body clientId now) s
  generalize perform lib (.claim body clientId now) s = x at hperforms h ⊢
  cases hperforms with
  | refused => cases h
  | broken _ _ _ s' job found missing =>
    have hsome := hdispatched _ job found
    rw [missing] at hsome
    cases hsome
  | answered _ _ s' other => cases other
  | repeated _ _ _ response job found signed used execution client =>
    exact ⟨job, found, signed, fun _ => ⟨execution, client⟩, job, found, signed, used, execution, client⟩
  | moved _ reply key job job' s' found moves jobs =>
    cases moves with
    | claimed _ _ _ _ signed unused waiting =>
      have hget : s'.jobs.get (body.tenantId, body.jobId) = some (job.claimed
          (tokenDigest (leaseToken lib body.deliveryToken body.jobId body.executionId clientId)) clientId body.executionId now) := by
        rw [jobs]
        exact OrderedDict.get_set_self
      refine ⟨job, found, signed, fun hused => ?_, _, hget, signed, rfl, rfl, rfl⟩
      rw [unused] at hused
      cases hused

theorem granted_lease (hfresh : Fresh calls) {token : String} {executionId : Uuid}
    (h : Granted lib calls token key executionId clientId) : (∃ drawn ∈ draws calls, tokenDigest token = tokenDigest drawn) ∧
      ∀ key' job, (after lib calls).jobs.get key' = some job → job.deliveryTokenSha256 = tokenDigest token →
        key' = key ∧ job.deliveryTokenUsedAt.isSome = true ∧ job.executionId = some executionId ∧
          job.leaseClientId = some clientId := by
  induction calls using List.reverseRecOn with
  | nil =>
    obtain ⟨before, body, now, rest, response, hcalls, -⟩ := h
    simp at hcalls
  | append_singleton calls c ih =>
    have hstanding := standing lib hfresh.left
    have hstanding' := standing lib hfresh
    obtain ⟨before, body, now, rest, response, hcalls, hanswered, htoken, hkey, hexecution⟩ := h
    subst htoken hkey hexecution
    cases rest using List.reverseRecOn with
    | nil =>
      -- the claim is the last call
      obtain ⟨hbefore, hc⟩ := List.append_inj' hcalls rfl
      cases hc
      subst hbefore
      obtain ⟨job, hget, hsigned, -, job', hget', hsigned', hused, hexec, hclient⟩ :=
        claim_answered hstanding.dispatched hanswered
      rw [← after_concat] at hget'
      constructor
      · obtain ⟨drawn, hdrawn, hdigest⟩ := hstanding'.signed _ job' hget'
        exact ⟨drawn, hdrawn, hsigned'.symm.trans hdigest⟩
      · intro key' job'' hget'' hsigned''
        have heq := hstanding'.distinct _ _ _ _ hget'' hget' (hsigned''.trans hsigned'.symm)
        subst heq
        rw [hget'] at hget''
        cases hget''
        exact ⟨rfl, hused, hexec, hclient⟩
    | append_singleton rest x =>
      rw [← List.cons_append, ← List.append_assoc] at hcalls
      obtain ⟨hcalls, hx⟩ := List.append_inj' hcalls rfl
      have hgranted : Granted lib calls body.deliveryToken (body.tenantId, body.jobId) body.executionId clientId :=
        ⟨before, body, now, rest, response, hcalls, hanswered, rfl, rfl, rfl⟩
      obtain ⟨⟨drawn, hdrawn, hdigest⟩, hlease⟩ := ih hfresh.left hgranted
      -- a token that is drawn now has another digest
      have hnew : ∀ {job : Job}, (∃ token ∈ c.draws, job.deliveryTokenSha256 = tokenDigest token) →
          job.deliveryTokenSha256 ≠ tokenDigest body.deliveryToken := by
        intro job ⟨token, htoken, hsigned⟩ heq
        rw [hsigned, hdigest] at heq
        exact hfresh.new htoken hdrawn heq
      refine ⟨⟨drawn, ?_, hdigest⟩, fun key' job' hget hsigned => ?_⟩
      · rw [draws_append]
        exact List.mem_append_left _ hdrawn
      · rw [after_concat] at hget
        obtain ⟨hchanges, -, -⟩ := call_changes lib hstanding.dispatched c
        cases hchanges with
        | kept jobs =>
          rw [jobs] at hget
          exact hlease key' job' hget hsigned
        | turned k old new found turns jobs =>
          rw [jobs, OrderedDict.get_set] at hget
          split at hget
          · rename_i hk
            cases hget
            rcases turns.token with ⟨hsame, hkeeps⟩ | hdrawn'
            · obtain ⟨heq, hused, hexec, hclient⟩ := hlease k old found (hsame.symm.trans hsigned)
              obtain ⟨hused', hexec', hclient'⟩ := hkeeps hused
              exact ⟨hk.trans heq, hused', hexec'.trans hexec, hclient'.trans hclient⟩
            · exact absurd hsigned (hnew hdrawn')
          · exact hlease key' job' hget hsigned
        | added k new hnone enqueued jobs =>
          rw [jobs, OrderedDict.get_set] at hget
          split at hget
          · cases hget
            exact absurd hsigned (hnew enqueued.signed)
          · exact hlease key' job' hget hsigned

/-! ### Attempts -/

/-- The attempts of a job are within its maximum, and below it while the job waits for a claim. -/
def Bounded (s : Store) : Prop :=
  ∀ key job, s.jobs.get key = some job → job.attemptCount ≤ job.maxAttempts ∧
    (job.state = .pending ∨ job.state = .retryScheduled → job.attemptCount < job.maxAttempts)

/-- A replay that the store takes is of a job with an attempt left. -/
def Spared (s : Store) : Call → Prop
  | .replayDeadLetter deadLetterId body clientId _ checked _ =>
    ∀ dead job, Replayable s deadLetterId body clientId checked dead job → job.attemptCount < job.maxAttempts
  | .enqueueEvent .. | .claim .. | .getJob .. | .heartbeat .. | .recordStep .. | .complete .. | .fail .. | .requestApproval ..
  | .getApproval .. | .approveForTest .. | .reconcile .. => True

theorem Turns.bounded {s : Store} (h : Turns lib s c key job job') (hspared : Spared s c)
    (hjob : job.attemptCount ≤ job.maxAttempts ∧
      (job.state = .pending ∨ job.state = .retryScheduled → job.attemptCount < job.maxAttempts)) :
    job'.attemptCount ≤ job'.maxAttempts ∧
      (job'.state = .pending ∨ job'.state = .retryScheduled → job'.attemptCount < job'.maxAttempts) := by
  obtain ⟨hbound, hwaiting⟩ := hjob
  cases h with
  | buried => exact ⟨hbound, by simp [Job.terminal]⟩
  | replayed deadLetterId body clientId deliveryToken checked now dead job replayable =>
    have hleft := hspared dead job replayable
    exact ⟨hbound, fun _ => hleft⟩
  | moved c key job job' moves =>
    cases moves with
    | claimed body clientId now job signed unused waiting =>
      have hleft := hwaiting waiting
      exact ⟨hleft, by simp [Job.claimed]⟩
    | beaten => exact ⟨hbound, by simp [Job.run]⟩
    | stepped => exact ⟨hbound, by simp [Job.run]⟩
    | completed => exact ⟨hbound, by simp [Job.terminal]⟩
    | failed => exact ⟨hbound, by simp [Job.terminal]⟩
    | retried jobId body clientId deliveryToken checked now job held state =>
      have hleft : job.attemptCount < job.maxAttempts := by
        unfold Job.failureState at state
        split at state
        · cases state
        split at state
        · rename_i hretry
          exact hretry.2
        split at state <;> cases state
      exact ⟨hbound, fun _ => hleft⟩
    | awaited body clientId requestedBy now job =>
      unfold Job.await
      split
      · exact ⟨hbound, hwaiting⟩
      · exact ⟨hbound, by simp⟩

theorem bounded_step (hfresh : Fresh calls) (h : Bounded (after lib calls)) (hspared : Spared (after lib calls) c) :
    Bounded (after lib (calls ++ [c])) := by
  rw [after_concat]
  obtain ⟨hchanges, -, -⟩ := call_changes lib (standing lib hfresh).dispatched c
  intro key job hget
  cases hchanges with
  | kept jobs =>
    rw [jobs] at hget
    exact h key job hget
  | turned k old new found turns jobs =>
    rw [jobs, OrderedDict.get_set] at hget
    split at hget
    · cases hget
      exact turns.bounded hspared (h k old found)
    · exact h key job hget
  | added k new hnone enqueued jobs =>
    rw [jobs, OrderedDict.get_set] at hget
    split at hget
    · cases hget
      have hbound := enqueued.bound
      rw [enqueued.count]
      exact ⟨by omega, fun _ => by omega⟩
    · exact h key job hget

end Runs

end Middleware.Automation
