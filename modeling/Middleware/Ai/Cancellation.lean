/-
Cancelled jobs. A job whose cancellation was requested is excluded from every claim, so it moves on only through the
lease it has: its holder finishes it, or the next pass of `claim_job` recovers it after the lease has run out. Four
transactions can leave it without a lease, and then nothing moves it any more.
-/
import Middleware.Ai.Absorbing

namespace Middleware.Ai

open Ledger Lib

/-- The states no operation of the queue is meant to leave. -/
def terminal : List JobState := [.completed, .failed, .cancelled, .expired, .deadLetter, .approved, .rejected]

/-- A cancellation was requested and the job is not terminal. -/
def Job.cancelling (j : Job) : Prop :=
  (j.cancelRequestedAt.isSome = true ∨ j.state = .cancelRequested) ∧ j.state ∉ terminal

/-- The pass `claim_job` makes before it claims. -/
def claimPass (organizationId workspaceId : Uuid) (now : Time) (db : Db) : Db :=
  recoverExpired (some organizationId) (some workspaceId) now
    (expireDeadlines (some organizationId) (some workspaceId) now db)

/-- The lease of the worker that holds a job. -/
def Job.lease (j : Job) (owner : String) : Lease :=
  { jobId := j.id, workerId := owner, fencingToken := j.fencingToken, organizationId := some j.organizationId,
    workspaceId := some j.workspaceId }

/-- Every cancelling job has a lease: while it lasts its holder can finish the job, and once it has run out the next
pass moves the job. -/
def Unstuck (db : Db) : Prop :=
  ∀ id j, db.job id = some j → j.cancelling → ∃ owner t, j.leaseOwner = some owner ∧ j.leaseExpiresAt = some t ∧
    ∀ now, (now < t → ∀ e completion, ∃ db', finish (j.lease owner) e completion now db = .ok (.cancelled, db')) ∧
      (t ≤ now → ∃ j', (claimPass j.organizationId j.workspaceId now db).job id = some j' ∧ j'.state ≠ j.state)

/-- No transaction takes the lease of a cancelling job, or asks to cancel a job that has none and is not waiting. -/
def Step.keepsLease (s : Step) (db : Db) : Prop :=
  match s.op with
  | .consoleCancel jobId organizationId workspaceId =>
    ∀ j, db.job jobId = some j → j.inScope (some organizationId) (some workspaceId) = true → j.state ≠ .approvalRequired
  | .orchestrationCancel jobId tenantId workspaceId =>
    ∀ j, db.job jobId = some j → j.inScope (some tenantId) (some workspaceId) = true → j.state = .approved →
      j.leaseExpiresAt.isSome = true
  | .retryDeadLetter jobId approvalId organizationId workspaceId =>
    db.deadLetters.any (retryLicensed db jobId approvalId organizationId workspaceId) = true →
      ∀ j, db.job jobId = some j → j.state = .deadLetter → j.maxAttempts < 10 → j.cancelRequestedAt = none
  | .recoverExpired organizationId workspaceId =>
    ∀ id j, db.job id = some j → j.state = .leased → leaseExpired s.now j = true → j.attemptCount < j.maxAttempts →
      beforeDeadline s.now j = true → j.inScope organizationId workspaceId = true → j.cancelRequestedAt = none
  | _ => True

/-! ## Leases and states -/

structure Coherent (j : Job) : Prop where
  leased : j.state = .leased → j.leaseExpiresAt.isSome = true
  unleased : j.leaseExpiresAt.isSome = true → j.state ∈ [.leased, .cancelRequested, .approved, .rejected]
  owner : j.leaseOwner.isSome = j.leaseExpiresAt.isSome
  requested : j.state = .cancelRequested → j.cancelRequestedAt.isSome = true
  unused : j.state ∉ [.available, .running, .failed]

/-- A job whose cancellation was requested has a lease, or is terminal. -/
def Cancellable (j : Job) : Prop :=
  j.cancelRequestedAt.isSome = true → j.state ∉ terminal → j.leaseExpiresAt.isSome = true

section

variable {db : Db} {s : Step} {j j' : Job} {now : Time}

theorem holds_lease {l : Lease} {allow : Bool} (h : l.holds allow now j = true) :
    j.leaseOwner = some l.workerId ∧ j.fencingToken = l.fencingToken ∧ ∃ t, j.leaseExpiresAt = some t ∧ now < t := by
  simp only [Lease.holds, Bool.and_eq_true, beq_iff_eq, Option.any_eq_true, decide_eq_true_eq] at h
  exact ⟨h.1.1.1.2, h.1.1.2, h.1.2⟩

/-- A row without a lease, in a state that is neither leased nor a requested cancellation. -/
theorem Coherent.of_unleased (ho : j'.leaseOwner = none) (ht : j'.leaseExpiresAt = none) (states : List JobState)
    (h : j'.state ∈ states) (hs : ∀ x ∈ states, x ∉ [JobState.leased, .cancelRequested, .available, .running, .failed]) :
    Coherent j' where
  leased hl := absurd (hl ▸ h) fun hm => absurd (hs _ hm) (by decide)
  unleased hl := by rw [ht] at hl; cases hl
  owner := by rw [ho, ht]; rfl
  requested hl := absurd (hl ▸ h) fun hm => absurd (hs _ hm) (by decide)
  unused hu := by
    have := hs _ h
    simp only [List.mem_cons, List.not_mem_nil, or_false, not_or] at hu this
    rcases hu with hu | hu | hu <;> simp_all

theorem Coherent.no_lease (hj : Coherent j) (h : j.state ∉ [JobState.leased, .cancelRequested, .approved, .rejected]) :
    j.leaseOwner = none ∧ j.leaseExpiresAt = none := by
  have ht : j.leaseExpiresAt = none := by
    by_contra hne
    exact h (hj.unleased (Option.isSome_iff_ne_none.2 hne))
  exact ⟨by simpa [ht] using hj.owner, ht⟩

theorem Coherent.of_lease (hj : Coherent j) (ho : j'.leaseOwner = j.leaseOwner) (ht : j'.leaseExpiresAt = j.leaseExpiresAt)
    (h : j'.state ∈ [JobState.cancelRequested, .approved, .rejected])
    (hr : j'.state = .cancelRequested → j'.cancelRequestedAt.isSome = true) : Coherent j' where
  leased hl := absurd (hl ▸ h) (by decide)
  unleased _ := List.mem_cons_of_mem _ h
  owner := by rw [ho, ht, hj.owner]
  requested := hr
  unused hu := by
    simp only [List.mem_cons, List.not_mem_nil, or_false] at hu h
    rcases hu with hu | hu | hu <;> simp [hu] at h

theorem finishState_mem (e : Ending) {completion : JobState} (hc : completion = .completed ∨ completion = .approvalRequired)
    (j : Job) : finishState e completion j ∈ [JobState.cancelled, .completed, .approvalRequired, .retryWait, .deadLetter] := by
  unfold finishState
  rcases hc with rfl | rfl <;> split <;> try decide
  all_goals split <;> try decide
  all_goals split <;> decide

theorem new_coherent (j : Job) (now : Time) : Coherent (newRow j now) :=
  .of_unleased rfl rfl [.queued] (by simp [newRow]) (by decide)

theorem change_coherent (h : Change db s j j') (hj : Coherent j) : Coherent j' := by
  cases h with
  | same => exact hj
  | claimed c locked active op admitted candidate returned => constructor <;> simp [claimRow]
  | renewed l seconds op id holds =>
    have hown := (holds_lease holds).1
    have hst := holds_state holds
    exact ⟨fun _ => rfl, fun _ => by simp only [List.mem_cons]; tauto, by simp [hown], hj.requested, hj.unused⟩
  | streamed => exact ⟨hj.leased, hj.unleased, hj.owner, hj.requested, hj.unused⟩
  | finished l e completion op ends id holds success =>
    exact .of_unleased rfl rfl _ (finishState_mem e success j) (by decide)
  | confirmed => exact .of_unleased rfl rfl [.cancelled] (by simp) (by decide)
  | recoveredCancelled => exact .of_unleased rfl rfl [.cancelled] (by simp) (by decide)
  | recoveredRetry => exact .of_unleased rfl rfl [.retryWait] (by simp) (by decide)
  | recoveredDead => exact .of_unleased rfl rfl [.deadLetter] (by simp) (by decide)
  | expired => exact .of_unleased rfl rfl [.expired] (by simp) (by decide)
  | retried approvalId org ws op d letter licensed state below =>
    obtain ⟨ho, ht⟩ := hj.no_lease (by rw [state]; decide)
    exact .of_unleased ho ht [.retryWait] (by simp [retriedRow]) (by decide)
  | consoleCancelled org ws op scope state =>
    by_cases hidle : j.state = .queued ∨ j.state = .retryWait
    · obtain ⟨ho, ht⟩ := hj.no_lease (by rcases hidle with h | h <;> rw [h] <;> decide)
      exact .of_unleased ho ht [.cancelled] (by simp [consoleRow_idle s.now hidle]) (by decide)
    · have hstate := consoleRow_busy s.now hidle
      exact ⟨fun h => hj.leased (hstate ▸ h), fun h => hstate ▸ hj.unleased h, hj.owner, fun _ => rfl,
        hstate ▸ hj.unused⟩
  | orchestrationCancelled org ws op scope state =>
    by_cases hidle : j.state ∈ [JobState.queued, .available, .retryWait, .approvalRequired]
    · obtain ⟨ho, ht⟩ := hj.no_lease (by revert hidle; cases j.state <;> decide)
      exact .of_unleased ho ht [.cancelled] (by simp [orchestrationRow_idle s.now hidle]) (by decide)
    · exact hj.of_lease rfl rfl (by simp [orchestrationRow_busy s.now hidle]) fun _ => rfl
  | decided org ws actorId approved reason op pending =>
    cases approved with
    | true => exact hj.of_lease rfl rfl (by simp) fun h => absurd h (by simp)
    | false => exact hj.of_lease rfl rfl (by simp) fun h => absurd h (by simp)

theorem run_coherent {registrations : Dict String Registration} (steps : List Step) :
    ∀ id j, (run registrations steps).job id = some j → Coherent j :=
  run_invariant (C := fun _ _ => True) (fun j now _ => new_coherent j now)
    (fun _ _ _ _ _ _ hc hj => change_coherent hc hj) steps fun _ _ _ _ => trivial

/-! ## A cancelling job keeps its lease -/

theorem Coherent.has_lease (hj : Coherent j) (hc : Cancellable j) (h : j.state ∈ [JobState.leased, .cancelRequested]) :
    j.leaseExpiresAt.isSome = true := by
  simp only [List.mem_cons, List.not_mem_nil, or_false] at h
  rcases h with h | h
  · exact hj.leased h
  · exact hc (hj.requested h) (by rw [h]; decide)

theorem change_cancellable (hs : s.keepsLease db) (hrow : db.job j.id = some j) (h : Change db s j j') (hj : Coherent j)
    (hc : Cancellable j) : Cancellable j' := by
  intro hflag hopen
  cases h with
  | same => exact hc hflag hopen
  | claimed => rfl
  | renewed => rfl
  | streamed => exact hc hflag hopen
  | finished l e completion op ends id holds success =>
    -- a requested cancellation wins over every ending
    have : finishState e completion j = .cancelled := if_pos hflag
    exact absurd hopen (by simp [finishRow, this, terminal])
  | confirmed => exact absurd hopen (by simp [terminal])
  | recoveredCancelled => exact absurd hopen (by simp [terminal])
  | recoveredRetry org ws op scope state expired left deadline =>
    simp only [Step.keepsLease, op] at hs
    have hnone := hs j.id j hrow state expired left deadline scope
    rw [hnone] at hflag
    cases hflag
  | recoveredDead => exact absurd hopen (by simp [terminal])
  | expired => exact absurd hopen (by simp [terminal])
  | retried approvalId org ws op d letter licensed state below =>
    simp only [Step.keepsLease, op] at hs
    have hnone := hs (List.any_eq_true.2 ⟨d, letter, licensed⟩) j hrow state below
    simp [retriedRow, hnone] at hflag
  | consoleCancelled org ws op scope state =>
    simp only [Step.keepsLease, op] at hs
    have hwait := hs j hrow scope
    by_cases hidle : j.state = .queued ∨ j.state = .retryWait
    · exact absurd hopen (by simp [consoleRow_idle s.now hidle, terminal])
    · rw [consoleRow_busy s.now hidle] at hopen
      have hunused := hj.unused
      refine hj.has_lease hc ?_
      revert hopen hidle hwait hunused
      cases j.state <;> decide
  | orchestrationCancelled org ws op scope state =>
    simp only [Step.keepsLease, op] at hs
    have happroved := hs j hrow scope
    by_cases hidle : j.state ∈ [JobState.queued, .available, .retryWait, .approvalRequired]
    · exact absurd hopen (by simp [orchestrationRow_idle s.now hidle, terminal])
    · by_cases ha : j.state = .approved
      · exact happroved ha
      · have hunused := hj.unused
        refine hj.has_lease hc ?_
        revert hidle ha hunused state
        cases j.state <;> decide
  | decided org ws actorId approved reason op pending =>
    cases approved <;> exact absurd hopen (by simp [terminal])

/-! ## A lease moves a job -/

theorem assertLease_of {l : Lease} {allow : Bool} (hj : db.job l.jobId = some j)
    (h : l.holds allow now j = true) : assertLease l allow now db = .ok j := by
  simp [assertLease, hj, h]

theorem finish_cancels {owner : String} {t : Time} (hj : db.job j.id = some j)
    (hstate : j.state = .leased ∨ j.state = .cancelRequested) (hflag : j.cancelRequestedAt.isSome = true)
    (ho : j.leaseOwner = some owner) (ht : j.leaseExpiresAt = some t) (hnow : now < t) (e : Ending)
    (completion : JobState) : ∃ db', finish (j.lease owner) e completion now db = .ok (.cancelled, db') := by
  have hholds : (j.lease owner).holds true now j = true := by
    simp [Lease.holds, Job.lease, Job.inScope, ho, ht, hnow, hstate]
  have hfs : finishState e completion j = .cancelled := if_pos hflag
  refine ⟨finishedDb (j.lease owner) e .cancelled now j db, ?_⟩
  unfold finish
  rw [assertLease_of (l := j.lease owner) hj hholds]
  show Except.ok (finishState e completion j, finishedDb (j.lease owner) e (finishState e completion j) now j db) = _
  rw [hfs]

theorem job_mapped {f : Job → Job} {id : Uuid} {db' : Db} (h : db'.jobs = db.jobs.map f) (hf : ∀ j, (f j).id = j.id)
    (hj : db.job id = some j) : db'.job id = some (f j) := by
  unfold Db.job at hj ⊢
  rw [h, find_map_row hf, hj, Option.map_some]

/-- A lease that has run out is taken away. -/
theorem recoverRow_moves {org ws : Option Uuid} (hstate : j.state = .leased ∨ j.state = .cancelRequested)
    (hexp : leaseExpired now j = true) (hscope : j.inScope org ws = true)
    (hdead : j.state = .leased → beforeDeadline now j = true) : (recoverRow org ws now j).state ≠ j.state := by
  unfold recoverRow
  rcases hstate with h | h
  · have hc : recoverCancelled org ws now j = j := if_neg (by simp [h])
    rw [hc]
    by_cases hleft : j.attemptCount < j.maxAttempts
    · rw [recoverRetry, if_pos ⟨h, hexp, hleft, hdead h, hscope⟩, recoverDead, if_neg (by simp [exhausted])]
      simp [h]
    · have hr : recoverRetry org ws now j = j := if_neg (by simp [hleft])
      rw [hr, recoverDead, if_pos (by simp [exhausted, h, hexp, hscope, hdead h, Nat.not_lt.1 hleft])]
      simp [h]
  · rw [recoverCancelled, if_pos ⟨h, hexp, hscope⟩, recoverRetry, if_neg (by simp), recoverDead,
      if_neg (by simp [exhausted])]
    simp [h]

theorem claimPass_moves {t : Time} (hj : db.job j.id = some j)
    (hstate : j.state = .leased ∨ j.state = .cancelRequested) (ht : j.leaseExpiresAt = some t) (hnow : t ≤ now) :
    ∃ j', (claimPass j.organizationId j.workspaceId now db).job j.id = some j' ∧ j'.state ≠ j.state := by
  have hexp : leaseExpired now j = true := by simp [leaseExpired, ht, hnow]
  have hscope : j.inScope (some j.organizationId) (some j.workspaceId) = true := by simp [Job.inScope]
  have hrow : (claimPass j.organizationId j.workspaceId now db).job j.id =
      some (recoverRow (some j.organizationId) (some j.workspaceId) now
        (expireRow (some j.organizationId) (some j.workspaceId) now j)) :=
    job_mapped (recoverExpired_jobs _ _ _ _) (recoverRow_id _ _ _) (job_mapped rfl (expireRow_id _ _ _) hj)
  refine ⟨_, hrow, ?_⟩
  by_cases hdead : j.state = .leased ∧ (j.deadlineAt.any fun t => decide (t ≤ now)) = true
  · -- past its deadline the job has expired, and the recovery leaves it
    rw [expireRow, if_pos ⟨.inr (.inr hdead.1), hdead.2, hscope⟩, recoverRow, recoverCancelled, if_neg (by simp),
      recoverRetry, if_neg (by simp), recoverDead, if_neg (by simp [exhausted])]
    simp [hdead.1]
  · have hrow' : expireRow (some j.organizationId) (some j.workspaceId) now j = j := by
      refine if_neg fun h => hdead ⟨?_, h.2.1⟩
      rcases hstate with hs | hs
      · exact hs
      · simp [hs] at h
    rw [hrow']
    refine recoverRow_moves hstate hexp hscope fun hs => ?_
    have hnot := fun h => hdead ⟨hs, h⟩
    cases hd : j.deadlineAt with
    | none => simp [beforeDeadline, hd]
    | some d => simpa [beforeDeadline, hd] using hnot

theorem unstuck_of (h : ∀ id j, db.job id = some j → Coherent j ∧ Cancellable j) : Unstuck db := by
  rintro id j hj ⟨hreq, hopen⟩
  obtain rfl := job_id hj
  obtain ⟨hco, hca⟩ := h _ _ hj
  have hflag : j.cancelRequestedAt.isSome = true := hreq.elim (fun h => h) hco.requested
  obtain ⟨t, ht⟩ := Option.isSome_iff_exists.1 (hca hflag hopen)
  obtain ⟨owner, ho⟩ := Option.isSome_iff_exists.1 (hco.owner.trans (hca hflag hopen))
  have hstate : j.state = .leased ∨ j.state = .cancelRequested := by
    have hm := hco.unleased (hca hflag hopen)
    revert hm hopen
    cases j.state <;> decide
  exact ⟨owner, t, ho, ht, fun now => ⟨fun hnow => finish_cancels hj hstate hflag ho ht hnow,
    fun hnow => claimPass_moves hj hstate ht hnow⟩⟩

/-! ## Losing the lease -/

theorem Unstuck.has_lease (h : Unstuck db) {id : Uuid} (hj : db.job id = some j)
    (hflag : j.cancelRequestedAt.isSome = true) (hopen : j.state ∉ terminal) : j.leaseExpiresAt.isSome = true := by
  obtain ⟨-, t, -, ht, -⟩ := h id j hj ⟨.inl hflag, hopen⟩
  rw [ht]
  rfl

theorem consoleCancel_job {jobId org ws : Uuid} (hj : db.job jobId = some j)
    (hscope : j.inScope (some org) (some ws) = true) (hstate : j.state = .approvalRequired) :
    (Step.exec ⟨.consoleCancel jobId org ws, now⟩ db).job jobId =
      some { j with cancelRequestedAt := some (j.cancelRequestedAt.getD now), state := .approvalRequired } := by
  have hid := job_id hj
  have hrow := job_updateJob_self (f := fun _ =>
    { j with cancelRequestedAt := some (j.cancelRequestedAt.getD now), state := .approvalRequired }) (fun _ _ => hid) hj
  have hopen : (!true || finalStates.contains JobState.approvalRequired) = false := by decide
  have hidle : (JobState.approvalRequired == .queued || JobState.approvalRequired == .retryWait) = false := by decide
  simp only [Step.exec, Step.effect, Console.cancel, hj, hscope, hstate, hopen, hidle]
  exact hrow

theorem retryDeadLetter_job {jobId approvalId org ws : Uuid}
    (hd : db.deadLetters.any (retryLicensed db jobId approvalId org ws) = true) (hj : db.job jobId = some j)
    (hstate : j.state = .deadLetter) (hmax : j.maxAttempts < 10) :
    (Step.exec ⟨.retryDeadLetter jobId approvalId org ws, now⟩ db).job jobId = some (retriedRow now j) := by
  obtain ⟨d, hd⟩ := Option.isSome_iff_exists.1 (List.find?_isSome.2 (List.any_eq_true.1 hd))
  have hrow := job_updateJob_self (f := retriedRow now) (fun _ h => h) hj
  have hg : ¬(j.state ≠ .deadLetter ∨ 10 ≤ j.maxAttempts) := by
    rw [not_or, not_not]
    exact ⟨hstate, by omega⟩
  simp only [Step.exec, Step.effect, retryDeadLetter, hd, hj, if_neg hg]
  exact hrow

/-- A transaction that takes the lease of a cancelling job leaves it stuck. -/
theorem keepsLease_of_unstuck (hco : ∀ id j, db.job id = some j → Coherent j) (h : Unstuck (s.exec db)) :
    s.keepsLease db := by
  obtain ⟨op, now⟩ := s
  cases op with
  | consoleCancel jobId org ws =>
    intro j hj hscope hstate
    have hlease := h.has_lease (consoleCancel_job hj hscope hstate) rfl (by simp [terminal])
    have hnone := (hco _ _ hj).no_lease (by rw [hstate]; decide)
    simp [hnone.2] at hlease
  | orchestrationCancel jobId org ws =>
    intro j hj hscope hstate
    have hlease := h.has_lease (orchestrationCancel_job hj hscope hstate) rfl (by simp [terminal])
    exact hlease
  | retryDeadLetter jobId approvalId org ws =>
    intro hd j hj hstate hmax
    by_contra hflag
    have hlease := h.has_lease (retryDeadLetter_job hd hj hstate hmax) (Option.isSome_iff_ne_none.2 hflag)
      (by simp [retriedRow, terminal])
    have hnone := (hco _ _ hj).no_lease (by rw [hstate]; decide)
    simp [retriedRow, hnone.2] at hlease
  | recoverExpired org ws =>
    intro id j hj hstate hexp hleft hdead hscope
    by_contra hflag
    have hrow : (Step.exec ⟨.recoverExpired org ws, now⟩ db).job id = some (recoverRow org ws now j) :=
      job_mapped (recoverExpired_jobs _ _ _ _) (recoverRow_id _ _ _) hj
    have hc : recoverCancelled org ws now j = j := if_neg (by simp [hstate])
    rw [recoverRow, hc, recoverRetry, if_pos ⟨hstate, hexp, hleft, hdead, hscope⟩, recoverDead,
      if_neg (by simp [exhausted])] at hrow
    have hlease := h.has_lease hrow (Option.isSome_iff_ne_none.2 hflag)
      (by simp [terminal])
    cases hlease
  | _ => trivial

end

/-! ## Runs -/

/-- In a run every cancelled job can still be moved, in every state reached, exactly when no transaction of the run
takes the lease of one or asks to cancel a job that waits for approval or was approved. -/
theorem unstuck_iff (registrations : Dict String Registration) (steps : List Step) :
    (∀ done rest, steps = done ++ rest → Unstuck (run registrations done)) ↔
      ∀ done s rest, steps = done ++ s :: rest → s.keepsLease (run registrations done) := by
  constructor
  · rintro h done s rest rfl
    have hafter := h (done ++ [s]) rest (by simp)
    rw [run_concat] at hafter
    exact keepsLease_of_unstuck (run_coherent done) hafter
  · rintro h done rest rfl
    have hok : ∀ done' s rest', done = done' ++ s :: rest' → s.keepsLease (run registrations done') := by
      rintro done' s rest' rfl
      exact h done' s (rest' ++ rest) (by simp)
    refine unstuck_of (run_invariant (P := fun j => Coherent j ∧ Cancellable j)
      (C := fun db s => s.keepsLease db) (fun j now _ => ⟨new_coherent j now, ?_⟩) ?_ done hok)
    · intro hflag
      cases hflag
    · rintro db s j j' hs hj hc ⟨hco, hca⟩
      exact ⟨change_coherent hc hco, change_cancellable hs hj hc hco hca⟩

/-! ## A worker that dies after a cancellation -/

namespace Synthetic

/-- The console cancels a leased job, its worker dies, and the expired lease is recovered for a retry. -/
def cancelledWhileLeased : List Step :=
  [⟨.insertJob { job with maxAttempts := 3 }, 0⟩, claimed 1, ⟨.consoleCancel "job" "org" "ws", 2⟩,
    ⟨.recoverExpired none none, 100⟩]

end Synthetic

/-- The job waits for a retry that no claim makes. -/
theorem cancelled_job_stuck : ¬ ∀ done rest, Synthetic.cancelledWhileLeased = done ++ rest → Unstuck (run ∅ done) := by
  intro h
  have hcheck : ((run ∅ Synthetic.cancelledWhileLeased).job "job").map
      (fun j => (j.state, j.cancelRequestedAt.isSome, j.leaseExpiresAt.isSome)) = some (.retryWait, true, false) := by
    decide +kernel
  obtain ⟨j, hj, hrow⟩ := Option.map_eq_some_iff.1 hcheck
  simp only [Prod.mk.injEq] at hrow
  have hlease := (h _ [] (List.append_nil _).symm).has_lease hj hrow.2.1 (by rw [hrow.1]; decide)
  rw [hrow.2.2] at hlease
  cases hlease

end Middleware.Ai
