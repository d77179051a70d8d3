/-
Finished jobs. Every guard of the queue keeps a job that is completed, cancelled, expired, rejected or approved, and
only a manual retry takes a dead letter back, with two exceptions: `decide` looks at the approval and not at the job,
and `cancel` of the orchestration forgets `approved` among the states it leaves alone.
-/
import Middleware.Ai.Changes

namespace Middleware.Ai

open Ledger Lib

def absorbing : List JobState := [.completed, .cancelled, .expired, .rejected, .approved]

/-- What a row of a finished job may become in a transaction. -/
structure Kept (s : Step) (j j' : Job) : Prop where
  stays : j.state ∈ absorbing → j'.state = j.state
  revived : j.state = .deadLetter → j'.state = .deadLetter ∨
    j'.state = .retryWait ∧ ∃ approvalId org ws, s.op = .retryDeadLetter j.id approvalId org ws

/-- A decision is not taken about a job that is finished otherwise, and no approved job is cancelled. -/
def Step.sparesFinished (s : Step) (db : Db) : Prop :=
  match s.op with
  | .decide jobId tenantId workspaceId _ approved _ =>
    (pendingApproval db jobId tenantId workspaceId).isSome = true → ∀ j, db.job jobId = some j →
      j.state ≠ .deadLetter ∧ (j.state ∈ absorbing → j.state = if approved then .approved else .rejected)
  | .orchestrationCancel jobId tenantId workspaceId =>
    ∀ j, db.job jobId = some j → j.inScope (some tenantId) (some workspaceId) = true → j.state ≠ .approved
  | _ => True

section

variable {db : Db} {s : Step} {j j' : Job}

theorem holds_state {l : Lease} {allow : Bool} {now : Time} (h : l.holds allow now j = true) :
    j.state = .leased ∨ j.state = .cancelRequested := by
  simp only [Lease.holds, Bool.and_eq_true, Bool.or_eq_true, beq_iff_eq] at h
  exact h.1.1.1.1.imp_right (·.2)

theorem Kept.of_open (states : List JobState) (h : j.state ∈ states)
    (hs : ∀ x ∈ states, x ∉ absorbing ∧ x ≠ .deadLetter) : Kept s j j' :=
  ⟨fun ha => absurd ha (hs _ h).1, fun hd => absurd hd (hs _ h).2⟩

theorem Kept.of_state (h : j'.state = j.state) : Kept s j j' := ⟨fun _ => h, fun hd => .inl (h.trans hd)⟩

theorem Kept.of_holds {l : Lease} {allow : Bool} {now : Time} (h : l.holds allow now j = true) : Kept s j j' :=
  .of_open [.leased, .cancelRequested] (by simpa using holds_state h) (by decide)

theorem change_kept (hs : s.sparesFinished db) (hj : db.job j.id = some j) (h : Change db s j j') : Kept s j j' := by
  cases h with
  | same => exact .of_state rfl
  | claimed c locked active op admitted candidate returned =>
    simp only [claimable, Bool.and_eq_true, Bool.or_eq_true, beq_iff_eq] at candidate
    exact .of_open [.queued, .retryWait] (by simpa using candidate.1.1.1.1.1.1) (by decide)
  | renewed => exact .of_state rfl
  | streamed => exact .of_state rfl
  | finished l e completion op ends id holds success => exact .of_holds holds
  | confirmed l op id holds requested => exact .of_holds holds
  | recoveredCancelled org ws op state expired =>
    exact .of_open [.cancelRequested] (by simpa using state) (by decide)
  | recoveredRetry org ws op scope state => exact .of_open [.leased] (by simpa using state) (by decide)
  | recoveredDead org ws op exhausted =>
    simp only [Ai.exhausted, Bool.and_eq_true, beq_iff_eq] at exhausted
    exact .of_open [.leased] (by simpa using exhausted.1.1.1.1) (by decide)
  | expired org ws op state deadline =>
    exact .of_open [.queued, .retryWait, .leased] (by simpa using state) (by decide)
  | retried approvalId org ws op d letter licensed state below =>
    exact ⟨fun ha => absurd ha (by rw [state]; decide), fun _ => .inr ⟨rfl, approvalId, org, ws, op⟩⟩
  | consoleCancelled org ws op scope state =>
    -- only the two idle states are written, and they are open
    by_cases hidle : j.state = .queued ∨ j.state = .retryWait
    · exact .of_open [.queued, .retryWait] (by simpa using hidle) (by decide)
    · exact .of_state (consoleRow_busy s.now hidle)
  | orchestrationCancelled org ws op scope state =>
    simp only [Step.sparesFinished, op] at hs
    have hne := hs j hj scope
    refine ⟨fun ha => absurd ha ?_, fun hd => absurd (hd ▸ state) (by decide)⟩
    revert state hne
    cases j.state <;> decide
  | decided org ws actorId approved reason op pending =>
    simp only [Step.sparesFinished, op] at hs
    obtain ⟨hd, ha⟩ := hs pending j hj
    exact ⟨fun h => (ha h).symm, fun h => absurd h hd⟩

theorem decide_job {jobId org ws : Uuid} (actorId reason : String) (approved : Bool) (now : Time)
    (hp : (pendingApproval db jobId org ws).isSome = true) (hj : db.job jobId = some j) :
    ((Step.exec ⟨.decide jobId org ws actorId approved reason, now⟩ db).job jobId).map (·.state) =
      some (if approved then .approved else .rejected) := by
  obtain ⟨a, ha⟩ := Option.isSome_iff_exists.1 hp
  have hrow := job_updateJob_self (f := fun j =>
    { j with state := (if approved then ApprovalState.approved else .rejected).jobState }) (fun _ h => h) hj
  simp only [Step.exec, Step.effect, Orchestration.decide, ha]
  refine (congrArg (Option.map Job.state) hrow).trans ?_
  cases approved <;> rfl

theorem orchestrationCancel_job {jobId org ws : Uuid} {now : Time} (hj : db.job jobId = some j)
    (hscope : j.inScope (some org) (some ws) = true) (hstate : j.state = .approved) :
    (Step.exec ⟨.orchestrationCancel jobId org ws, now⟩ db).job jobId =
      some { j with cancelRequestedAt := some (j.cancelRequestedAt.getD now), state := .cancelRequested } := by
  have hid := job_id hj
  have hrow := job_updateJob_self (f := fun _ =>
    { j with cancelRequestedAt := some (j.cancelRequestedAt.getD now), state := .cancelRequested }) (fun _ _ => hid) hj
  have hopen : (!true || (finalStates ++ [JobState.expired, JobState.rejected]).contains JobState.approved) = false := by
    decide
  have hidle : [JobState.queued, .available, .retryWait, .approvalRequired].contains JobState.approved = false := by
    decide
  simp only [Step.exec, Step.effect, Orchestration.cancel, hj, hscope, hstate, hopen, hidle]
  exact hrow

/-- A transaction keeps the finished jobs exactly when it meets the condition. -/
theorem step_kept_iff (hk : Keyed db) (s : Step) : s.sparesFinished db ↔
    ∀ id j, db.job id = some j → ∃ j', (s.exec db).job id = some j' ∧ Kept s j j' := by
  constructor
  · intro hs id j hj
    obtain ⟨j', hj', hc⟩ := exec_row hk s hj
    obtain rfl := job_id hj
    exact ⟨j', hj', change_kept hs hj hc⟩
  · intro h
    obtain ⟨op, now⟩ := s
    cases op with
    | decide jobId org ws actorId approved reason =>
      intro hp j hj
      obtain ⟨j', hj', hkept⟩ := h jobId j hj
      have hstate := decide_job actorId reason approved now hp hj
      rw [hj', Option.map_some, Option.some.injEq] at hstate
      refine ⟨fun hd => ?_, fun ha => (hkept.stays ha).symm.trans hstate⟩
      have hrev := hkept.revived hd
      rw [hstate] at hrev
      cases approved <;> simp at hrev
    | orchestrationCancel jobId org ws =>
      intro j hj hscope hstate
      obtain ⟨j', hj', hkept⟩ := h jobId j hj
      rw [orchestrationCancel_job hj hscope hstate, Option.some.injEq] at hj'
      have hstays := hkept.stays (by rw [hstate]; decide)
      rw [← hj', hstate] at hstays
      exact absurd hstays (by simp)
    | _ => trivial

end

/-! ## Runs -/

/-- A job that is finished at some point of a run is so, in the same state, at every later point; a dead letter leaves
its state only by a manual retry. -/
structure FinalityHolds (registrations : Dict String Registration) (steps : List Step) : Prop where
  stays : ∀ done later rest, steps = done ++ later ++ rest → ∀ id j, (run registrations done).job id = some j →
    j.state ∈ absorbing → ∃ j', (run registrations (done ++ later)).job id = some j' ∧ j'.state = j.state
  revived : ∀ (done : List Step) s (rest : List Step), steps = done ++ s :: rest → ∀ id j, (run registrations done).job id = some j →
    j.state = .deadLetter → ∃ j', (run registrations (done ++ [s])).job id = some j' ∧
      (j'.state = .deadLetter ∨ j'.state = .retryWait ∧ ∃ approvalId org ws, s.op = .retryDeadLetter id approvalId org ws)

/-- Finished jobs stay finished in a run exactly when none of its transactions decides about one or cancels an approved
one. -/
theorem finality_iff (registrations : Dict String Registration) (steps : List Step) :
    FinalityHolds registrations steps ↔
      ∀ done s rest, steps = done ++ s :: rest → s.sparesFinished (run registrations done) := by
  constructor
  · intro h done s rest hsteps
    refine (step_kept_iff (run_keyed done) s).2 fun id j hj => ?_
    obtain ⟨j', hj', -⟩ := exec_row (run_keyed done) s hj
    refine ⟨j', hj', fun ha => ?_, fun hd => ?_⟩
    · obtain ⟨x, hx, hxs⟩ := h.stays done [s] rest (by simp [hsteps]) id j hj ha
      rw [run_concat, hj'] at hx
      exact Option.some.inj hx ▸ hxs
    · obtain ⟨x, hx, hxs⟩ := h.revived done s rest hsteps id j hj hd
      rw [run_concat, hj'] at hx
      rw [job_id hj]
      exact Option.some.inj hx ▸ hxs
  · intro h
    have hstep : ∀ done s rest, steps = done ++ s :: rest → ∀ id j, (run registrations done).job id = some j →
        ∃ j', (run registrations (done ++ [s])).job id = some j' ∧ Kept s j j' := by
      intro done s rest hsteps
      rw [run_concat]
      exact (step_kept_iff (run_keyed done) s).1 (h done s rest hsteps)
    constructor
    · intro done later
      -- forward along the later transactions, each of which keeps the state
      induction later using List.reverseRecOn with
      | nil =>
        intro rest _ id j hj _
        exact ⟨j, by simpa using hj, rfl⟩
      | append_singleton later s ih =>
        intro rest hsteps id j hj ha
        obtain ⟨j₁, hj₁, hs₁⟩ := ih (s :: rest) (by simp [hsteps]) id j hj ha
        obtain ⟨j₂, hj₂, hkept⟩ := hstep (done ++ later) s rest (by simp [hsteps]) id j₁ hj₁
        rw [← List.append_assoc]
        exact ⟨j₂, hj₂, (hkept.stays (hs₁ ▸ ha)).trans hs₁⟩
    · intro done s rest hsteps id j hj hd
      obtain ⟨j', hj', hkept⟩ := hstep done s rest hsteps id j hj
      have hrev := hkept.revived hd
      rw [job_id hj] at hrev
      exact ⟨j', hj', hrev⟩

/-! ## Approved after it was cancelled -/

namespace Synthetic

/-- The worker stores its result, the command is cancelled while it waits for approval, and then approved. -/
def approvedLate : List Step :=
  [⟨.insertJob job, 0⟩, claimed 1,
    ⟨.completeJob (worker 1) (some { jobId := "job", commandId := "job", output := .null, approvalId := "approval" }) "c", 2⟩,
    ⟨.orchestrationCancel "job" "org" "ws", 3⟩, ⟨.decide "job" "org" "ws" "operator" true "ok", 4⟩]

end Synthetic

/-- A cancelled job is approved by the decision on its pending approval. -/
theorem cancelled_then_approved : ¬ FinalityHolds ∅ Synthetic.approvedLate := by
  intro h
  have hcheck : ((run ∅ (Synthetic.approvedLate.take 4)).job "job").map (·.state) = some .cancelled ∧
      ((run ∅ Synthetic.approvedLate).job "job").map (·.state) = some .approved := by decide +kernel
  obtain ⟨j, hj, hstate⟩ := Option.map_eq_some_iff.1 hcheck.1
  obtain ⟨j', hj', hstate'⟩ := h.stays (Synthetic.approvedLate.take 4) (Synthetic.approvedLate.drop 4) []
    (by simp) "job" j hj (by rw [hstate]; decide)
  rw [List.take_append_drop] at hj'
  rw [hj', Option.map_some, hstate', hstate] at hcheck
  exact absurd hcheck.2 (by decide)

end Middleware.Ai
