/-
What one transaction does to a job. A row is left alone or changed in one of the ways of `Change`, each with the guards
under which the transaction makes it; the invariants of the queue are case analyses over `Change` and never look
into the operations again.
-/
import Middleware.Ai.Effects

namespace Middleware.Ai

open Ledger Lib

/-- How a transaction may change a job. -/
inductive Change (db : Db) (s : Step) (j : Job) : Job → Prop
  | same : Change db s j j
  | claimed (c : ClaimRequest) (locked : List Uuid) (active : List (Option String)) (op : s.op = .claim c locked)
      (admitted : admitWorker db c s.now = .ok active)
      (candidate : claimable c (profileFilter c (effectiveCompatibleProfiles active c.allowedModelProfiles)) s.now j = true)
      (returned : s.claims db = some (claimRow c s.now j)) : Change db s j (claimRow c s.now j)
  | renewed (l : Lease) (seconds : Time) (op : s.op = .heartbeat l seconds) (id : l.jobId = j.id)
      (holds : l.holds true s.now j = true) : Change db s j { j with leaseExpiresAt := some (s.now + seconds) }
  | streamed (l : Lease) (sequence : Int) (content : String) (limit : Nat)
      (op : s.op = .appendChunk l sequence content limit) (id : l.jobId = j.id) (holds : l.holds false s.now j = true) :
      Change db s j { j with outputBytes := j.outputBytes + content.utf8ByteSize }
  | finished (l : Lease) (e : Ending) (completion : JobState) (op : s.op.lease = some l)
      (ends : s.op = .finish l e ∨ e.failed = false) (id : l.jobId = j.id) (holds : l.holds true s.now j = true)
      (success : completion = .completed ∨ completion = .approvalRequired) :
      Change db s j (finishRow e (finishState e completion j) s.now j)
  | confirmed (l : Lease) (op : s.op = .workerCancel l) (id : l.jobId = j.id) (holds : l.holds true s.now j = true)
      (requested : j.cancelRequestedAt.isSome = true) :
      Change db s j { j with state := .cancelled, leaseOwner := none, leaseExpiresAt := none, completedAt := some s.now }
  | recoveredCancelled (org ws : Option Uuid) (op : s.op = .recoverExpired org ws) (state : j.state = .cancelRequested)
      (expired : leaseExpired s.now j = true) :
      Change db s j { j with state := .cancelled, leaseOwner := none, leaseExpiresAt := none, completedAt := some s.now }
  | recoveredRetry (org ws : Option Uuid) (op : s.op = .recoverExpired org ws) (scope : j.inScope org ws = true)
      (state : j.state = .leased) (expired : leaseExpired s.now j = true) (left : j.attemptCount < j.maxAttempts)
      (deadline : beforeDeadline s.now j = true) :
      Change db s j { j with state := .retryWait, leaseOwner := none, leaseExpiresAt := none, nextAttemptAt := s.now }
  | recoveredDead (org ws : Option Uuid) (op : s.op = .recoverExpired org ws)
      (exhausted : exhausted org ws s.now j = true) :
      Change db s j { j with
        state := .deadLetter, leaseOwner := none, leaseExpiresAt := none, failureCode := some "lease_expired"
        completedAt := some s.now }
  | expired (org ws : Option Uuid) (op : s.op = .expireDeadlines org ws)
      (state : j.state = .queued ∨ j.state = .retryWait ∨ j.state = .leased)
      (deadline : (j.deadlineAt.any fun t => decide (t ≤ s.now)) = true) :
      Change db s j { j with
        state := .expired, leaseOwner := none, leaseExpiresAt := none, failureCode := some "deadline_expired"
        completedAt := some s.now }
  | retried (approvalId org ws : Uuid) (op : s.op = .retryDeadLetter j.id approvalId org ws) (d : DeadLetter)
      (letter : d ∈ db.deadLetters) (licensed : retryLicensed db j.id approvalId org ws d = true)
      (state : j.state = .deadLetter) (below : j.maxAttempts < 10) :
      Change db s j (retriedRow s.now j)
  | consoleCancelled (org ws : Uuid) (op : s.op = .consoleCancel j.id org ws)
      (scope : j.inScope (some org) (some ws) = true) (state : j.state ∉ finalStates) : Change db s j (consoleRow s.now j)
  | orchestrationCancelled (org ws : Uuid) (op : s.op = .orchestrationCancel j.id org ws)
      (scope : j.inScope (some org) (some ws) = true) (state : j.state ∉ finalStates ++ [JobState.expired, JobState.rejected]) :
      Change db s j (orchestrationRow s.now j)
  | decided (org ws : Uuid) (actorId : String) (approved : Bool) (reason : String)
      (op : s.op = .decide j.id org ws actorId approved reason) (pending : (pendingApproval db j.id org ws).isSome = true) :
      Change db s j { j with state := if approved then .approved else .rejected }

/-! ## Reading a row after an update -/

section Rows

variable {db : Db} {id i : Uuid} {j : Job} {f : Job → Job}

theorem job_updateJob (hf : ∀ j, j.id = i → (f j).id = i) :
    (db.updateJob i f).job id = (db.job id).map fun j => if id = i then f j else j := find_map_at hf db.jobs

theorem job_updateJob_ne (h : id ≠ i) (hf : ∀ j, j.id = i → (f j).id = i) : (db.updateJob i f).job id = db.job id := by
  rw [job_updateJob hf]
  simp [h]

theorem job_updateJob_self (hf : ∀ j, j.id = i → (f j).id = i) (h : db.job i = some j) :
    (db.updateJob i f).job i = some (f j) := by
  rw [job_updateJob hf, h, Option.map_some, if_pos rfl]

/-- No two jobs share an id. -/
abbrev Keyed (db : Db) : Prop := (db.jobs.map (·.id)).Nodup

end Rows

/-! ## One transaction -/

section Step

variable {db : Db} {s : Step} {id : Uuid}

/-- What the rows of a job before and after a transaction have to do with each other. -/
inductive JobStep (db : Db) (s : Step) (id : Uuid) : Option Job → Option Job → Prop
  | absent : JobStep db s id none none
  | inserted (j : Job) (op : s.op = .insertJob j) (of : j.id = id) (attempts : 1 ≤ j.maxAttempts) :
      JobStep db s id none (some (newRow j s.now))
  | changed {j j' : Job} (of : j.id = id) (h : Change db s j j') : JobStep db s id (some j) (some j')

/-- What a transaction that commits leaves of the jobs: the rows in their order, changed one by one, or a new row behind. -/
inductive JobsStep (db : Db) (s : Step) (jobs : List Job) : Prop
  | inserted (j : Job) (op : s.op = .insertJob j) (unused : db.job j.id = none) (attempts : 1 ≤ j.maxAttempts)
      (h : jobs = db.jobs ++ [newRow j s.now])
  | mapped (f : Job → Job) (h : jobs = db.jobs.map f) (ids : ∀ j, (f j).id = j.id)
      (changed : ∀ j, db.job j.id = some j → Change db s j (f j))

theorem JobsStep.same : JobsStep db s db.jobs :=
  .mapped (fun j => j) (by simp) (fun _ => rfl) fun _ _ => .same

theorem JobsStep.update {i : Uuid} {f : Job → Job} (hf : ∀ j, j.id = i → (f j).id = i)
    (h : ∀ j, db.job i = some j → Change db s j (f j)) : JobsStep db s (db.updateJob i f).jobs := by
  refine .mapped (fun j => if j.id = i then f j else j) rfl (fun j => ?_) fun j hj => ?_
  · split
    · rename_i hi
      rw [hf j hi, hi]
    · rfl
  · split
    · rename_i hi
      exact h j (hi ▸ hj)
    · exact .same

/-- The three updates of `recover_expired` on one row. -/
def recoverRow (org ws : Option Uuid) (now : Time) (j : Job) : Job :=
  recoverDead org ws now (recoverRetry org ws now (recoverCancelled org ws now j))

theorem recoverRow_id (org ws : Option Uuid) (now : Time) (j : Job) : (recoverRow org ws now j).id = j.id := by
  unfold recoverRow recoverDead recoverRetry recoverCancelled
  split <;> split <;> split <;> rfl

theorem recoverExpired_jobs (org ws : Option Uuid) (now : Time) (db : Db) :
    (recoverExpired org ws now db).jobs = db.jobs.map (recoverRow org ws now) := by
  simp [recoverExpired, recoverRow, Function.comp_def]

theorem expireRow_id (org ws : Option Uuid) (now : Time) (j : Job) : (expireRow org ws now j).id = j.id := by
  unfold expireRow
  split <;> rfl

/-- At most one of the three updates finds a row. -/
theorem recoverRow_cases (org ws : Option Uuid) (now : Time) (j : Job) :
    recoverRow org ws now j = j ∨
    (j.state = .cancelRequested ∧ leaseExpired now j = true ∧ recoverRow org ws now j =
      { j with state := .cancelled, leaseOwner := none, leaseExpiresAt := none, completedAt := some now }) ∨
    (j.state = .leased ∧ leaseExpired now j = true ∧ j.attemptCount < j.maxAttempts ∧ beforeDeadline now j = true ∧
      j.inScope org ws = true ∧ recoverRow org ws now j =
        { j with state := .retryWait, leaseOwner := none, leaseExpiresAt := none, nextAttemptAt := now }) ∨
    (exhausted org ws now j = true ∧ recoverRow org ws now j =
      { j with
        state := .deadLetter, leaseOwner := none, leaseExpiresAt := none, failureCode := some "lease_expired"
        completedAt := some now }) := by
  unfold recoverRow
  by_cases hc : j.state = .cancelRequested ∧ leaseExpired now j ∧ j.inScope org ws
  · have hrow : recoverCancelled org ws now j =
        { j with state := .cancelled, leaseOwner := none, leaseExpiresAt := none, completedAt := some now } := if_pos hc
    rw [hrow, recoverRetry, if_neg (by simp), recoverDead, if_neg (by simp [exhausted])]
    exact .inr (.inl ⟨hc.1, hc.2.1, rfl⟩)
  · rw [show recoverCancelled org ws now j = j from if_neg hc]
    by_cases hr : j.state = .leased ∧ leaseExpired now j ∧ j.attemptCount < j.maxAttempts ∧ beforeDeadline now j ∧
        j.inScope org ws
    · have hrow : recoverRetry org ws now j =
          { j with state := .retryWait, leaseOwner := none, leaseExpiresAt := none, nextAttemptAt := now } := if_pos hr
      rw [hrow, recoverDead, if_neg (by simp [exhausted])]
      exact .inr (.inr (.inl ⟨hr.1, hr.2.1, hr.2.2.1, hr.2.2.2.1, hr.2.2.2.2, rfl⟩))
    · rw [show recoverRetry org ws now j = j from if_neg hr]
      by_cases hd : exhausted org ws now j
      · rw [recoverDead, if_pos hd]
        exact .inr (.inr (.inr ⟨hd, rfl⟩))
      · rw [recoverDead, if_neg hd]
        exact .inl rfl

theorem recoverRow_change {org ws : Option Uuid} (hop : s.op = .recoverExpired org ws) (j : Job) :
    Change db s j (recoverRow org ws s.now j) := by
  rcases recoverRow_cases org ws s.now j with h | ⟨hst, hexp, h⟩ | ⟨hst, hexp, hleft, hdead, hscope, h⟩ | ⟨hd, h⟩
  · rw [h]; exact .same
  · rw [h]; exact .recoveredCancelled org ws hop hst hexp
  · rw [h]; exact .recoveredRetry org ws hop hscope hst hexp hleft hdead
  · rw [h]; exact .recoveredDead org ws hop hd

theorem exec_jobs (hk : Keyed db) (s : Step) : JobsStep db s (s.exec db).jobs := by
  have heffect := exec_effect s db
  generalize s.exec db = db' at heffect
  cases heffect with
  | nothing => exact .same
  | insertedJob j op unused attempts => exact .inserted j op unused attempts rfl
  | claimed c locked active j op admitted row candidate returned attempts =>
    refine JobsStep.update (f := claimRow c s.now) (fun _ h => h) fun x hx => ?_
    cases Option.some.inj ((find_of_mem hk row).symm.trans hx)
    exact .claimed c locked active op admitted candidate returned
  | renewed l seconds j op row holds =>
    refine JobsStep.update (fun _ h => h) fun x hx => ?_
    cases Option.some.inj (row.symm.trans hx)
    exact .renewed l seconds op (job_id row).symm holds
  | streamed l sequence content limit j op row holds unused =>
    refine JobsStep.update (fun _ h => h) fun x hx => ?_
    cases Option.some.inj (row.symm.trans hx)
    exact .streamed l sequence content limit op (job_id row).symm holds
  | finished l e completion results approvals j op ends success asks row holds =>
    refine JobsStep.update (f := finishRow e (finishState e completion j) s.now) (fun _ h => h) fun x hx => ?_
    cases Option.some.inj (row.symm.trans hx)
    exact .finished l e completion op ends (job_id row).symm holds success
  | confirmed l j attempts op row holds requested =>
    refine JobsStep.update (fun _ h => h) fun x hx => ?_
    cases Option.some.inj (row.symm.trans hx)
    exact .confirmed l op (job_id row).symm holds requested
  | recovered org ws op =>
    exact .mapped _ (recoverExpired_jobs org ws s.now db) (recoverRow_id org ws s.now) fun j _ => recoverRow_change op j
  | expired org ws op =>
    refine .mapped _ rfl (expireRow_id org ws s.now) fun j _ => ?_
    unfold expireRow
    split
    · rename_i hg
      exact .expired org ws op hg.1 hg.2.1
    · exact .same
  | retried i approvalId org ws j d op row letter licensed state below =>
    refine JobsStep.update (f := retriedRow s.now) (fun _ h => h) fun x hx => ?_
    cases Option.some.inj (row.symm.trans hx)
    obtain rfl := job_id row
    exact .retried approvalId org ws op d letter licensed state below
  | consoleCancelled i org ws j op row scope state =>
    obtain rfl := job_id row
    refine JobsStep.update (fun _ _ => rfl) fun x hx => ?_
    cases Option.some.inj (row.symm.trans hx)
    exact .consoleCancelled org ws op scope state
  | orchestrationCancelled i org ws j op row scope state =>
    obtain rfl := job_id row
    refine JobsStep.update (fun _ _ => rfl) fun x hx => ?_
    cases Option.some.inj (row.symm.trans hx)
    exact .orchestrationCancelled org ws op scope state
  | decided i org ws actorId approved reason approvals op pending settles =>
    refine JobsStep.update (fun _ h => h) fun x hx => ?_
    obtain rfl := job_id hx
    exact .decided org ws actorId approved reason op pending
  | insertedApproval => exact .same

theorem step_job (hk : Keyed db) (s : Step) (id : Uuid) : JobStep db s id (db.job id) ((s.exec db).job id) := by
  unfold Db.job
  cases exec_jobs hk s with
  | inserted j op unused hmax h =>
    rw [h, find_append_row]
    cases hj : db.jobs.find? fun x => decide (x.id = id) with
    | some x => exact .changed (key_of_find hj) .same
    | none =>
      by_cases hi : j.id = id
      · rw [if_pos (show (newRow j s.now).id = id from hi)]
        exact .inserted j op hi hmax
      · rw [if_neg (show ¬(newRow j s.now).id = id from hi)]
        exact .absent
  | mapped f h ids changed =>
    rw [h, find_map_row ids]
    cases hj : db.jobs.find? fun x => decide (x.id = id) with
    | none => exact .absent
    | some x =>
      have hx := key_of_find hj
      exact .changed hx (changed x (hx ▸ hj))

theorem exec_row (hk : Keyed db) (s : Step) {j : Job} (hj : db.job id = some j) :
    ∃ j', (s.exec db).job id = some j' ∧ Change db s j j' := by
  have hstep := step_job hk s id
  rw [hj] at hstep
  generalize (s.exec db).job id = after at hstep
  cases hstep with
  | changed of h => exact ⟨_, rfl, h⟩

theorem exec_row_back (hk : Keyed db) (s : Step) {j' : Job} (hj' : (s.exec db).job id = some j') :
    (∃ j, db.job id = some j ∧ Change db s j j') ∨
      db.job id = none ∧ ∃ j, s.op = .insertJob j ∧ 1 ≤ j.maxAttempts ∧ j' = newRow j s.now := by
  have hstep := step_job hk s id
  rw [hj'] at hstep
  generalize db.job id = before at hstep
  cases hstep with
  | inserted j op of attempts => exact .inr ⟨rfl, j, op, attempts, rfl⟩
  | changed of h => exact .inl ⟨_, rfl, h⟩

theorem step_keyed (hk : Keyed db) (s : Step) : Keyed (s.exec db) := by
  unfold Keyed
  cases exec_jobs hk s with
  | inserted j op unused hmax h =>
    rw [h]
    exact nodup_keys_append (r := newRow j s.now) hk unused
  | mapped f h ids changed =>
    have hids : ((fun j : Job => j.id) ∘ f) = fun j => j.id := funext ids
    rw [h, List.map_map, hids]
    exact hk

/-- A change keeps the job's tenant, and only a claim moves its fencing token. -/
theorem change_frame {j j' : Job} (h : Change db s j j') :
    j'.organizationId = j.organizationId ∧ j'.workspaceId = j.workspaceId ∧
      (j'.fencingToken = j.fencingToken ∨ j'.fencingToken = j.fencingToken + 1 ∧ s.claims db = some j') := by
  cases h with
  | claimed c locked active op admitted candidate returned => exact ⟨rfl, rfl, .inr ⟨rfl, returned⟩⟩
  | _ => exact ⟨rfl, rfl, .inl rfl⟩

theorem claims_row {row : Job} (hk : Keyed db) (h : s.claims db = some row) :
    ∃ c locked active j, s.op = .claim c locked ∧ admitWorker db c s.now = .ok active ∧ db.job row.id = some j ∧
      row = claimRow c s.now j ∧ (s.exec db).job row.id = some row := by
  obtain ⟨op, now⟩ := s
  cases op with
  | claim c locked =>
    unfold Step.claims at h
    dsimp only at h
    split at h
    · rename_i r hr
      obtain ⟨r, db'⟩ := r
      dsimp only at h
      rcases claim_ok hr with ⟨hnone, -⟩ | ⟨j, active, hadm, hmem, -, hrow, hdb⟩
      · rw [h] at hnone
        cases hnone
      · cases h.symm.trans hrow
        have hj := find_of_mem hk hmem
        refine ⟨c, locked, active, j, rfl, hadm, hj, rfl, ?_⟩
        have hexec : Step.exec ⟨.claim c locked, now⟩ db = db' := by
          simp only [Step.exec, Step.effect, hr]
          rfl
        rw [hexec, hdb]
        exact job_updateJob_self (f := claimRow c now) (fun _ h => h) hj
    · cases h
  | _ => cases h

end Step

/-! ## Runs -/

section Run

variable {registrations : Dict String Registration}

theorem run_concat (registrations : Dict String Registration) (steps : List Step) (s : Step) :
    run registrations (steps ++ [s]) = s.exec (run registrations steps) := by
  simp [run, List.foldl_append]

theorem run_keyed (steps : List Step) : Keyed (run registrations steps) := by
  induction steps using List.reverseRecOn with
  | nil => exact List.nodup_nil
  | append_singleton steps s ih =>
    rw [run_concat]
    exact step_keyed ih s

theorem run_approved (steps : List Step) : Approved (run registrations steps).approvals := by
  induction steps using List.reverseRecOn with
  | nil => exact List.nodup_nil
  | append_singleton steps s ih =>
    rw [run_concat]
    exact exec_approved s ih

/-- What holds of a new row and is kept by every change is true of every job in every run whose steps allow it. -/
theorem run_invariant {P : Job → Prop} {C : Db → Step → Prop} (hnew : ∀ j now, 1 ≤ j.maxAttempts → P (newRow j now))
    (hstep : ∀ db s j j', C db s → db.job j.id = some j → Change db s j j' → P j → P j') (steps : List Step)
    (hok : ∀ done s rest, steps = done ++ s :: rest → C (run registrations done) s) :
    ∀ id j, (run registrations steps).job id = some j → P j := by
  induction steps using List.reverseRecOn with
  | nil => intro id j h; cases h
  | append_singleton steps s ih =>
    intro id j' hj'
    have ih := ih fun done x rest h => hok done x (rest ++ [s]) (by rw [h]; simp)
    have hs := hok steps s [] rfl
    rw [run_concat] at hj'
    rcases exec_row_back (run_keyed steps) s hj' with ⟨j, hj, hc⟩ | ⟨-, j, -, hmax, rfl⟩
    · obtain rfl := job_id hj
      exact hstep _ s j j' hs hj hc (ih _ _ hj)
    · exact hnew j s.now hmax

end Run

/-! ## A job and its worker -/

namespace Synthetic

def job : Job :=
  { id := "job", organizationId := "org", workspaceId := "ws", idempotencyKey := "key-1", requestSha256 := "0", maxAttempts := 1,
    nextAttemptAt := 0, createdAt := 0, approvalRequired := true }

def worker (token : Nat) : Lease := { jobId := "job", workerId := "w1", fencingToken := token }

def claimed (now : Time) : Step := ⟨.claim { workerId := "w1", leaseSeconds := 60 } [], now⟩

end Synthetic

end Middleware.Ai
