/-
What a transaction leaves. Each operation that commits has one inversion lemma, and `Effect` collects them: the tables
after a transaction are the tables before with the writes of one of its constructors, under the guards of the code.
-/
import Middleware.Lib.Rows
import Middleware.Ai.Jobs

namespace Middleware.Ai

open Ledger Lib

def newRow (j : Job) (now : Time) : Job :=
  { j with
    state := .queued, attemptCount := 0, fencingToken := 0, leaseOwner := none, leaseExpiresAt := none
    nextAttemptAt := now, cancelRequestedAt := none, completedAt := none, failureCode := none, outputBytes := 0
    createdAt := now }

/-- The row `cancel` of the console leaves. -/
def consoleRow (now : Time) (j : Job) : Job :=
  { j with
    cancelRequestedAt := some (j.cancelRequestedAt.getD now)
    state := if j.state == .queued || j.state == .retryWait then .cancelled else j.state
    completedAt := if j.state == .queued || j.state == .retryWait then some now else j.completedAt }

/-- The row `cancel` of the orchestration leaves. -/
def orchestrationRow (now : Time) (j : Job) : Job :=
  { j with
    cancelRequestedAt := some (j.cancelRequestedAt.getD now)
    state := if [JobState.queued, .available, .retryWait, .approvalRequired].contains j.state then .cancelled
      else .cancelRequested
    completedAt := if [JobState.queued, .available, .retryWait, .approvalRequired].contains j.state then some now
      else j.completedAt }

section Rows

variable {j : Job} (now : Time)

theorem consoleRow_idle (h : j.state = .queued ∨ j.state = .retryWait) : (consoleRow now j).state = .cancelled :=
  if_pos (by simpa using h)

theorem consoleRow_busy (h : ¬(j.state = .queued ∨ j.state = .retryWait)) : (consoleRow now j).state = j.state :=
  if_neg (by simpa using h)

theorem orchestrationRow_idle (h : j.state ∈ [JobState.queued, .available, .retryWait, .approvalRequired]) :
    (orchestrationRow now j).state = .cancelled :=
  if_pos (List.contains_iff_mem.2 h)

theorem orchestrationRow_busy (h : j.state ∉ [JobState.queued, .available, .retryWait, .approvalRequired]) :
    (orchestrationRow now j).state = .cancelRequested :=
  if_neg fun hc => h (List.contains_iff_mem.1 hc)

end Rows

def retriedRow (now : Time) (j : Job) : Job :=
  { j with
    state := .retryWait, maxAttempts := j.maxAttempts + 1, nextAttemptAt := now, failureCode := none
    completedAt := none }

/-- The dead letter a manual retry leaves. -/
def usedLetter (d : DeadLetter) : DeadLetter :=
  { d with recoveryStatus := "approved_retry", manualRetryRequiresNewApproval := false }

/-- The tables a manual retry leaves. -/
def retriedDb (id : Uuid) (now : Time) (db : Db) : Db :=
  { db.updateJob id (retriedRow now) with
    deadLetters := db.deadLetters.map fun d => if d.jobId = id then usedLetter d else d }

variable {id : Uuid}

theorem job_id {db : Db} {j : Job} (h : db.job id = some j) : j.id = id := key_of_find h

/-! ## What the operations that commit leave -/

theorem bind_ok {α β : Type} {x : Except Exc α} {f : α → Except Exc β} {b : β} (h : (x >>= f) = .ok b) :
    ∃ a, x = .ok a ∧ f a = .ok b := by
  cases x with
  | error e => cases h
  | ok a => exact ⟨a, rfl, h⟩

section Effects

variable {db db' : Db} {now : Time} {l : Lease}

theorem claim_ok {c : ClaimRequest} {locked : List Uuid} {r : Option Job} (h : claim c locked now db = .ok (r, db')) :
    (r = none ∧ db' = db) ∨ ∃ j active, admitWorker db c now = .ok active ∧ j ∈ db.jobs ∧
      claimable c (profileFilter c (effectiveCompatibleProfiles active c.allowedModelProfiles)) now j = true ∧
      r = some (claimRow c now j) ∧ db' = { db.updateJob j.id (claimRow c now) with
        attempts := db.attempts ++
          [⟨j.id, j.attemptCount + 1, j.fencingToken + 1, c.workerId, .leased, none, none⟩] } := by
  unfold claim at h
  split at h
  · cases h
  · split at h
    · cases h
    · rename_i active hadm
      dsimp only at h
      split at h
      · cases h; exact .inl ⟨rfl, rfl⟩
      · split at h
        · cases h; exact .inl ⟨rfl, rfl⟩
        · rename_i j hj
          split at h
          · cases h
          · cases h
            have hmem := List.mem_of_mem_head? hj
            rw [List.mem_insertionSort, List.mem_filter, Bool.and_eq_true] at hmem
            exact .inr ⟨j, active, hadm, hmem.1, hmem.2.1, rfl, rfl⟩

theorem assertLease_ok {allow : Bool} {j : Job} (h : assertLease l allow now db = .ok j) :
    db.job l.jobId = some j ∧ l.holds allow now j = true := by
  unfold assertLease at h
  split at h
  · rename_i x hx
    split at h
    · rename_i hh
      cases h
      exact ⟨hx, hh⟩
    · cases h
  · cases h

theorem heartbeat_ok {seconds : Time} {r : Time} (h : heartbeat l seconds now db = .ok (r, db')) :
    ∃ j, db.job l.jobId = some j ∧ l.holds true now j = true ∧
      db' = db.updateJob l.jobId fun j => { j with leaseExpiresAt := some (now + seconds) } := by
  obtain ⟨j, hj, hr⟩ := bind_ok h
  obtain ⟨hj, hh⟩ := assertLease_ok hj
  cases hr
  exact ⟨j, hj, hh, rfl⟩

theorem appendChunk_ok {sequence : Int} {content : String} {limit : Nat} {r : Bool}
    (h : appendChunk l sequence content limit now db = .ok (r, db')) :
    ∃ j, db.job l.jobId = some j ∧ l.holds false now j = true ∧
      ((∃ c ∈ db.chunks, c.jobId = l.jobId ∧ c.sequence = sequence) ∧ r = false ∧ db' = db ∨
        (∀ c ∈ db.chunks, c.jobId = l.jobId → c.sequence ≠ sequence) ∧ r = true ∧
        db' = { db.updateJob l.jobId fun j => { j with outputBytes := j.outputBytes + content.utf8ByteSize } with
          chunks := db.chunks ++
            [⟨l.jobId, j.organizationId, j.workspaceId, sequence, l.fencingToken, content⟩] }) := by
  obtain ⟨j, hj, hr⟩ := bind_ok h
  obtain ⟨hj, hh⟩ := assertLease_ok hj
  refine ⟨j, hj, hh, ?_⟩
  split at hr
  · cases hr
  · split at hr
    · rename_i hc
      cases hr
      obtain ⟨c, hmem, hc⟩ := List.any_eq_true.1 hc
      exact .inl ⟨⟨c, hmem, by simpa using hc⟩, rfl, rfl⟩
    · rename_i hc
      cases hr
      refine .inr ⟨fun c hmem hj hs => hc (List.any_eq_true.2 ⟨c, hmem, by simp [hj, hs]⟩), rfl, rfl⟩

/-- The tables `finish` leaves. -/
def finishedDb (l : Lease) (e : Ending) (state : JobState) (now : Time) (j : Job) (db : Db) : Db :=
  { db.updateJob l.jobId (finishRow e state now) with
    attempts := updateAttempts l.jobId l.fencingToken
      (fun a => { a with state := state, safeErrorCode := e.errorCode, finishedAt := some now }) db.attempts
    deadLetters := if state = .deadLetter then upsertLetter (finishLetter e now j) db.deadLetters else db.deadLetters }

variable {state : JobState}

theorem finish_ok {e : Ending} {completion : JobState} (h : finish l e completion now db = .ok (state, db')) :
    ∃ j, db.job l.jobId = some j ∧ l.holds true now j = true ∧ state = finishState e completion j ∧
      db' = finishedDb l e (finishState e completion j) now j db := by
  obtain ⟨j, hj, hr⟩ := bind_ok h
  obtain ⟨hj, hh⟩ := assertLease_ok hj
  cases hr
  exact ⟨j, hj, hh, rfl, rfl⟩

/-- No two approvals share an id. -/
def Approved (approvals : List Approval) : Prop := (approvals.map (·.id)).Nodup

theorem Approved.append {approvals : List Approval} {a : Approval} (h : Approved approvals)
    (hnew : ∀ x ∈ approvals, x.id ≠ a.id) : Approved (approvals ++ [a]) := by
  refine nodup_keys_append h (List.find?_eq_none.2 fun x hx => ?_)
  simpa using hnew x hx

/-- How a transaction may write the approvals: ids stay distinct, and a pending one was there before or is new. -/
structure Approves (before after : List Approval) (new : Approval → Prop) : Prop where
  ids : Approved before → Approved after
  pending : ∀ a ∈ after, a.state = .pending → a ∈ before ∨ new a

theorem Approves.refl (approvals : List Approval) (new : Approval → Prop) : Approves approvals approvals new :=
  ⟨fun h => h, fun _ ha _ => .inl ha⟩

theorem storeResult_frame (job : Job) (r : Result) (db : Db) :
    (Orchestration.storeResult job r db).2 =
      { db with
        results := (Orchestration.storeResult job r db).2.results
        approvals := (Orchestration.storeResult job r db).2.approvals } ∧
    ((Orchestration.storeResult job r db).1 = .completed ∨ (Orchestration.storeResult job r db).1 = .approvalRequired) := by
  refine ⟨rfl, ?_⟩
  unfold Orchestration.storeResult
  cases job.approvalRequired <;> simp

theorem storeResult_approves {job : Job} (hid : job.id = id) (r : Result) (db : Db) :
    Approves db.approvals (Orchestration.storeResult job r db).2.approvals (·.jobId = id) := by
  unfold Orchestration.storeResult
  dsimp only
  split
  · rename_i hg
    simp only [Bool.and_eq_true, Bool.not_eq_true', List.any_eq_false, Bool.or_eq_true, beq_iff_eq, not_or] at hg
    refine ⟨fun h => h.append fun x hx => (hg.2 x hx).2, fun a ha _ => ?_⟩
    rcases List.mem_append.1 ha with ha | ha
    · exact .inl ha
    · rw [List.mem_singleton.1 ha]
      exact .inr hid
  · exact .refl _ _

variable {correlationId : String}

/-- A completed job goes through `finish` after its result was stored, or nothing is written. -/
theorem completeJob_ok {r : Option Result}
    (h : completeJob l r correlationId now db = .ok (state, db')) :
    db' = db ∨ ∃ completion results approvals, (completion = .completed ∨ completion = .approvalRequired) ∧
      Approves db.approvals approvals (·.jobId = l.jobId) ∧
      finish l (.success correlationId) completion now { db with results := results, approvals := approvals } =
        .ok (state, db') := by
  obtain ⟨status, -, hr⟩ := bind_ok h
  cases status with
  | some s => cases hr; exact .inl rfl
  | none =>
    cases r with
    | none => exact .inr ⟨.completed, db.results, db.approvals, .inl rfl, .refl _ _, hr⟩
    | some r =>
      dsimp only at hr
      split at hr
      · cases hr
      · obtain ⟨job, hjob, hr⟩ := bind_ok hr
        obtain ⟨hf, hs⟩ := storeResult_frame job r db
        exact .inr ⟨_, _, _, hs, storeResult_approves (job_id (assertLease_ok hjob).1) r db, hr⟩

theorem processJob_ok {r : Result}
    (h : processJob l r correlationId now db = .ok (state, db')) :
    ∃ completion results approvals, (completion = .completed ∨ completion = .approvalRequired) ∧
      Approves db.approvals approvals (·.jobId = l.jobId) ∧
      finish l (.success correlationId) completion now { db with results := results, approvals := approvals } =
        .ok (state, db') := by
  unfold processJob at h
  split at h
  · cases h
  · rename_i job hjob
    exact ⟨_, _, _, (storeResult_frame job r db).2, storeResult_approves (job_id hjob) r db, h⟩

theorem workerCancel_ok {r : Bool × JobState} (h : workerCancel l now db = .ok (r, db')) :
    db' = db ∨ ∃ j attempts, db.job l.jobId = some j ∧ l.holds true now j = true ∧ j.cancelRequestedAt.isSome = true ∧
      db' = { db.updateJob l.jobId (fun j =>
        { j with state := .cancelled, leaseOwner := none, leaseExpiresAt := none, completedAt := some now }) with
        attempts := attempts } := by
  unfold workerCancel at h
  split at h
  · dsimp only at h
    split at h
    · cases h; exact .inl rfl
    · cases h
  · rename_i j hj
    obtain ⟨hj, hh⟩ := assertLease_ok hj
    split at h
    · cases h; exact .inl rfl
    · rename_i hc
      cases h
      exact .inr ⟨j, _, hj, hh, by simpa [Option.isSome_iff_ne_none] using hc, rfl⟩

variable {r : JobState}

theorem consoleCancel_ok {org ws : Uuid} (h : Console.cancel id org ws now db = .ok (r, db')) :
    ∃ j, db.job id = some j ∧ j.inScope (some org) (some ws) = true ∧ j.state ∉ finalStates ∧
      db' = db.updateJob id fun _ => consoleRow now j := by
  unfold Console.cancel at h
  split at h
  · cases h
  · rename_i j hj
    split at h
    · cases h
    · rename_i hg
      cases h
      simp only [Bool.or_eq_true, Bool.not_eq_true', List.contains_eq_mem, decide_eq_true_eq, not_or] at hg
      exact ⟨j, hj, by simpa using hg.1, hg.2, rfl⟩

theorem orchestrationCancel_ok {org ws : Uuid}
    (h : Orchestration.cancel id org ws now db = .ok (r, db')) :
    ∃ j, db.job id = some j ∧ j.inScope (some org) (some ws) = true ∧
      j.state ∉ finalStates ++ [JobState.expired, JobState.rejected] ∧
      db' = db.updateJob id fun _ => orchestrationRow now j := by
  unfold Orchestration.cancel at h
  split at h
  · cases h
  · rename_i j hj
    split at h
    · cases h
    · rename_i hg
      cases h
      rw [Bool.or_eq_true, not_or, List.contains_eq_mem, decide_eq_true_eq] at hg
      exact ⟨j, hj, by simpa using hg.1, hg.2, rfl⟩

theorem decide_ok {org ws : Uuid} {actorId reason : String} {approved : Bool}
    (h : Orchestration.decide id org ws actorId approved reason now db = .ok (r, db')) :
    ∃ approvals, (pendingApproval db id org ws).isSome = true ∧ Approves db.approvals approvals (fun _ => False) ∧
      db' = { db.updateJob id (fun j => { j with state := if approved then .approved else .rejected }) with
        approvals := approvals } := by
  unfold Orchestration.decide at h
  split at h
  · cases h
  · rename_i a ha
    cases h
    have happ : ∀ f : Approval → Approval, (∀ x, (f x).id = x.id ∧ (f x).state ≠ .pending) →
        Approves db.approvals (db.approvals.map fun x => if x.id = a.id then f x else x) fun _ => False := by
      refine fun f hf => ⟨fun h => ?_, fun x hx hp => ?_⟩
      · unfold Approved
        rw [keys_map_at (fun x hx => (hf x).1.trans hx)]
        exact h
      · obtain ⟨y, hy, rfl⟩ := List.mem_map.1 hx
        split at hp
        · exact absurd hp (hf y).2
        · rename_i hne
          rw [if_neg hne]
          exact .inl hy
    cases approved with
    | true =>
      refine ⟨_, by rw [ha]; rfl, ?_, rfl⟩
      exact happ _ fun x => ⟨rfl, by simp⟩
    | false =>
      refine ⟨_, by rw [ha]; rfl, ?_, rfl⟩
      exact happ _ fun x => ⟨rfl, by simp⟩

theorem retryDeadLetter_ok {approvalId org ws : Uuid}
    (h : retryDeadLetter id approvalId org ws now db = .ok (r, db')) :
    ∃ j d, db.job id = some j ∧ d ∈ db.deadLetters ∧ retryLicensed db id approvalId org ws d = true ∧
      j.state = .deadLetter ∧ j.maxAttempts < 10 ∧ db' = retriedDb id now db := by
  unfold retryDeadLetter at h
  split at h
  · cases h
  · rename_i d hd
    split at h
    · cases h
    · rename_i j hj
      split at h
      · cases h
      · rename_i hg
        cases h
        simp only [not_or, not_not, Nat.not_le] at hg
        exact ⟨j, d, hj, List.mem_of_find?_eq_some hd, List.find?_some hd, hg.1, hg.2, rfl⟩

theorem insertJob_ok {j : Job} (h : insertJob j now db = .ok db') : db.job j.id = none ∧ 1 ≤ j.maxAttempts ∧
    db' = { db with jobs := db.jobs ++ [newRow j now] } := by
  unfold insertJob at h
  split at h
  · cases h
  · rename_i hid
    split at h
    · cases h
    · split at h
      · cases h
      · split at h
        · cases h
        · cases h
          exact ⟨by simpa using hid, by omega, rfl⟩

theorem insertApproval_ok {a : Approval} (h : insertApproval a now db = .ok db') : (∀ x ∈ db.approvals, x.id ≠ a.id) ∧
    db' = { db with approvals := db.approvals ++ [{ a with state := .approved, decidedAt := some now }] } := by
  unfold insertApproval at h
  split at h
  · cases h
  · rename_i hid
    split at h
    · cases h
    · cases h
      exact ⟨by simpa using hid, rfl⟩

end Effects

/-! ## One transaction -/

def Op.lease : Op → Option Lease
  | .heartbeat l _ | .appendChunk l _ _ _ | .finish l _ | .completeJob l _ _ | .processJob l _ _ | .workerCancel l => some l
  | _ => none

/-- The row a claim returns to its worker. -/
def Step.claims (s : Step) (db : Db) : Option Job :=
  match s.op with
  | .claim c locked =>
    match claim c locked s.now db with
    | .ok r => r.1
    | .error _ => none
  | _ => none

inductive Effect (db : Db) (s : Step) : Db → Prop
  | nothing : Effect db s db
  | insertedJob (j : Job) (op : s.op = .insertJob j) (unused : db.job j.id = none) (attempts : 1 ≤ j.maxAttempts) :
      Effect db s { db with jobs := db.jobs ++ [newRow j s.now] }
  | claimed (c : ClaimRequest) (locked : List Uuid) (active : List (Option String)) (j : Job) (op : s.op = .claim c locked)
      (admitted : admitWorker db c s.now = .ok active) (row : j ∈ db.jobs)
      (candidate : claimable c (profileFilter c (effectiveCompatibleProfiles active c.allowedModelProfiles)) s.now j = true)
      (returned : s.claims db = some (claimRow c s.now j)) (attempts : List Attempt) :
      Effect db s { db.updateJob j.id (claimRow c s.now) with attempts := attempts }
  | renewed (l : Lease) (seconds : Time) (j : Job) (op : s.op = .heartbeat l seconds) (row : db.job l.jobId = some j)
      (holds : l.holds true s.now j = true) :
      Effect db s (db.updateJob l.jobId fun j => { j with leaseExpiresAt := some (s.now + seconds) })
  | streamed (l : Lease) (sequence : Int) (content : String) (limit : Nat) (j : Job)
      (op : s.op = .appendChunk l sequence content limit) (row : db.job l.jobId = some j)
      (holds : l.holds false s.now j = true) (unused : ∀ c ∈ db.chunks, c.jobId = l.jobId → c.sequence ≠ sequence) :
      Effect db s { db.updateJob l.jobId fun j => { j with outputBytes := j.outputBytes + content.utf8ByteSize } with
        chunks := db.chunks ++
          [⟨l.jobId, j.organizationId, j.workspaceId, sequence, l.fencingToken, content⟩] }
  | finished (l : Lease) (e : Ending) (completion : JobState) (results : List ResultRow) (approvals : List Approval) (j : Job)
      (op : s.op.lease = some l) (ends : s.op = .finish l e ∨ e.failed = false)
      (success : completion = .completed ∨ completion = .approvalRequired)
      (asks : Approves db.approvals approvals fun a => e.failed = false ∧ a.jobId = l.jobId)
      (row : db.job l.jobId = some j) (holds : l.holds true s.now j = true) :
      Effect db s (finishedDb l e (finishState e completion j) s.now j { db with results := results, approvals := approvals })
  | confirmed (l : Lease) (j : Job) (attempts : List Attempt) (op : s.op = .workerCancel l) (row : db.job l.jobId = some j)
      (holds : l.holds true s.now j = true) (requested : j.cancelRequestedAt.isSome = true) :
      Effect db s { db.updateJob l.jobId (fun j =>
        { j with state := .cancelled, leaseOwner := none, leaseExpiresAt := none, completedAt := some s.now }) with
        attempts := attempts }
  | recovered (org ws : Option Uuid) (op : s.op = .recoverExpired org ws) : Effect db s (recoverExpired org ws s.now db)
  | expired (org ws : Option Uuid) (op : s.op = .expireDeadlines org ws) : Effect db s (expireDeadlines org ws s.now db)
  | retried (id approvalId org ws : Uuid) (j : Job) (d : DeadLetter) (op : s.op = .retryDeadLetter id approvalId org ws)
      (row : db.job id = some j) (letter : d ∈ db.deadLetters) (licensed : retryLicensed db id approvalId org ws d = true)
      (state : j.state = .deadLetter) (below : j.maxAttempts < 10) : Effect db s (retriedDb id s.now db)
  | consoleCancelled (id org ws : Uuid) (j : Job) (op : s.op = .consoleCancel id org ws) (row : db.job id = some j)
      (scope : j.inScope (some org) (some ws) = true) (state : j.state ∉ finalStates) :
      Effect db s (db.updateJob id fun _ => consoleRow s.now j)
  | orchestrationCancelled (id org ws : Uuid) (j : Job) (op : s.op = .orchestrationCancel id org ws)
      (row : db.job id = some j) (scope : j.inScope (some org) (some ws) = true)
      (state : j.state ∉ finalStates ++ [JobState.expired, JobState.rejected]) :
      Effect db s (db.updateJob id fun _ => orchestrationRow s.now j)
  | decided (id org ws : Uuid) (actorId : String) (approved : Bool) (reason : String) (approvals : List Approval)
      (op : s.op = .decide id org ws actorId approved reason) (pending : (pendingApproval db id org ws).isSome = true)
      (settles : Approves db.approvals approvals fun _ => False) :
      Effect db s { db.updateJob id (fun j => { j with state := if approved then .approved else .rejected }) with
        approvals := approvals }
  | insertedApproval (a : Approval) (op : s.op = .insertApproval a) (unused : ∀ x ∈ db.approvals, x.id ≠ a.id) :
      Effect db s { db with approvals := db.approvals ++ [{ a with state := .approved, decidedAt := some s.now }] }

section Step

variable {db : Db} {s : Step} {id : Uuid}

theorem exec_cases (s : Step) (db : Db) : s.exec db = db ∨ s.effect db = .ok (s.exec db) := by
  unfold Step.exec
  cases s.effect db with
  | error e => exact .inl rfl
  | ok db' => exact .inr rfl

variable (s : Step)

/-- A transaction that commits makes one of these writes. -/
theorem exec_effect (db : Db) : Effect db s (s.exec db) := by
  rcases exec_cases s db with h | h
  · rw [h]; exact .nothing
  generalize s.exec db = db' at h
  have hfinish : ∀ {l e completion now state} results approvals, s.now = now → s.op.lease = some l →
      (s.op = .finish l e ∨ e.failed = false) → (completion = .completed ∨ completion = .approvalRequired) →
      Approves db.approvals approvals (fun a => e.failed = false ∧ a.jobId = l.jobId) →
      finish l e completion now { db with results := results, approvals := approvals } = .ok (state, db') →
      Effect db s db' := by
    intro l e completion now state results approvals hnow hop hends hs hids hf
    subst hnow
    obtain ⟨j, hj, hh, -, rfl⟩ := finish_ok hf
    exact .finished l e completion results approvals j hop hends hs hids hj hh
  obtain ⟨op, now⟩ := s
  cases op with
  | insertJob j =>
    obtain ⟨hid, hmax, rfl⟩ := insertJob_ok h
    exact .insertedJob j rfl hid hmax
  | claim c locked =>
    obtain ⟨⟨r, db''⟩, hr, hdb⟩ := bind_ok h
    cases hdb
    rcases claim_ok hr with ⟨-, rfl⟩ | ⟨j, active, hadm, hmem, hcl, rfl, rfl⟩
    · exact .nothing
    · have hret : Step.claims ⟨.claim c locked, now⟩ db = some (claimRow c now j) := by
        unfold Step.claims
        dsimp only
        rw [hr]
      exact .claimed c locked active j rfl hadm hmem hcl hret _
  | heartbeat l seconds =>
    obtain ⟨⟨r, db''⟩, hr, hdb⟩ := bind_ok h
    cases hdb
    obtain ⟨j, hj, hh, rfl⟩ := heartbeat_ok hr
    exact .renewed l seconds j rfl hj hh
  | appendChunk l sequence content limit =>
    obtain ⟨⟨r, db''⟩, hr, hdb⟩ := bind_ok h
    cases hdb
    obtain ⟨j, hj, hh, ⟨-, -, rfl⟩ | ⟨hun, -, rfl⟩⟩ := appendChunk_ok hr
    · exact .nothing
    · exact .streamed l sequence content limit j rfl hj hh hun
  | finish l e =>
    obtain ⟨⟨r, db''⟩, hr, hdb⟩ := bind_ok h
    cases hdb
    exact hfinish db.results db.approvals rfl rfl (.inl rfl) (.inl rfl)
      (.refl _ _) hr
  | completeJob l r correlationId =>
    obtain ⟨⟨r, db''⟩, hr, hdb⟩ := bind_ok h
    cases hdb
    rcases completeJob_ok hr with rfl | ⟨completion, results, approvals, hs, happ, hf⟩
    · exact .nothing
    · exact hfinish results approvals rfl rfl (.inr rfl) hs
        ⟨happ.ids, fun a ha hp => (happ.pending a ha hp).imp_right fun h => ⟨rfl, h⟩⟩ hf
  | processJob l r correlationId =>
    obtain ⟨⟨r, db''⟩, hr, hdb⟩ := bind_ok h
    cases hdb
    obtain ⟨completion, results, approvals, hs, happ, hf⟩ := processJob_ok hr
    exact hfinish results approvals rfl rfl (.inr rfl) hs
        ⟨happ.ids, fun a ha hp => (happ.pending a ha hp).imp_right fun h => ⟨rfl, h⟩⟩ hf
  | workerCancel l =>
    obtain ⟨⟨r, db''⟩, hr, hdb⟩ := bind_ok h
    cases hdb
    rcases workerCancel_ok hr with rfl | ⟨j, attempts, hj, hh, hc, rfl⟩
    · exact .nothing
    · exact .confirmed l j attempts rfl hj hh hc
  | recoverExpired org ws =>
    cases h
    exact .recovered org ws rfl
  | expireDeadlines org ws =>
    cases h
    exact .expired org ws rfl
  | retryDeadLetter id approvalId org ws =>
    obtain ⟨⟨r, db''⟩, hr, hdb⟩ := bind_ok h
    cases hdb
    obtain ⟨j, d, hj, hd, hlic, hst, hmax, rfl⟩ := retryDeadLetter_ok hr
    exact .retried id approvalId org ws j d rfl hj hd hlic hst hmax
  | consoleCancel id org ws =>
    obtain ⟨⟨r, db''⟩, hr, hdb⟩ := bind_ok h
    cases hdb
    obtain ⟨j, hj, hsc, hst, rfl⟩ := consoleCancel_ok hr
    exact .consoleCancelled id org ws j rfl hj hsc hst
  | orchestrationCancel id org ws =>
    obtain ⟨⟨r, db''⟩, hr, hdb⟩ := bind_ok h
    cases hdb
    obtain ⟨j, hj, hsc, hst, rfl⟩ := orchestrationCancel_ok hr
    exact .orchestrationCancelled id org ws j rfl hj hsc hst
  | decide id org ws actorId approved reason =>
    obtain ⟨⟨r, db''⟩, hr, hdb⟩ := bind_ok h
    cases hdb
    obtain ⟨approvals, hp, happ, rfl⟩ := decide_ok hr
    exact .decided id org ws actorId approved reason approvals rfl hp happ
  | insertApproval a =>
    obtain ⟨hnew, rfl⟩ := insertApproval_ok h
    exact .insertedApproval a rfl hnew

theorem exec_registrations (db : Db) : (s.exec db).registrations = db.registrations := by
  have heffect := exec_effect s db
  generalize s.exec db = db' at heffect
  cases heffect <;> rfl

theorem exec_approved (h : Approved db.approvals) : Approved (s.exec db).approvals := by
  have heffect := exec_effect s db
  generalize s.exec db = db' at heffect
  cases heffect with
  | finished l e completion results approvals j op ends success asks => exact asks.ids h
  | decided id org ws actorId approved reason approvals op pending settles => exact settles.ids h
  | insertedApproval a op unused => exact h.append unused
  | _ => exact h

end Step

end Middleware.Ai
